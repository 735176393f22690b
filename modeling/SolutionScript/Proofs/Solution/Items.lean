import SolutionScript.Proofs.Solution.Inclusion
import SolutionScript.Proofs.Solution.OutputPath
import SolutionScript.Proofs.Solution.Place

/-!
# Where the items of templates are read

A template that another one lists is read beside that one. A project that it lists is looked for as
those that the solution declares are: under its path as it is seen from the declared path of the
template, once the rules have mapped it. Both come to the same place where one rule moves the
template and the project, and leaves the separator after the folder of the template
(`load_item_place`). A rule that takes in that separator finds the template, but not the project
beside it (`item_left_behind`).
-/

namespace SolutionScript

open DescriptorPath FileSystem Text

/-! ## Declared paths of items -/

namespace DescriptorPath

variable {start more name name' : List Char} {declared item : String}

theorem directory_of_isName (h : Relative declared.toList) (hname : IsName declared.toList) :
    directory declared = "" := by
  have htail : (declared.toList.reverse.takeWhile (!isSeparator ·)).reverse = declared.toList := by
    rw [List.takeWhile_eq_self_iff.2 fun c hc => by
      simp [hname.separators c (List.mem_reverse.1 hc)], List.reverse_reverse]
  simp only [directory, split, splitDrive_relative h, htail, Nat.sub_self]
  rfl

/-- A relative path, seen from one that goes down to a name, comes below that. -/
theorem toList_join {base next : String} (hbase : EndsInName base.toList)
    (hnext : Relative next.toList) :
    (join base next).toList = base.toList ++ ['\\'] ++ next.toList := by
  obtain ⟨c, hlast, hc⟩ := hbase.getLast?_splitDrive
  rw [join, joinAll, List.foldl_cons, List.foldl_nil, ← Prod.mk.eta (p := splitDrive base.toList),
    joinParts_relative hnext, closed_of_last hlast hc, List.append_assoc,
    attachDrive_append hbase.below, String.toList_ofList, List.append_assoc]

theorem relative_ofHost (h : Relative item.toList) : Relative (ofHost item).toList := by
  rw [ofHost, replace, String.toList_ofList]
  exact relative_replaceList h

/-- The declared path of an item is the item, after what its template's items are seen from. -/
theorem Seen.itemPath_eq (h : Seen declared.toList start name) (hitem : Relative item.toList) :
    (Template.itemPath declared item).toList = start ++ (ofHost item).toList := by
  generalize hpath : declared.toList = path at h
  cases h with
  | alone hrelative hname =>
    subst hpath
    rw [Template.itemPath, directory_of_isName hrelative hname]
    rfl
  | @inFolder folder gap name hfolder hne hgap hname =>
    have hdirectory : directory declared = String.ofList folder :=
      InFolder.directory_eq ⟨by rwa [String.toList_ofList], gap, name,
        by rw [hpath, String.toList_ofList], hne, hgap, hname.separators⟩
    have hfull : String.ofList folder ≠ "" := fun heq =>
      hfolder.ne_nil (String.ofList_eq_empty_iff.1 heq)
    dsimp only [Template.itemPath]
    rw [hdirectory, if_neg hfull,
      toList_join (by rwa [String.toList_ofList]) (relative_ofHost hitem), String.toList_ofList]

theorem EndsInName.append {folder below : List Char} (h : EndsInName folder)
    (hbelow : EndsInName below) : EndsInName (folder ++ '\\' :: below) := by
  refine ⟨?_, fun c hc => hbelow.last c ?_⟩
  · rw [driveLength_append h.below h.last rfl, List.length_append]
    exact Nat.lt_add_right _ h.below
  · rwa [List.getLast?_append_cons, List.getLast?_cons_of_ne_nil hbelow.ne_nil] at hc

/-- What a template lists that another one lists is seen from the folder of that. -/
theorem Seen.nested (h : Seen declared.toList start name) (hitem : Relative item.toList)
    (hseen : Seen (ofHost item).toList more name') :
    Seen (Template.itemPath declared item).toList (start ++ more) name' := by
  rw [h.itemPath_eq hitem]
  generalize declared.toList = path at h
  generalize (ofHost item).toList = below at hseen
  cases h with
  | alone => exact hseen
  | @inFolder folder _ _ hfolder =>
    cases hseen with
    | alone _ hname =>
      rw [List.append_nil]
      exact .inFolder hfolder (List.cons_ne_nil _ _) (by simp [isSeparator]) hname
    | @inFolder folder' gap _ hfolder' hne hgap hname =>
      simpa using Seen.inFolder (hfolder.append hfolder') hne hgap hname

theorem Seen.stopsAt {path : List Char} (h : Seen path start name) (hpath : Relative path) :
    StopsAt isSeparator start := by
  cases h with
  | alone => simp [StopsAt]
  | @inFolder folder _ _ hfolder =>
    obtain ⟨c, folder, rfl⟩ := List.exists_cons_of_ne_nil hfolder.ne_nil
    exact stopsAt_cons.2 (stopsAt_cons.1 hpath.rootless)

theorem slash_not_mem_ofHost (s : String) : '/' ∉ (ofHost s).toList := by
  rw [ofHost, replace, String.toList_ofList, replaceList, List.mem_map]
  rintro ⟨c, -, hc⟩
  split at hc
  · exact absurd hc (by decide)
  · exact absurd hc ‹_›

theorem lastName_ofHost (s : String) : lastName (ofHost s).toList = lastName s.toList := by
  have hseparator : ((!isSeparator ·) ∘ fun c : Char => if c = '/' then '\\' else c) =
      (!isSeparator ·) := by
    funext c
    by_cases hc : c = '/' <;> simp [isSeparator, hc]
  have hkept : ∀ c ∈ s.toList.reverse.takeWhile (!isSeparator ·),
      (if c = '/' then '\\' else c) = c := by
    intro c hc
    rw [if_neg]
    rintro rfl
    exact absurd (List.mem_takeWhile_imp hc) (by decide)
  rw [lastName, lastName, ofHost, replace, String.toList_ofList, replaceList, ← List.map_reverse,
    List.takeWhile_map, hseparator, List.map_congr_left hkept, List.map_id']

theorem Seen.slash_not_mem {path : List Char} (h : Seen path start name) (hpath : '/' ∉ path) :
    '/' ∉ start := by
  cases h with
  | alone => exact List.not_mem_nil
  | inFolder =>
    simp only [List.mem_append, not_or] at hpath
    simpa using hpath.1.1

end DescriptorPath

namespace Template

variable {item : String}

/-- A template has the name of a file. -/
theorem IsTemplateItem.isName (h : IsTemplateItem item) : IsName (lastName item.toList) := by
  have hlength : 2 ≤ (lastName item.toList).length := by
    dsimp only [IsTemplateItem, DescriptorPath.extension, splitExtension] at h
    rw [← lastName] at h
    split at h
    · rename_i hstem
      rw [Bool.and_eq_true, List.any_eq_true] at hstem
      obtain ⟨-, c, hc, -⟩ := hstem
      have hpos := List.length_pos_of_mem hc
      rw [List.length_take] at hpos
      omega
    · exact absurd (show lower "" = ".etp" from h) (by decide)
  refine ⟨fun c hc => ?_, fun hnil => ?_, fun hdot => ?_⟩
  · exact not_isSeparator_takeWhile _ c (List.mem_reverse.1 hc)
  · rw [hnil] at hlength
    cases hlength
  · rw [hdot] at hlength
    exact absurd hlength (by decide)

/-! ## Ways through templates -/

/-- A template in a file lists an item, at the end of a way through the templates that it lists. -/
inductive Lists (d : Disk) : HostPath → List String → String → Prop where
  | here {file bytes root general item} :
    d.read file = .ok bytes → Xml.Document.parse bytes = .ok root → IsTemplate root general →
    item ∈ itemsOf general → Lists d file [] item
  | nested {file bytes root general next way item} :
    d.read file = .ok bytes → Xml.Document.parse bytes = .ok root → IsTemplate root general →
    next ∈ itemsOf general → IsTemplateItem next → Lists d (itemFile file next) way item →
    Lists d file (next :: way) item

section

variable {d : Disk} {file : HostPath} {declared name : String} {general : Xml.Element}
  {items way : List String} {entries : List TemplateEntry}

/-- What a walk meets in a template is what the items of the template lead to. -/
theorem Walks.opened {bytes : List UInt8} {root : Xml.Element}
    (h : Walks d (.template file declared name) entries) (hread : d.read file = .ok bytes)
    (hparse : Xml.Document.parse bytes = .ok root) (htemplate : IsTemplate root general) :
    Walks d (.items file declared general (itemsOf general)) entries := by
  cases h with
  | template hread' hparse' htemplate' hitems =>
    cases hread.symm.trans hread'
    cases hparse.symm.trans hparse'
    cases htemplate.2.symm.trans htemplate'.2
    exact hitems

/-- What a walk meets for one item is part of what it meets. The induction is on the items. -/
theorem Walks.exists_single (h : Walks d (.items file declared general items) entries)
    (hmem : item ∈ items) :
    ∃ found, Walks d (.items file declared general [item]) found ∧ found ⊆ entries := by
  induction items generalizing entries with
  | nil => cases hmem
  | cons other items ih =>
    cases h with
    | included htemplate hfound hrest =>
      rcases List.mem_cons.1 hmem with rfl | hmem
      · exact ⟨_, .included htemplate hfound .done, by simp⟩
      · obtain ⟨found, hwalks, hsub⟩ := ih hrest hmem
        exact ⟨found, hwalks, List.subset_append_of_subset_right _ hsub⟩
    | project hproject hgives hid hrest =>
      rcases List.mem_cons.1 hmem with rfl | hmem
      · exact ⟨_, .project hproject hgives hid .done, by simp⟩
      · obtain ⟨found, hwalks, hsub⟩ := ih hrest hmem
        exact ⟨found, hwalks, List.subset_cons_of_subset _ hsub⟩
    | skipped htemplate hproject hrest =>
      rcases List.mem_cons.1 hmem with rfl | hmem
      · exact ⟨_, .skipped htemplate hproject .done, List.nil_subset _⟩
      · exact ih hrest hmem

theorem Walks.of_template (h : Walks d (.items file declared general [item]) entries)
    (hitem : IsTemplateItem item) : Walks d (.item file declared item) entries := by
  cases h with
  | included _ hfound hrest =>
    cases hrest
    rwa [List.append_nil]
  | project hproject => exact absurd hitem (not_isTemplateItem hproject)
  | skipped htemplate => exact absurd hitem htemplate

theorem Walks.of_project (h : Walks d (.items file declared general [item]) entries)
    (hitem : IsProjectItem item) :
    ∃ id, ⟨id, DescriptorPath.stem item, itemPath declared item⟩ ∈ entries := by
  cases h with
  | included htemplate => exact absurd htemplate (not_isTemplateItem hitem)
  | project => exact ⟨_, List.mem_cons_self⟩
  | skipped _ hproject => exact absurd hitem hproject

/-- A walk through templates meets the projects at the ends of all ways, each under the path that
the way leads to. -/
theorem Lists.exists_entry (h : Lists d file way item) (hitem : IsProjectItem item)
    (hwalks : Walks d (.template file declared name) entries) :
    ∃ id,
      ⟨id, DescriptorPath.stem item, itemPath (way.foldl itemPath declared) item⟩ ∈ entries := by
  induction h generalizing declared name entries with
  | here hread hparse htemplate hmem =>
    obtain ⟨found, hfound, hsub⟩ := (hwalks.opened hread hparse htemplate).exists_single hmem
    obtain ⟨id, hentry⟩ := hfound.of_project hitem
    exact ⟨id, hsub hentry⟩
  | nested hread hparse htemplate hmem hnext _ ih =>
    obtain ⟨found, hfound, hsub⟩ := (hwalks.opened hread hparse htemplate).exists_single hmem
    obtain ⟨id, hentry⟩ := ih hitem (hfound.of_template hnext)
    exact ⟨id, hsub hentry⟩

end

/-! ## Places of items -/

/-- A declared path goes on after a start as a file does below a folder. -/
def GoesOn (start : List Char) (folder : HostPath) (path : String) (file : HostPath) : Prop :=
  ∃ below, path.toList = start ++ below ∧ StopsAt isSeparator below ∧ '/' ∉ below ∧
    file = folder.join (place below)

/-- A template that is reached from another one: how much its declared path has after the start of
that, and where its folder is below the folder of that. -/
structure Follows (start : List Char) (folder : HostPath) (declared : String) (file : HostPath)
    (more : List Char) : Prop where
  seen : ∃ name, Seen declared.toList (start ++ more) name
  parent : file.parent = folder.join (place more)
  segment : StartsSegment more
  stops : StopsAt isSeparator more
  slash : '/' ∉ more

section

variable {start more : List Char} {folder file : HostPath} {declared : String} {way : List String}

theorem itemFile_eq (file : HostPath) (item : String) :
    itemFile file item = file.parent.join (place item.toList) := by
  rw [itemFile, parse_toHost]

theorem follows_self {name : List Char} (h : Seen declared.toList start name) (file : HostPath) :
    Follows start file.parent declared file [] := by
  refine ⟨⟨name, by rwa [List.append_nil]⟩, ?_, startsSegment_nil, by simp [StopsAt],
    List.not_mem_nil⟩
  rw [HostPath.join_of_relative (p := place []) rfl]
  exact congrArg (HostPath.mk _) (List.append_nil _).symm

/-- A template that is listed by one that is reached is reached. -/
theorem Follows.next (h : Follows start folder declared file more)
    (htemplate : IsTemplateItem item) (hitem : Relative item.toList) :
    ∃ more', Follows start folder (itemPath declared item) (itemFile file item) more' := by
  have hhost := relative_ofHost hitem
  have hname : IsName (lastName (ofHost item).toList) := by
    rw [lastName_ofHost]
    exact htemplate.isName
  obtain ⟨name, hdeclared⟩ := h.seen
  obtain ⟨next, hnext⟩ := exists_seen hhost hname
  refine ⟨more ++ next, ⟨_, List.append_assoc start more next ▸ hdeclared.nested hitem hnext⟩, ?_,
    h.segment.append hnext.startsSegment, h.stops.append (hnext.stopsAt hhost), ?_⟩
  · rw [itemFile_eq, h.parent, ← place_ofHost, HostPath.parent_join hnext.names_ne_nil,
      hnext.parent_place, place_append h.segment (hnext.stopsAt hhost), HostPath.join_assoc]
  · rw [List.mem_append, not_or]
    exact ⟨h.slash, hnext.slash_not_mem (slash_not_mem_ofHost item)⟩

/-- The induction is on the way, of which each item leads to a template that follows. -/
theorem Follows.goesOn (h : Follows start folder declared file more)
    (hway : ∀ next ∈ way, IsTemplateItem next)
    (hrelative : ∀ next ∈ way ++ [item], Relative next.toList) :
    GoesOn start folder (itemPath (way.foldl itemPath declared) item)
      (itemFile (way.foldl itemFile file) item) := by
  induction way generalizing declared file more with
  | nil =>
    have hitem := hrelative item (by simp)
    have hhost := relative_ofHost hitem
    obtain ⟨name, hdeclared⟩ := h.seen
    refine ⟨more ++ (ofHost item).toList, ?_, h.stops.append hhost.rootless, ?_, ?_⟩
    · exact (hdeclared.itemPath_eq hitem).trans (List.append_assoc _ _ _)
    · rw [List.mem_append, not_or]
      exact ⟨h.slash, slash_not_mem_ofHost item⟩
    · rw [place_append h.segment hhost.rootless, place_ofHost, ← HostPath.join_assoc, ← h.parent]
      exact itemFile_eq file item
  | cons next way ih =>
    rw [List.forall_mem_cons] at hway
    rw [List.cons_append, List.forall_mem_cons] at hrelative
    obtain ⟨more', hnext⟩ := h.next hway.1 hrelative.1
    rw [List.foldl_cons, List.foldl_cons]
    exact ih hnext hway.2 hrelative.2

theorem Lists.isTemplateItem {d : Disk} (h : Lists d file way item) :
    ∀ next ∈ way, IsTemplateItem next := by
  induction h with
  | here => simp
  | nested _ _ _ _ hnext _ ih => exact List.forall_mem_cons.2 ⟨hnext, ih⟩

end

end Template

/-! ## Rules for templates and their items -/

/-- Seen from the host, a rule makes the same of two paths that are the same there. -/
theorem PathMapping.place_exchange (m : PathMapping) {path path' : String}
    (h : toHost path = toHost path') :
    place (m.exchange path).toList = place (m.exchange path').toList := by
  have hhost : replaceList '\\' '/' path.toList = replaceList '\\' '/' path'.toList := by
    simpa only [toHost, replace, String.ofList_inj] using h
  have hturned (cs : List Char) :
      replaceList '\\' '/' (m.turned cs) = replaceList '\\' '/' cs := by
    rw [turned]
    split
    · exact replaceList_back _ _ cs
    · rfl
  have hexchange (s : String) : replaceList '\\' '/' (m.exchange s).toList =
      replaceList '\\' '/' m.target.toList ++
        (replaceList '\\' '/' s.toList).drop m.source.length := by
    rw [toList_exchange, replaceList_append, hturned, replaceList, replaceList, replaceList,
      List.map_drop]
  rw [place, place, hostNames, hostNames, hexchange, hexchange, hhost]

namespace Solution

variable {mappings : List PathMapping} {m : PathMapping} {base folder file template : HostPath}
  {path declared start name : String}

/-- What goes on after a start is read below the place of that. -/
theorem fileAt_append {before below : List Char} (hbefore : StartsSegment before)
    (hbelow : StopsAt isSeparator below) (hpath : path.toList = before ++ below) :
    fileAt base path = (base.join (place before)).join (place below) := by
  rw [fileAt_eq, hpath, place_append hbefore hbelow, HostPath.join_assoc]

/-- Of some rules, one is the first that fits the path of a template and the path of an item. It
fits what the items are seen from as well, and leaves the start of a segment of that; and the
template is read from below that. -/
structure Moves (mappings : List PathMapping) (m : PathMapping)
    (declared start name path : String) : Prop where
  first : mappings.find? (·.fits declared) = some m
  first_item : mappings.find? (·.fits path) = some m
  fits : m.fits start = true
  segment : StartsSegment (m.exchange start).toList
  plain : toHost declared = toHost (start ++ name)

/-- A rule that moves a template and an item moves them to places below one folder. -/
theorem Moves.fileAt_eq (h : Moves mappings m declared start name path)
    (hseen : Seen declared.toList start.toList name.toList)
    (hpath : Template.GoesOn start.toList (fileAt base (mapPath mappings declared)).parent path
      file) : fileAt base (mapPath mappings path) = file := by
  obtain ⟨below, hbelow, hstops, hslash, rfl⟩ := hpath
  have hname : '/' ∉ name.toList := fun hmem =>
    absurd (hseen.isName.separators _ hmem) (by decide)
  have hparent : (fileAt base (m.exchange declared)).parent =
      base.join (place (m.exchange start).toList) := by
    rw [Solution.fileAt_eq, m.place_exchange h.plain,
      PathMapping.toList_exchange_append h.fits String.toList_append, PathMapping.turned_eq hname,
      HostPath.parent_join (names_place_ne_nil h.segment hseen.isName),
      parent_place h.segment hseen.isName]
  have hexchange : (m.exchange path).toList = (m.exchange start).toList ++ below := by
    rw [PathMapping.toList_exchange_append h.fits hbelow, PathMapping.turned_eq hslash]
  rw [mapPath_of_find? h.first, mapPath_of_find? h.first_item,
    fileAt_append h.segment hstops hexchange, hparent]

/-- Without rules, a template and an item are below one folder. -/
theorem fileAt_of_goesOn {start name : List Char} (hseen : Seen declared.toList start name)
    (hpath : Template.GoesOn start (fileAt base declared).parent path file) :
    fileAt base path = file := by
  obtain ⟨below, hbelow, hstops, -, rfl⟩ := hpath
  rw [fileAt_append hseen.startsSegment hstops hbelow, Solution.fileAt_eq,
    HostPath.parent_join hseen.names_ne_nil, hseen.parent_place]

section

variable {d : Disk} {lines way : List String} {text : SolutionText} {e : SolutionEntry}
  {item : String} {s : Solution}

/-- The projects that a template lists are loaded, each from the place of its mapped path. -/
theorem exists_project_of_item (h : load d file mappings = .ok s)
    (hlines : readLines d file = .ok lines) (htext : SolutionText.parse lines = .ok text)
    (he : e ∈ text.entries) (htype : e.typeId = templateType)
    (hfile : descriptorFile file.parent mappings e.name e.path = .ok template)
    (hlists : Template.Lists d template way item) (hitem : Template.IsProjectItem item)
    (hpath : Template.itemPath (way.foldl Template.itemPath e.path) item = path) :
    ∃ p ∈ s.projects, p.name = stem item ∧ p.path = path ∧
      isRemote (mapPath mappings path) = false ∧
      DescribedBy d (fileAt file.parent (mapPath mappings path)) p.declaration p := by
  obtain ⟨ps, hps⟩ := exists_projectsOf h hlines htext he
  have hother : e.typeId ∉ buildableTypes := by
    rw [htype]
    decide
  rw [projectsOf, if_neg hother, if_pos htype] at hps
  obtain ⟨template', hfile', hread⟩ := Fallible.bind_eq_ok.1 hps
  cases hfile.symm.trans hfile'
  obtain ⟨items, hread, -⟩ := Fallible.bind_eq_ok.1 hread
  obtain ⟨id, hentry⟩ := hlists.exists_entry hitem ((Template.runs_iff.2 hread.symm).walks rfl)
  rw [hpath] at hentry
  generalize stem item = title at hentry ⊢
  obtain ⟨p, hp, hdeclaration⟩ :=
    exists_of_declaredIn h hlines htext ⟨e, he, .item htype hfile hread hentry⟩
  have hname : p.name = title := congrArg Project.name hdeclaration
  have hdeclaredPath : p.path = path := congrArg Project.path hdeclaration
  obtain ⟨-, -, source, hsource, hdescribed⟩ := load_declared h hlines htext hp
  rw [hdeclaredPath] at hsource
  obtain ⟨hlocal, rfl⟩ := descriptorFile_eq_ok.1 hsource
  exact ⟨p, hp, hname, hdeclaredPath, Bool.eq_false_iff.2 hlocal, hdescribed⟩

/-- A project that a template lists is read from the place of its mapped path. Without a rule for
it, that is the place that the item names beside the declared place of the template. If one rule
moves the template and the project, it is the place that the item names beside the template that was
read. A rule for a template with a slash after its folder fits the project only if it leaves that
slash. -/
theorem load_item_place (hlines : readLines d file = .ok lines)
    (htext : SolutionText.parse lines = .ok text) (he : e ∈ text.entries)
    (htype : e.typeId = templateType)
    (hfile : descriptorFile file.parent mappings e.name e.path = .ok template)
    (hlists : Template.Lists d template way item) (hitem : Template.IsProjectItem item) :
    ∃ path, Template.itemPath (way.foldl Template.itemPath e.path) item = path ∧
      (∀ s, load d file mappings = .ok s → ∃ p ∈ s.projects, p.name = stem item ∧ p.path = path ∧
        isRemote (mapPath mappings path) = false ∧
        DescribedBy d (fileAt file.parent (mapPath mappings path)) p.declaration p) ∧
      ∀ start name : String, Seen e.path.toList start.toList name.toList →
        (∀ next ∈ way ++ [item], Relative next.toList) →
        ((∀ m ∈ mappings, ¬ m.fits path = true) →
          fileAt file.parent (mapPath mappings path) =
            Template.itemFile (way.foldl Template.itemFile (fileAt file.parent e.path)) item) ∧
        ∀ m, (Moves mappings m e.path start name path →
            fileAt file.parent (mapPath mappings path) =
              Template.itemFile (way.foldl Template.itemFile template) item) ∧
          ∀ folder, start = folder ++ "\\" → folder.toList ++ ['/'] <+: e.path.toList →
            m.fits e.path = true → (m.fits path = true ↔ m.fits folder = true) := by
  refine ⟨_, rfl, fun s h => exists_project_of_item h hlines htext he htype hfile hlists hitem rfl,
    fun start name hseen hrelative => ?_⟩
  have hgoes (file : HostPath) := (Template.follows_self hseen file).goesOn
    hlists.isTemplateItem hrelative
  generalize Template.itemPath (way.foldl Template.itemPath e.path) item = path at hgoes ⊢
  obtain ⟨-, hsource⟩ := descriptorFile_eq_ok.1 hfile
  refine ⟨fun hnone => ?_, fun m => ⟨fun hmoves => ?_, fun folder hstart hslash hfits => ?_⟩⟩
  · have hsame : mapPath mappings path = path := by
      rw [mapPath, List.find?_eq_none.2 hnone]
    rw [hsame]
    exact fileAt_of_goesOn hseen (hgoes _)
  · subst hsource
    exact hmoves.fileAt_eq hseen (hgoes _)
  · obtain ⟨below, hbelow, -⟩ := hgoes file
    refine PathMapping.fits_below_iff ⟨below, ?_⟩ hslash hfits
    rw [hbelow, hstart, String.toList_append]
    rfl

end

/-! ## A template in a template -/

/-- A solution with a template that it declares by URL. -/
def suiteLines : List String :=
  ["Microsoft Visual Studio Solution File, Format Version 8.00",
    "Project(\"{FE3BBBB6-72D5-11D2-9ACE-00C04F79A2A4}\") = \"Suite\", " ++
      "\"http://localhost/Apps/Suite.etp\", \"{S}\"",
    "EndProject"]

/-- A template that lists one in a folder of its own. -/
def outerTemplate : List String :=
  ["<EFPROJECT><GENERAL><Views><ProjectExplorer><File>Core/Core.etp</File></ProjectExplorer>" ++
    "</Views></GENERAL></EFPROJECT>"]

/-- A disk with the solution, and with the templates in one folder and its subfolder. -/
def suiteDisk : Disk where
  tree := ⟨[(["Work"], .folder), (["Work", "Suite.sln"], plainFile suiteLines),
    (["Work", "site"], .folder), (["Work", "site", "Suite.etp"], plainFile outerTemplate),
    (["Work", "site", "Core"], .folder),
    (["Work", "site", "Core", "Core.etp"], plainFile Template.coreTemplate),
    (["Work", "site", "Core", "C.csproj"], plainFile bareDescriptor)]⟩
  home := ["Work"]

/-- The block of the solution. -/
def suiteEntry : SolutionEntry :=
  ⟨"{FE3BBBB6-72D5-11D2-9ACE-00C04F79A2A4}", "Suite", "http://localhost/Apps/Suite.etp", "{S}", 2,
    []⟩

/-- The project at the end of the way through both templates. -/
def suiteProject : Project :=
  { id := "{C}", name := "C", path := "http://localhost/Apps\\Core\\C.csproj" }

/-- The project as it is loaded. -/
def suiteLoaded : Project :=
  { suiteProject with outputPath := Descriptor.outputPathOf suiteProject }

/-- The template where it is found. -/
def suiteFile : HostPath := ⟨.relative, ["site", "Suite.etp"]⟩

theorem readLines_suite : readLines suiteDisk ⟨.relative, ["Suite.sln"]⟩ = .ok suiteLines :=
  readLines_plainFile rfl (by decide)

theorem parse_suiteLines : SolutionText.parse suiteLines = .ok ⟨"8.00", [suiteEntry], []⟩ := by
  decide

/-- What the outer template says. -/
def outerGeneral : Xml.Element := ⟨"GENERAL", [], [Template.viewsOf ["Core/Core.etp"]]⟩

set_option maxRecDepth 2000 in
theorem parse_outerTemplate : Xml.Document.parse (Text.asciiBytes (Text.unlines outerTemplate)) =
    .ok ⟨"EFPROJECT", [], [outerGeneral.toNode]⟩ :=
  Xml.Document.parse_compactLine (by decide) (by decide) (by decide)

theorem itemsOf_outer : Template.itemsOf outerGeneral = ["Core/Core.etp"] := by
  decide

theorem isTemplateItem_core : Template.IsTemplateItem "Core/Core.etp" := by
  unfold Template.IsTemplateItem
  decide

theorem isProjectItem_c : Template.IsProjectItem "C.csproj" := .inl (by decide)

theorem itemFile_core : Template.itemFile suiteFile "Core/Core.etp" =
    ⟨.relative, ["site", "Core", "Core.etp"]⟩ := by
  decide

theorem lists_suite : Template.Lists suiteDisk suiteFile ["Core/Core.etp"] "C.csproj" := by
  refine .nested rfl parse_outerTemplate (Template.isTemplate_of (by decide))
    (by rw [itemsOf_outer]; simp) isTemplateItem_core ?_
  rw [itemFile_core]
  exact .here rfl Template.parse_coreTemplate (Template.isTemplate_of (by decide))
    (by rw [Template.itemsOf_core]; simp)

theorem read_suite : Template.read suiteDisk suiteFile suiteEntry.path "Suite" =
    .ok [⟨"{C}", "C", suiteProject.path⟩] := by
  have hstands : suiteDisk.HomeStands := by decide
  have hgives : Template.GivesId Template.coreGeneral "C.csproj" "{C}" :=
    Template.get?_idsOf.1 (by decide)
  have hpath : Template.itemPath (Template.itemPath suiteEntry.path "Core/Core.etp") "C.csproj" =
      suiteProject.path := by
    decide
  have hcore : Template.Walks suiteDisk (.item suiteFile suiteEntry.path "Core/Core.etp")
      [⟨"{C}", "C", suiteProject.path⟩] := by
    rw [Template.Visit.item, itemFile_core, ← hpath]
    refine .template rfl Template.parse_coreTemplate (Template.isTemplate_of (by decide)) ?_
    rw [Template.itemsOf_core]
    exact .project isProjectItem_c hgives (by decide) .done
  have hwalks : Template.Walks suiteDisk (.template suiteFile suiteEntry.path "Suite")
      [⟨"{C}", "C", suiteProject.path⟩] := by
    refine .template rfl parse_outerTemplate (Template.isTemplate_of (by decide)) ?_
    rw [itemsOf_outer]
    exact .included isTemplateItem_core hcore .done
  exact (Template.runs_iff.1 (hwalks.runs hstands fun _ _ _ _ => List.not_mem_nil)).symm

section

variable {mappings : List PathMapping}
  (hfile : descriptorFile ⟨.relative, []⟩ mappings suiteEntry.name suiteEntry.path = .ok suiteFile)
include hfile

theorem projectsOf_suite : projectsOf suiteDisk ⟨.relative, []⟩ mappings suiteEntry =
    .ok [suiteProject] := by
  have hother : suiteEntry.typeId ∉ buildableTypes := by decide
  have htype : suiteEntry.typeId = templateType := by decide
  have hread : Template.read suiteDisk suiteFile suiteEntry.path suiteEntry.name = _ := read_suite
  rw [projectsOf, if_neg hother, if_pos htype, hfile]
  simp only [bind, Except.bind, hread, pure, Except.pure, List.map_cons, List.map_nil, suiteProject]

theorem loadEntry_suite (solution : HostPath) :
    loadEntry suiteDisk solution ⟨.relative, []⟩ mappings [] suiteEntry = (do
      let source ← descriptorFile ⟨.relative, []⟩ mappings suiteProject.name suiteProject.path
      let (p, references) ← Descriptor.read suiteDisk suiteProject source
      pure [⟨p, references, 2⟩]) := by
  rw [loadEntry, projectsOf_suite hfile]
  change [suiteProject].foldlM (loadProject _ _ _ _ _) [] = _
  simp only [List.foldlM_cons, List.foldlM_nil, bind_pure]
  rfl

theorem load_suite (hsource : descriptorFile ⟨.relative, []⟩ mappings suiteProject.name
      suiteProject.path = .ok ⟨.relative, ["site", "Core", "C.csproj"]⟩) :
    load suiteDisk ⟨.relative, ["Suite.sln"]⟩ mappings =
      .ok ⟨"Suite.sln", "8.00", [suiteLoaded]⟩ := by
  have hread : Descriptor.read suiteDisk suiteProject ⟨.relative, ["site", "Core", "C.csproj"]⟩ =
    .ok (suiteLoaded, []) := read_bareDescriptor rfl rfl
  refine load_eq_ok.2 ⟨suiteLines, _, [⟨suiteLoaded, [], 2⟩], readLines_suite, parse_suiteLines, ?_,
    rfl, rfl, rfl⟩
  rw [List.foldlM_cons, HostPath.parent, List.dropLast_singleton, loadEntry_suite hfile, hsource]
  simp only [bind, Except.bind, hread]
  rfl

theorem load_suite_fails {f : Failure} (hsource : descriptorFile ⟨.relative, []⟩ mappings
      suiteProject.name suiteProject.path = .error f) :
    load suiteDisk ⟨.relative, ["Suite.sln"]⟩ mappings = .error f := by
  rw [load, readLines_suite]
  simp only [bind, Except.bind, parse_suiteLines]
  rw [List.foldlM_cons, HostPath.parent, List.dropLast_singleton, loadEntry_suite hfile, hsource]
  rfl

end

/-- A rule that leaves the slash after the folder of the outer template moves the project with
it. -/
theorem load_item_place_suite :
    ∃ s, load suiteDisk ⟨.relative, ["Suite.sln"]⟩ [⟨"http://localhost/Apps", "site"⟩] = .ok s ∧
      Template.Lists suiteDisk suiteFile ["Core/Core.etp"] "C.csproj" ∧
      Moves [⟨"http://localhost/Apps", "site"⟩] ⟨"http://localhost/Apps", "site"⟩ suiteEntry.path
        "http://localhost/Apps\\" "Suite.etp" suiteProject.path ∧
      ∃ p ∈ s.projects, p.name = "C" ∧ p.path = suiteProject.path ∧
        DescribedBy suiteDisk
          (Template.itemFile (["Core/Core.etp"].foldl Template.itemFile suiteFile) "C.csproj")
          p.declaration p := by
  have hfile : descriptorFile ⟨.relative, []⟩ [⟨"http://localhost/Apps", "site"⟩] suiteEntry.name
      suiteEntry.path = .ok suiteFile := by decide
  have hload := load_suite hfile (by decide)
  obtain ⟨path, hpath, hread, hplace⟩ := load_item_place readLines_suite parse_suiteLines
    List.mem_cons_self (by decide) hfile lists_suite isProjectItem_c
  have hdeclared : Template.itemPath (["Core/Core.etp"].foldl Template.itemPath suiteEntry.path)
      "C.csproj" = suiteProject.path := by decide
  obtain rfl : suiteProject.path = path := hdeclared.symm.trans hpath
  have hmoves : Moves [⟨"http://localhost/Apps", "site"⟩] ⟨"http://localhost/Apps", "site"⟩
      suiteEntry.path "http://localhost/Apps\\" "Suite.etp" suiteProject.path := by
    refine ⟨?_, ?_, ?_, ?_, ?_⟩
    · decide
    · decide
    · decide
    · rw [show PathMapping.exchange _ _ = "site\\" by decide]
      exact startsSegment_concat "site".toList rfl
    · decide
  have hseen : Seen suiteEntry.path.toList "http://localhost/Apps\\".toList "Suite.etp".toList := by
    refine @Seen.inFolder "http://localhost/Apps".toList ['/'] "Suite.etp".toList
      ⟨by decide, by simp [isSeparator]⟩ (by decide) (by decide) ⟨?_, ?_, ?_⟩
    all_goals decide
  have hrelative : ∀ next ∈ ["Core/Core.etp"] ++ ["C.csproj"], Relative next.toList :=
    List.forall_mem_cons.2 ⟨⟨by decide, by decide⟩,
      List.forall_mem_singleton.2 ⟨by decide, by decide⟩⟩
  obtain ⟨p, hp, hname, hppath, -, hdescribed⟩ := hread _ hload
  rw [((hplace _ _ hseen hrelative).2 _).1 hmoves] at hdescribed
  exact ⟨_, hload, lists_suite, hmoves, p, hp, hname.trans (by decide), hppath, hdescribed⟩

/-- A rule that takes in that slash finds both templates, and the descriptor that the inner one
lists stands beside it, but the project is looked for at the URL. -/
theorem item_left_behind :
    descriptorFile ⟨.relative, []⟩ [⟨"http://localhost/Apps/", "site/"⟩] suiteEntry.name
        suiteEntry.path = .ok suiteFile ∧
      Template.Lists suiteDisk suiteFile ["Core/Core.etp"] "C.csproj" ∧
      Template.IsProjectItem "C.csproj" ∧ Relative "C.csproj".toList ∧
      suiteDisk.read
          (Template.itemFile (["Core/Core.etp"].foldl Template.itemFile suiteFile) "C.csproj") =
        .ok (Text.asciiBytes (Text.unlines bareDescriptor)) ∧
      load suiteDisk ⟨.relative, ["Suite.sln"]⟩ [⟨"http://localhost/Apps/", "site/"⟩] =
        .error (.tool (.missingProject "C" "http://localhost/Apps\\Core\\C.csproj"
          .needsMapping)) := by
  have hfile : descriptorFile ⟨.relative, []⟩ [⟨"http://localhost/Apps/", "site/"⟩] suiteEntry.name
      suiteEntry.path = .ok suiteFile := by decide
  have hplace : Template.itemFile (["Core/Core.etp"].foldl Template.itemFile suiteFile) "C.csproj" =
      ⟨.relative, ["site", "Core", "C.csproj"]⟩ := by decide
  refine ⟨hfile, lists_suite, isProjectItem_c, ⟨by decide, by decide⟩, ?_,
    load_suite_fails hfile (by decide)⟩
  rw [hplace]
  rfl

end Solution

end SolutionScript
