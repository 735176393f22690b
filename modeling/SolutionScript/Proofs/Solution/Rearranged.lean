import SolutionScript.Proofs.FileSystem.Bare
import SolutionScript.Proofs.Repeatable
import SolutionScript.Proofs.Solution.Dependencies
import SolutionScript.Proofs.Solution.TwoLoads
import SolutionScript.Proofs.Xml.Markup

/-!
# Loading rearranged solutions

Where the lines of a solution stand that say what depends on what makes no difference: if they are
moved between the blocks of projects and global sections, the same solution is loaded
(`Solution.load_rearranged`). A solution is no document (`isMalformed_of_parse`), so nothing that is
loaded from a disk is read from it as a descriptor, and the rest of the disk is the same.
-/

namespace SolutionScript

open FileSystem Fallible

/-! ## Solutions are no documents -/

namespace Text

variable {line cs : List Char} {first : List Char} {blank rest : List (List Char)}

theorem dropWhile_afterLineEnd (c : Char) (cs : List Char) :
    (afterLineEnd c cs).dropWhile isBlank = cs.dropWhile isBlank := by
  unfold afterLineEnd
  split
  · rw [List.dropWhile_cons_of_pos (by decide)]
  · rfl

/-- After blank lines, a text starts as its first line that is not blank. -/
theorem dropWhile_prefix_of_linesFrom (h : linesFrom line cs = blank ++ first :: rest)
    (hblank : ∀ l ∈ blank, ∀ c ∈ l, isBlank c = true) (hfirst : ¬ ∀ c ∈ first, isBlank c = true) :
    first.dropWhile isBlank <+: (line.reverse ++ cs).dropWhile isBlank := by
  fun_induction linesFrom line cs generalizing blank with
  | case1 line hempty => simp at h
  | case2 line hempty =>
    cases blank with
    | nil =>
      obtain ⟨rfl, -⟩ := List.cons.inj h
      rw [List.append_nil]
    | cons l blank => simp at h
  | case3 line c cs hend ih =>
    cases blank with
    | nil =>
      obtain ⟨rfl, -⟩ := List.cons.inj h
      rw [List.dropWhile_append, if_neg]
      · exact List.prefix_append _ _
      · rwa [List.isEmpty_iff, List.dropWhile_eq_nil_iff]
    | cons l blank =>
      obtain ⟨rfl, hrest⟩ := List.cons.inj h
      rw [List.forall_mem_cons] at hblank
      have hrest := ih hrest hblank.2
      rw [List.reverse_nil, List.nil_append, dropWhile_afterLineEnd] at hrest
      rwa [List.dropWhile_append_of_pos hblank.1,
        List.dropWhile_cons_of_pos (isBlank_of_isLineEnd hend)]
  | case4 line c cs hend ih => simpa using ih h hblank

end Text

namespace SolutionText

open Text

/-- After blanks, a solution starts with the header. -/
theorem header_prefix_of_parse {s : String} {text : SolutionText}
    (h : parse (Text.lines s) = .ok text) : header.toList <+: s.toList.dropWhile isBlank := by
  obtain ⟨version, p, ⟨blank, first, rest, hlines, hblank, hfirst⟩, -⟩ := parse_eq_ok_iff.1 h
  obtain ⟨blank', left, hfrom, rfl, hleft⟩ := List.map_eq_append_iff.1 hlines
  obtain ⟨first', rest', rfl, rfl, rfl⟩ := List.map_eq_cons_iff.1 hleft
  have hstart : header.toList <+: first'.dropWhile isBlank := by
    have htrim : trimList first' <+: first'.dropWhile isBlank :=
      stripList_prefix_dropWhile isBlank first'
    rw [content, String.toList_ofList] at hfirst
    exact (hfirst ▸ List.prefix_append _ _).trans htrim
  refine hstart.trans (dropWhile_prefix_of_linesFrom hfrom ?_ fun hall => ?_)
  · intro l hl c hc
    have hl := hblank _ (List.mem_map_of_mem hl)
    rw [isBlankText, String.toList_ofList, List.all_eq_true] at hl
    exact hl c hc
  · rw [List.dropWhile_eq_nil_iff.2 hall] at hstart
    exact absurd hstart (by decide)

section

variable {run more : List Char}

theorem not_mem_take_header (h : ∀ c ∈ run, isBlank c = true) :
    '\x00' ∉ (run ++ (header.toList ++ more)).take 2 := by
  have hshort : 2 - run.length ≤ header.toList.length :=
    (Nat.sub_le _ _).trans (by decide)
  rw [List.take_append, List.take_append_of_le_length hshort, List.mem_append]
  rintro (hmem | hmem)
  · exact absurd (h _ (List.mem_of_mem_take hmem)) (by decide)
  · exact absurd (List.mem_of_mem_take hmem) (by decide)

theorem head?_ne_mark (h : ∀ c ∈ run, isBlank c = true) :
    (run ++ (header.toList ++ more)).head? ≠ some '\uFEFF' := by
  cases run with
  | nil => simp [header]
  | cons c run =>
    rw [List.cons_append, List.head?_cons, ne_eq, Option.some.injEq]
    rintro rfl
    exact absurd (h _ List.mem_cons_self) (by decide)

theorem head?_ne_bracket (h : ∀ c ∈ run, isBlank c = true) :
    ((run ++ (header.toList ++ more)).dropWhile Xml.isSpace).head? ≠ some '<' := by
  induction run with
  | nil => simp [header, Xml.isSpace]
  | cons c run ih =>
    rw [List.forall_mem_cons] at h
    rw [List.cons_append, List.dropWhile_cons]
    split
    · exact ih h.2
    · rw [List.head?_cons, ne_eq, Option.some.injEq]
      rintro rfl
      exact absurd h.1 (by decide)

end

end SolutionText

/-- No document stands at a place. -/
def NoDocument (d : Disk) (l : Location) : Prop :=
  ∀ bytes root, d.tree.entry? l = some (.file bytes) → Xml.Document.parse bytes ≠ .ok root

/-- What stands at a place is no well-formed document. -/
def IsMalformed (d : Disk) (l : Location) : Prop :=
  ∀ bytes, d.tree.entry? l = some (.file bytes) →
    ∃ fault, Xml.Document.parse bytes = .error (.malformed fault)

theorem IsMalformed.noDocument {d : Disk} {l : Location} (h : IsMalformed d l) :
    NoDocument d l := by
  intro bytes root hentry hparse
  obtain ⟨fault, hfault⟩ := h bytes hentry
  cases hparse.symm.trans hfault

open Solution in
theorem isMalformed_of_parse {d : Disk} {file : HostPath} {l : Location} {lines : List String}
    {text : SolutionText} (hfile : d.locate file = .ok l) (hlines : readLines d file = .ok lines)
    (hparse : SolutionText.parse lines = .ok text) : IsMalformed d l := by
  unfold Solution.readLines at hlines
  split at hlines
  · cases hlines
  · cases hlines
  · rename_i bytes hread
    split at hlines
    · rename_i cs hdecode
      cases hlines
      obtain ⟨more, hmore⟩ := SolutionText.header_prefix_of_parse hparse
      rw [String.toList_ofList] at hmore
      have hcs := List.takeWhile_append_dropWhile (p := Text.isBlank) (l := cs)
      have hrun : ∀ c ∈ cs.takeWhile Text.isBlank, Text.isBlank c = true := fun _ =>
        List.mem_takeWhile_imp
      rw [← hmore] at hcs
      generalize cs.takeWhile Text.isBlank = run at hcs hrun
      intro bytes' hentry
      have hbytes := Disk.entry?_of_read hread
      rw [Disk.collapse_of_locate hfile, hentry] at hbytes
      cases hbytes
      exact Xml.Document.parse_of_plain hdecode (hcs ▸ SolutionText.not_mem_take_header hrun)
        (hcs ▸ SolutionText.head?_ne_mark hrun) (hcs ▸ SolutionText.head?_ne_bracket hrun)
    · cases hlines

/-! ## Descriptors -/

namespace Include

theorem matching_bare (d : Disk) : matching d.bare = matching d := by
  funext folder part
  rw [matching, matching, Disk.glob_bare, Disk.onlyFiles_bare]

theorem expandPart_bare (d : Disk) : expandPart d.bare = expandPart d := by
  funext folder part
  rw [expandPart, expandPart, matching_bare]

theorem expand_bare (d : Disk) : expand d.bare = expand d := by
  funext folder item
  rw [expand, expand, expandPart_bare]

end Include

namespace Descriptor.Properties

theorem readItem_bare (d : Disk) : readItem d.bare = readItem d := by
  funext directory folder e
  rw [readItem, readItem, Include.expand_bare]

theorem findSources_bare (d : Disk) : findSources d.bare = findSources d := by
  funext kind folder
  rw [findSources, findSources, Disk.glob_bare]

/-- What properties say depends on what files there are, and not on what these hold. -/
theorem read_bare (d : Disk) : Properties.read d.bare = Properties.read d := by
  funext p root file
  rw [Properties.read, Properties.read, readItem_bare, findSources_bare]

end Descriptor.Properties

namespace FileSystem

theorem SameBut.readProperties_eq {l : Location} {d d' : Disk} (h : SameBut l d d') :
    Descriptor.Properties.read d = Descriptor.Properties.read d' := by
  rw [← Descriptor.Properties.read_bare, h.bare, Descriptor.Properties.read_bare]

/-- Two disks that hold the same but for the file at a place, which on neither of them holds a
document. -/
structure SameDocuments (l : Location) (d d' : Disk) : Prop extends SameBut l d d' where
  none : NoDocument d l
  none' : NoDocument d' l

namespace SameDocuments

variable {l : Location} {d d' : Disk} {base file : HostPath} {mappings : List PathMapping}

theorem symm (h : SameDocuments l d d') : SameDocuments l d' d :=
  ⟨h.toSameBut.symm, h.none', h.none⟩

/-- A document is found on both. -/
theorem load_ok (h : SameDocuments l d d') {name : String} {root : Xml.Element}
    (hload : Descriptor.load d file name = .ok root) : Descriptor.load d' file name = .ok root := by
  obtain ⟨bytes, hread, hparse⟩ := Template.load_eq_ok.1 hload
  refine Template.load_eq_ok.2 ⟨bytes, ?_, hparse⟩
  rw [← h.read_eq, hread]
  intro hlocate
  have hentry := Disk.entry?_of_read hread
  rw [Disk.collapse_of_locate hlocate] at hentry
  exact h.none bytes root hentry hparse

theorem load_agree (h : SameDocuments l d d') (file : HostPath) (name : String) :
    Agree Eq (Descriptor.load d file name) (Descriptor.load d' file name) :=
  .of_ok (fun root hroot => ⟨root, h.load_ok hroot, rfl⟩) fun root hroot =>
    ⟨root, h.symm.load_ok hroot⟩

theorem readDescriptor_agree (h : SameDocuments l d d') (p : Project) (file : HostPath) :
    Agree Eq (Descriptor.read d p file) (Descriptor.read d' p file) := by
  rw [Descriptor.read, Descriptor.read, ← h.readProperties_eq]
  refine (h.load_agree file p.name).bind fun root _ hroot => ?_
  cases hroot
  exact Agree.refl _

end SameDocuments

end FileSystem

/-! ## Solutions -/

namespace Solution

/-- Two projects are loaded alike, whatever the lines that declare them. -/
structure Loaded.Same (l l' : Loaded) : Prop where
  project : l'.project = l.project
  references : l'.references = l.references

/-- Two solutions are the same, the dependencies of their projects in any order. -/
structure Same (s s' : Solution) : Prop where
  path : s'.path = s.path
  formatVersion : s'.formatVersion = s.formatVersion
  projects : List.Forall₂ Project.Same s.projects s'.projects

end Solution

open Solution in
/-- Nothing that is loaded from two such disks is read from the file at the place. -/
theorem FileSystem.SameDocuments.loadsAlike {l : Location} {d d' : Disk} (h : SameDocuments l d d')
    (file base : HostPath) (mappings : List PathMapping) :
    LoadsAlike d d' file base mappings (Both fun _ => True) (fun _ _ => True) Loaded.Same where
  home := h.home_eq
  other _ _ := ⟨trivial, trivial⟩
  refused _ _ _ _ := ⟨trivial, trivial⟩
  template source name := (h.load_agree source name).mono (fun _ _ he => he) fun root _ hroot =>
    hroot ▸ Template.SameTemplate.refl root
  descriptor p source _ _ _ _ := (h.readDescriptor_agree p source).mono (fun _ _ he => he)
    fun _ _ hr => hr ▸ ⟨rfl, rfl⟩
  project hl := hl.project

/-! ## Resolving -/

namespace Solution

variable {file : HostPath} {ps : List Project} {dependencies dependencies' : Keyed (List String)}
  {l l' : Loaded}

/-- Adding dependencies to a project changes nothing else of it. -/
theorem foldl_addDependency_with (ids : List String) (p : Project) {found : List String}
    (hfound : found.Nodup) :
    { ids.foldl Project.addDependency p with
      dependencies := found, dependencies_nodup := hfound } =
      { p with dependencies := found, dependencies_nodup := hfound } := by
  induction ids generalizing p with
  | nil => rfl
  | cons id ids ih =>
    rw [List.foldl_cons, ih, Project.addDependency]
    split <;> rfl

/-- Projects that are loaded alike are the same once they are resolved, if they are said to depend
on the same. -/
theorem resolve_agree (hl : l.Same l') (h : ∀ id target,
      target ∈ (dependencies'.get? id).getD [] ↔ target ∈ (dependencies.get? id).getD []) :
    Agree Project.Same (resolve file ps dependencies l) (resolve file ps dependencies' l') := by
  obtain ⟨p', references', line'⟩ := l'
  obtain ⟨p, references, line⟩ := l
  obtain ⟨rfl : p' = p, rfl : references' = references⟩ := hl
  dsimp only [resolve]
  generalize hids :
    references'.map (resolveReference ps) ++ (dependencies.get? p'.id).getD [] = ids
  generalize hids' :
    references'.map (resolveReference ps) ++ (dependencies'.get? p'.id).getD [] = ids'
  have hmem (target : String) : target ∈ (ids'.foldl Project.addDependency p').dependencies ↔
      target ∈ (ids.foldl Project.addDependency p').dependencies := by
    rw [mem_foldl_addDependency, mem_foldl_addDependency, ← hids, ← hids', List.mem_append,
      List.mem_append, h]
  rw [(foldl_addDependency_keeps ids p').id, (foldl_addDependency_keeps ids' p').id]
  by_cases hself : p'.id ∈ (ids.foldl Project.addDependency p').dependencies
  · rw [if_pos hself, if_pos ((hmem _).2 hself)]
    exact .error
  · rw [if_neg hself, if_neg fun hself' => hself ((hmem _).1 hself')]
    have hnodup := (ids'.foldl Project.addDependency p').dependencies_nodup
    refine .ok ⟨?_, (List.perm_ext_iff_of_nodup
      (ids.foldl Project.addDependency p').dependencies_nodup hnodup).2 fun target =>
        (hmem target).symm⟩
    exact (foldl_addDependency_with ids' p' hnodup).trans
      (foldl_addDependency_with ids p' hnodup).symm

/-- The same solution is loaded wherever its dependencies stand, be it in the blocks of projects or
in global sections. -/
theorem load_rearranged {d d' : Disk} {place : Location} {mappings : List PathMapping}
    {lines lines' : List String} {s : Solution} (hd : SameBut place d d')
    (hfile : d.locate file = .ok place) (hlines : readLines d file = .ok lines)
    (hlines' : readLines d' file = .ok lines') (h : SolutionText.Rearranged lines lines')
    (hload : load d file mappings = .ok s) :
    ∃ s', load d' file mappings = .ok s' ∧ s.Same s' := by
  obtain ⟨lines₀, text, loaded, hread, hparse, hloaded, hprojects, hpath, hversion⟩ :=
    load_eq_ok.1 hload
  obtain rfl : lines₀ = lines := Except.ok.inj (hread.symm.trans hlines)
  obtain ⟨text', hparse', hsame⟩ := h.parse_agree.exists_ok hparse
  have hdocuments : SameDocuments place d d' :=
    ⟨hd, (isMalformed_of_parse hfile hlines hparse).noDocument,
      (isMalformed_of_parse (hd.locate_eq ▸ hfile) hlines' hparse').noDocument⟩
  have hloads := hdocuments.loadsAlike file file.parent mappings
  have hfold := hloads.entries (hsame.entries.imp fun _ _ he => ⟨he, trivial⟩)
  obtain ⟨loaded', hloaded', halike⟩ := Agree.exists_ok hfold hloaded
  have hresolved : Agree (List.Forall₂ Project.Same)
      (loaded.mapM (resolve file (loaded.map (·.project)) text.dependencies))
      (loaded'.mapM (resolve file (loaded'.map (·.project)) text'.dependencies)) := by
    rw [hloads.map_project_eq halike]
    exact .mapM_forall₂ halike fun _ _ hl => resolve_agree hl hsame.dependencies
  obtain ⟨projects', hprojects', hps⟩ := hresolved.exists_ok hprojects
  refine ⟨⟨file.render, text'.version, projects'⟩, load_eq_ok.2 ⟨lines', text', loaded', hlines',
    hparse', hloaded', hprojects', rfl, rfl⟩, hpath.symm,
    hsame.version.trans hversion.symm, hps⟩

/-- The lines of `pairLines` with a section of dependencies in the first block. -/
def ownLines (own dependencies : List String) : List String :=
  (pairLines []).take 2 ++ ("ProjectSection(ProjectDependencies) = postProject" ::
    (own ++ ("EndProjectSection" :: (pairLines dependencies).drop 2)))

/-- The disk with `Chain.sln` in that form. -/
def ownDisk : Disk where
  tree := ⟨[(["Work"], .folder), (["Work", "Chain.sln"], plainFile (ownLines ["{C} = {C}"] [])),
    (["Work", "Loop.sln"], plainFile loopLines), (["Work", "App.csproj"], plainFile bareDescriptor),
    (["Work", "Core.csproj"], plainFile bareDescriptor)]⟩
  home := ["Work"]

theorem isPlain_ownLines {own dependencies : List String}
    (hown : ∀ l ∈ own, l.toList.all Text.isPlain)
    (hdependencies : ∀ l ∈ dependencies, l.toList.all Text.isPlain) :
    ∀ l ∈ ownLines own dependencies, l.toList.all Text.isPlain := by
  have hbrackets : "ProjectSection(ProjectDependencies) = postProject".toList.all Text.isPlain ∧
      "EndProjectSection".toList.all Text.isPlain := by decide
  have hfirst := @isPlain_pairLines [] (by simp)
  have hrest := isPlain_pairLines hdependencies
  simp only [ownLines, List.forall_mem_append, List.forall_mem_cons]
  exact ⟨fun l hl => hfirst l (List.mem_of_mem_take hl), hbrackets.1, hown, hbrackets.2,
    fun l hl => hrest l (List.mem_of_mem_drop hl)⟩

section

open SolutionText

/-- A section is opened in the first block. -/
theorem addsPadding_ownLines (dependencies : List String) :
    AddsPadding (pairLines dependencies) (ownLines [] dependencies) := by
  have hbrackets : openSection? ((pairLines []).take 2) = none ∧
      lineKind (content "ProjectSection(ProjectDependencies) = postProject") =
        .sectionStart dependencySection ∧
      lineKind (content "EndProjectSection") = .sectionEnd := by decide
  exact @AddsPadding.intro ((pairLines []).take 2) ((pairLines dependencies).drop 2) [_, _]
    (.brackets hbrackets.2.1 hbrackets.2.2 hbrackets.1) ⟨_, List.mem_cons_self, by decide⟩

theorem adds_global : Adds "{A}" "{C}" (ownLines [] []) (ownLines [] ["{A}.0 = {C}"]) := by
  have houtside : openBlock? (ownLines [] []) = none ∧
      openSection? (ownLines [] []) = some "GlobalSection(ProjectDependencies)".toList ∧
      sectionName "GlobalSection(ProjectDependencies)".toList = dependencySection := by
    decide
  exact @Adds.intro _ _ (ownLines [] []) [] "{A}.0 = {C}" (.global houtside.1 houtside.2.1
    houtside.2.2 (readGlobalDependency_eq_some.1 (by decide)))

theorem adds_own : Adds "{A}" "{C}" (ownLines [] []) (ownLines ["{C} = {C}"] []) := by
  obtain ⟨block, opening, hinside, hmark, hentry, hopened, hname⟩ : ∃ block opening,
      openBlock? ((ownLines [] []).take 3) = some block ∧ entryMark.isPrefixOf block ∧
      readEntry 0 block =
        some ⟨"{FAE04EC0-301F-11D3-BF4B-00C04F79EFBC}", "App", "App.csproj", "{A}", 0, []⟩ ∧
      openSection? ((ownLines [] []).take 3) = some opening ∧
      sectionName opening = dependencySection :=
    ⟨content ((pairLines []).getD 1 ""), content ((ownLines [] []).getD 2 ""), by decide⟩
  have hdeclares : SolutionText.Declares block "{A}" := by
    obtain ⟨typeId, name, path, id, hline, heq⟩ :=
      (readEntry_eq_some (List.isPrefixOf_iff_prefix.1 hmark)).1 hentry
    exact ⟨typeId, name, path, id, hline, congrArg SolutionEntry.projectId heq⟩
  exact @Adds.intro _ _ ((ownLines [] []).take 3) ((ownLines [] []).drop 3) "{C} = {C}"
    (.own hinside hdeclares hopened hname (readOwnDependency_eq_some.1 (by decide)))

theorem rearranged_chainLines : Rearranged chainLines (ownLines ["{C} = {C}"] []) :=
  .tail (.single (.pad (addsPadding_ownLines _))) (.line adds_global adds_own)

end

theorem load_rearranged_chain :
    ∃ s s', load pairDisk ⟨.relative, ["Chain.sln"]⟩ [] = .ok s ∧
      load ownDisk ⟨.relative, ["Chain.sln"]⟩ [] = .ok s' ∧ s.Same s' := by
  obtain ⟨a, c, hload⟩ := load_chain
  have hd : SameBut ["Work", "Chain.sln"] pairDisk ownDisk := by
    refine ⟨rfl, fun l hl => ?_⟩
    simp only [FileTree.entry?, pairDisk, ownDisk, List.find?_cons, beq_eq_false_iff_ne.2 hl.symm]
  obtain ⟨s', hload', hsame⟩ := load_rearranged hd rfl
    (readLines_plainFile rfl (isPlain_pairLines (by decide)))
    (readLines_plainFile rfl (isPlain_ownLines (by decide) (by simp))) rearranged_chainLines hload
  exact ⟨_, s', hload, hload', hsame⟩

end Solution

end SolutionScript
