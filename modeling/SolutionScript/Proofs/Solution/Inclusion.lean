import Mathlib.Logic.Relation
import SolutionScript.Proofs.FileSystem.Glob
import SolutionScript.Proofs.FileSystem.Walk
import SolutionScript.Proofs.Keyed
import SolutionScript.Proofs.Solution.PlainFile
import SolutionScript.Solution.Template

/-!
# Templates in templates

A template is expanded by a walk through the templates that it includes, with the
places of those on the way kept in mind (`Runs`). Every such walk ends, in one way
only, and that is what reading a template gives (`runs_iff`). If it gives projects,
they are those that a walk without any memory meets (`Walks`), and no template that is
reached includes itself, however many steps there are in between (`read_walks`).
-/

namespace SolutionScript

open FileSystem Fallible Relation

namespace FileSystem.Disk

variable {d : Disk} {t : FileTree} {here l : Location} {names : List String} {file : HostPath}

/-- Where names lead, they lead to the place that they say. -/
theorem eq_of_follow (h : follow t here names = .ok l) : names.foldl HostPath.stepTo here = l := by
  induction names generalizing here with
  | nil =>
    cases h
    rfl
  | cons name names ih => exact ih (follow_cons_eq_ok.1 h).2.2

theorem collapse_of_locate (h : d.locate file = .ok l) : file.collapse d.home = l :=
  eq_of_follow (locate_eq_ok.1 h).2

/-- A file that is read stands where its path says. -/
theorem entry?_of_read {bytes : List UInt8} (h : d.read file = .ok bytes) :
    d.tree.entry? (file.collapse d.home) = some (.file bytes) := by
  obtain ⟨-, l, hlocate, hentry⟩ := read_eq_ok.1 h
  rwa [collapse_of_locate hlocate]

/-- A file that is read has a name, which is no step back. -/
theorem HomeStands.collapse_parent (hd : d.HomeStands) {bytes : List UInt8}
    (h : d.read file = .ok bytes) :
    file.parent.collapse d.home = (file.collapse d.home).dropLast := by
  have hentry := entry?_of_read h
  obtain ⟨-, l, hlocate, -⟩ := read_eq_ok.1 h
  rw [collapse_of_locate hlocate] at hentry ⊢
  rcases hd.locate_cases hlocate with ⟨-, rfl⟩ | ⟨names, name, folder, hnames, hreached, -, rfl⟩
  · rw [hd.entry?_startOf] at hentry
    cases hentry
  · have hname : name ≠ ".." := by
      rintro rfl
      rw [HostPath.stepTo, if_pos rfl, hreached.entry?_dropLast] at hentry
      cases hentry
    have hfolder : file.parent.collapse d.home = folder := by
      have hall := collapse_of_locate hlocate
      rw [HostPath.collapse, hnames, List.foldl_concat, HostPath.stepTo, HostPath.stepTo,
        if_neg hname, if_neg hname] at hall
      rw [HostPath.collapse, HostPath.parent, hnames, List.dropLast_concat]
      exact List.append_inj_left' hall rfl
    rw [hfolder, HostPath.stepTo, if_neg hname, List.dropLast_concat]

end FileSystem.Disk

namespace Template

/-! ## What templates list -/

/-- The references that a template makes, in both spellings. -/
def referencesOf (general : Xml.Element) : List Xml.Element :=
  ["References", "REFERENCES"].flatMap fun name =>
    Descriptor.childrenOf (general.child? name) "Reference"

/-- The last reference of a template with the name of an item gives the item its identifier. -/
def GivesId (general : Xml.Element) (item id : String) : Prop :=
  ∃ before e after, referencesOf general = before ++ e :: after ∧
    Descriptor.childText e "FILE" = item ∧
    (∀ other ∈ after, Descriptor.childText other "FILE" ≠ item) ∧
    Guid.normalize (Descriptor.childText e "GUIDPROJECTID") = id

theorem get?_idsOf {general : Xml.Element} {item id : String} :
    (idsOf general).get? item = some id ↔ GivesId general item id :=
  (Keyed.get?_foldl_put (referencesOf general) []).trans (or_iff_left fun h => nomatch h.2)

/-- The tree of a template, and the part of it that says what the template lists. -/
def IsTemplate (root general : Xml.Element) : Prop :=
  root.localName = "EFPROJECT" ∧ root.child? "GENERAL" = some general

theorem contents?_eq_some {root : Xml.Element} {c : Contents} :
    contents? root = some c ↔
      ∃ general, IsTemplate root general ∧ c = ⟨itemsOf general, idsOf general⟩ := by
  unfold contents? IsTemplate
  cases root.child? "GENERAL" with
  | none => simp
  | some general =>
    by_cases h : root.localName = "EFPROJECT"
    · simp [h, eq_comm]
    · simp [h]

/-! ## Walks -/

/-- What a walk through templates comes to: a template in a file, or some items of one. -/
inductive Visit where
  | template (file : HostPath) (declared name : String)
  | items (file : HostPath) (declared : String) (general : Xml.Element) (items : List String)

/-- An item is a template itself. -/
def IsTemplateItem (item : String) : Prop := DescriptorPath.extension item = ".etp"

/-- An item is a project that can be built. -/
def IsProjectItem (item : String) : Prop :=
  DescriptorPath.extension item = ".csproj" ∨ DescriptorPath.extension item = ".vbproj"

/-- A visit of an item that is a template. -/
def Visit.item (file : HostPath) (declared item : String) : Visit :=
  .template (itemFile file item) (itemPath declared item) (DescriptorPath.stem item)

/-- How a walk ends that keeps in mind the places of the templates on the way. -/
inductive Runs (d : Disk) : List Location → Visit → Except Failure (List TemplateEntry) → Prop
  | null {seen file declared name} :
    Disk.hasNull file = true →
    Runs d seen (.template file declared name) (.error (.disk .nullCharacter))
  | again {seen file declared name} :
    Disk.hasNull file = false → file.collapse d.home ∈ seen →
    Runs d seen (.template file declared name)
      (.error (.tool (.descriptor file.render .templateInItself {})))
  | unread {seen file declared name e} :
    Disk.hasNull file = false → file.collapse d.home ∉ seen →
    Descriptor.load d file name = .error e → Runs d seen (.template file declared name) (.error e)
  | other {seen file declared name root} :
    Disk.hasNull file = false → file.collapse d.home ∉ seen →
    Descriptor.load d file name = .ok root → (∀ general, ¬ IsTemplate root general) →
    Runs d seen (.template file declared name)
      (.error (.tool (.descriptor file.render .notTemplate {})))
  | opened {seen file declared name root general r} :
    Disk.hasNull file = false → file.collapse d.home ∉ seen →
    Descriptor.load d file name = .ok root → IsTemplate root general →
    Runs d (file.collapse d.home :: seen) (.items file declared general (itemsOf general)) r →
    Runs d seen (.template file declared name) r
  | done {seen file declared general} : Runs d seen (.items file declared general []) (.ok [])
  | included {seen file declared general item rest found r} :
    IsTemplateItem item → Runs d seen (.item file declared item) (.ok found) →
    Runs d seen (.items file declared general rest) r →
    Runs d seen (.items file declared general (item :: rest)) (r.map (found ++ ·))
  | includedFails {seen file declared general item rest e} :
    IsTemplateItem item → Runs d seen (.item file declared item) (.error e) →
    Runs d seen (.items file declared general (item :: rest)) (.error e)
  | project {seen file declared general item rest entry r} :
    IsProjectItem item → projectItem file declared (idsOf general) item = .ok entry →
    Runs d seen (.items file declared general rest) r →
    Runs d seen (.items file declared general (item :: rest)) (r.map (entry :: ·))
  | projectFails {seen file declared general item rest e} :
    IsProjectItem item → projectItem file declared (idsOf general) item = .error e →
    Runs d seen (.items file declared general (item :: rest)) (.error e)
  | skipped {seen file declared general item rest r} :
    ¬ IsTemplateItem item → ¬ IsProjectItem item →
    Runs d seen (.items file declared general rest) r →
    Runs d seen (.items file declared general (item :: rest)) r

/-- The projects that a walk meets, in order, and nothing else: each with the identifier that its
own template gives it, and below the path of that template. -/
inductive Walks (d : Disk) : Visit → List TemplateEntry → Prop
  | template {file declared name bytes root general entries} :
    d.read file = .ok bytes → Xml.Document.parse bytes = .ok root → IsTemplate root general →
    Walks d (.items file declared general (itemsOf general)) entries →
    Walks d (.template file declared name) entries
  | done {file declared general} : Walks d (.items file declared general []) []
  | included {file declared general item rest found entries} :
    IsTemplateItem item → Walks d (.item file declared item) found →
    Walks d (.items file declared general rest) entries →
    Walks d (.items file declared general (item :: rest)) (found ++ entries)
  | project {file declared general item rest id entries} :
    IsProjectItem item → GivesId general item id → id ≠ "" →
    Walks d (.items file declared general rest) entries →
    Walks d (.items file declared general (item :: rest))
      (⟨id, DescriptorPath.stem item, itemPath declared item⟩ :: entries)
  | skipped {file declared general item rest entries} :
    ¬ IsTemplateItem item → ¬ IsProjectItem item →
    Walks d (.items file declared general rest) entries →
    Walks d (.items file declared general (item :: rest)) entries

/-- A template at a place lists a template at another place. -/
def Includes (d : Disk) (l l' : Location) : Prop :=
  ∃ bytes root general, d.tree.entry? l = some (.file bytes) ∧
    Xml.Document.parse bytes = .ok root ∧ IsTemplate root general ∧
    ∃ item ∈ itemsOf general, IsTemplateItem item ∧
      (HostPath.parse (DescriptorPath.toHost item)).collapse l.dropLast = l'

variable {d : Disk} {file : HostPath} {name declared : String} {root general : Xml.Element}

theorem load_eq_ok :
    Descriptor.load d file name = .ok root ↔
      ∃ bytes, d.read file = .ok bytes ∧ Xml.Document.parse bytes = .ok root := by
  unfold Descriptor.load
  constructor
  · intro h
    split at h
    · cases h
    · rename_i bytes hread
      split at h
      · cases h
      · rename_i root' hparse
        cases h
        exact ⟨bytes, hread, hparse⟩
  · rintro ⟨bytes, hread, hparse⟩
    simp only [hread, hparse]

/-- A file that is read is one of those on the disk. -/
theorem mem_allFiles_of_load (h : Descriptor.load d file name = .ok root) :
    file.collapse d.home ∈ allFiles d := by
  obtain ⟨bytes, hread, -⟩ := load_eq_ok.1 h
  have hentry := Disk.entry?_of_read hread
  have hne : file.collapse d.home ≠ [] := by
    intro hnil
    rw [hnil] at hentry
    cases hentry
  rw [FileTree.entry?_eq_find? hne, Option.map_eq_some_iff] at hentry
  obtain ⟨⟨l, e⟩, hfind, rfl⟩ := hentry
  have hl : l = file.collapse d.home := by simpa using List.find?_some hfind
  exact List.mem_filterMap.2 ⟨_, List.mem_of_find?_eq_some hfind, by simp [hl]⟩

/-! ## Every walk ends -/

/-- The files that are not in mind. -/
def left (d : Disk) (seen : List Location) : List Location :=
  (allFiles d).filter (!seen.contains ·)

theorem left_nil (d : Disk) : left d [] = allFiles d := by
  simp [left]

theorem left_cons (d : Disk) (key : Location) (seen : List Location) :
    left d (key :: seen) = (left d seen).filter (· != key) := by
  rw [left, left, List.filter_filter]
  congr 1
  funext l
  by_cases h : l = key <;> simp [h]

theorem mem_left {l : Location} {seen : List Location} :
    l ∈ left d seen ↔ l ∈ allFiles d ∧ l ∉ seen := by
  simp [left]

mutual

/-- The files that are not in mind get fewer with every template on the way. -/
theorem exists_runs_template (d : Disk) (seen : List Location) (file : HostPath)
    (declared name : String) : ∃ r, Runs d seen (.template file declared name) r := by
  cases hnull : Disk.hasNull file with
  | true => exact ⟨_, .null hnull⟩
  | false =>
    by_cases hseen : file.collapse d.home ∈ seen
    · exact ⟨_, .again hnull hseen⟩
    · cases hload : Descriptor.load d file name with
      | error e => exact ⟨_, .unread hnull hseen hload⟩
      | ok root =>
        by_cases htemplate : ∃ general, IsTemplate root general
        · obtain ⟨general, htemplate⟩ := htemplate
          have hleft : file.collapse d.home ∈ left d seen :=
            mem_left.2 ⟨mem_allFiles_of_load hload, hseen⟩
          obtain ⟨r, hr⟩ := exists_runs_items d (file.collapse d.home :: seen) file declared general
            (itemsOf general)
          exact ⟨r, .opened hnull hseen hload htemplate hr⟩
        · exact ⟨_, .other hnull hseen hload (not_exists.1 htemplate)⟩
termination_by ((left d seen).length, 0)
decreasing_by
  rw [left_cons]
  exact Prod.Lex.left _ _ (length_filter_lt hleft)

theorem exists_runs_items (d : Disk) (seen : List Location) (file : HostPath) (declared : String)
    (general : Xml.Element) (items : List String) :
    ∃ r, Runs d seen (.items file declared general items) r := by
  cases items with
  | nil => exact ⟨_, .done⟩
  | cons item rest =>
    obtain ⟨r, hr⟩ := exists_runs_items d seen file declared general rest
    by_cases htemplate : IsTemplateItem item
    · obtain ⟨found, hfound⟩ := exists_runs_template d seen (itemFile file item)
        (itemPath declared item) (DescriptorPath.stem item)
      cases found with
      | error e => exact ⟨_, .includedFails htemplate hfound⟩
      | ok found => exact ⟨_, .included htemplate hfound hr⟩
    · by_cases hproject : IsProjectItem item
      · cases hentry : projectItem file declared (idsOf general) item with
        | error e => exact ⟨_, .projectFails hproject hentry⟩
        | ok entry => exact ⟨_, .project hproject hentry hr⟩
      · exact ⟨_, .skipped htemplate hproject hr⟩
termination_by ((left d seen).length, items.length + 1)

end

/-! ## Expanding is walking -/

section

variable {unread : List Location} {ids : Keyed String} {item : String} {rest : List String}

theorem not_isTemplateItem (h : IsProjectItem item) : ¬ IsTemplateItem item := by
  intro htemplate
  rw [IsTemplateItem] at htemplate
  rw [IsProjectItem, htemplate] at h
  revert h
  decide

theorem expandItems_cons :
    expandItems d unread file declared ids (item :: rest) = (do
      let found ←
        if DescriptorPath.extension item = ".etp" then
          expand d unread (itemFile file item) (itemPath declared item) (DescriptorPath.stem item)
        else if DescriptorPath.extension item = ".csproj" ||
            DescriptorPath.extension item = ".vbproj" then
          (projectItem file declared ids item).map fun e => [e]
        else pure []
      let more ← expandItems d unread file declared ids rest
      pure (found ++ more)) := by
  rw [expandItems]

theorem expandItems_template (h : IsTemplateItem item) :
    expandItems d unread file declared ids (item :: rest) =
      expand d unread (itemFile file item) (itemPath declared item) (DescriptorPath.stem item) >>=
        fun found => (expandItems d unread file declared ids rest).map (found ++ ·) := by
  rw [IsTemplateItem] at h
  rw [expandItems_cons, if_pos h]
  rfl

theorem expandItems_project (h : IsProjectItem item) :
    expandItems d unread file declared ids (item :: rest) =
      projectItem file declared ids item >>=
        fun entry => (expandItems d unread file declared ids rest).map (entry :: ·) := by
  have htemplate := not_isTemplateItem h
  rw [IsTemplateItem] at htemplate
  rw [IsProjectItem] at h
  rw [expandItems_cons, if_neg htemplate, if_pos (by simpa using h)]
  cases projectItem file declared ids item <;> rfl

theorem expandItems_other (htemplate : ¬ IsTemplateItem item) (hproject : ¬ IsProjectItem item) :
    expandItems d unread file declared ids (item :: rest) =
      expandItems d unread file declared ids rest := by
  rw [IsTemplateItem] at htemplate
  rw [IsProjectItem] at hproject
  rw [expandItems_cons, if_neg htemplate, if_neg (by simpa using hproject)]
  cases expandItems d unread file declared ids rest <;> rfl

end

/-- What expanding gives for a visit. -/
def Visit.expand (d : Disk) (unread : List Location) :
    Visit → Except Failure (List TemplateEntry)
  | .template file declared name => Template.expand d unread file declared name
  | .items file declared general rest => expandItems d unread file declared (idsOf general) rest

/-- A walk ends as expanding does that has the same templates in mind. -/
theorem Runs.eq_expand {seen : List Location} {v : Visit}
    {r : Except Failure (List TemplateEntry)} (h : Runs d seen v r)
    (hseen : ∀ l ∈ seen, l ∈ allFiles d) : v.expand d (left d seen) = r := by
  induction h with
  | null hnull =>
    rw [Visit.expand, Template.expand]
    simp only [hnull, if_true]
    rfl
  | again hnull hagain =>
    have hleft : _ ∉ left d _ := fun h => (mem_left.1 h).2 hagain
    rw [Visit.expand, Template.expand]
    simp only [hnull, hseen _ hagain, hleft, Bool.false_eq_true, if_false, not_false_eq_true,
      decide_true, Bool.and_self, if_true]
    rfl
  | unread hnull hnew hload =>
    rw [Visit.expand, Template.expand]
    simp [hnull, mem_left, hnew, hload, bind, Except.bind]
  | @other seen file declared name root hnull hnew hload hother =>
    have hcontents : contents? root = none := by
      rw [Option.eq_none_iff_forall_ne_some]
      rintro c hc
      obtain ⟨general, htemplate, -⟩ := contents?_eq_some.1 hc
      exact hother general htemplate
    rw [Visit.expand, Template.expand]
    simp [hnull, mem_left, hnew, hload, hcontents, bind, Except.bind]
    rfl
  | opened hnull hnew hload htemplate _ ih =>
    have hcontents := contents?_eq_some.2 ⟨_, htemplate, rfl⟩
    have hkey := mem_allFiles_of_load hload
    rw [← ih (List.forall_mem_cons.2 ⟨hkey, hseen⟩), left_cons, Visit.expand, Visit.expand,
      Template.expand]
    simp [hnull, mem_left, hnew, hload, hcontents, hkey, bind, Except.bind]
  | done => rw [Visit.expand, expandItems]
  | included htemplate _ _ ihfound ih =>
    have hfound := ihfound hseen
    rw [Visit.item, Visit.expand] at hfound
    rw [Visit.expand, expandItems_template htemplate, hfound, ← ih hseen]
    rfl
  | includedFails htemplate _ ih =>
    have hfails := ih hseen
    rw [Visit.item, Visit.expand] at hfails
    rw [Visit.expand, expandItems_template htemplate, hfails]
    rfl
  | project hproject hentry _ ih =>
    rw [Visit.expand, expandItems_project hproject, hentry, ← ih hseen]
    rfl
  | projectFails hproject hentry =>
    rw [Visit.expand, expandItems_project hproject, hentry]
    rfl
  | skipped htemplate hproject _ ih =>
    rw [Visit.expand, expandItems_other htemplate hproject, ← ih hseen, Visit.expand]

/-- A walk that starts with no template in mind ends in one way only, and that is what reading the
template gives. -/
theorem runs_iff {r : Except Failure (List TemplateEntry)} :
    Runs d [] (.template file declared name) r ↔ r = read d file declared name := by
  have hread {r} (h : Runs d [] (.template file declared name) r) : r = read d file declared name :=
    by simpa [left_nil, Visit.expand, read] using (h.eq_expand (by simp)).symm
  refine ⟨hread, ?_⟩
  rintro rfl
  obtain ⟨r, hr⟩ := exists_runs_template d [] file declared name
  rwa [← hread hr]

/-! ## What a walk meets -/

theorem givesId_of_projectItem {item : String} {entry : TemplateEntry}
    (h : projectItem file declared (idsOf general) item = .ok entry) :
    ∃ id, GivesId general item id ∧ id ≠ "" ∧
      entry = ⟨id, DescriptorPath.stem item, itemPath declared item⟩ := by
  unfold projectItem at h
  dsimp only at h
  obtain ⟨hid, h⟩ := ite_error_eq_ok.1 h
  cases hget : (idsOf general).get? item with
  | none => simp [hget] at hid
  | some id =>
    rw [hget, Option.getD_some] at hid h
    exact ⟨id, get?_idsOf.1 hget, hid, (Except.ok.inj h).symm⟩

theorem projectItem_of_givesId {item id : String} (h : GivesId general item id) (hid : id ≠ "") :
    projectItem file declared (idsOf general) item =
      .ok ⟨id, DescriptorPath.stem item, itemPath declared item⟩ := by
  simp [projectItem, get?_idsOf.2 h, hid]

/-- A walk that gives projects meets them. -/
theorem Runs.walks {seen : List Location} {v : Visit} {r : Except Failure (List TemplateEntry)}
    (h : Runs d seen v r) {entries : List TemplateEntry} (hr : r = .ok entries) :
    Walks d v entries := by
  induction h generalizing entries with
  | null => cases hr
  | again => cases hr
  | unread => cases hr
  | other => cases hr
  | opened _ _ hload htemplate _ ih =>
    obtain ⟨bytes, hread, hparse⟩ := load_eq_ok.1 hload
    exact .template hread hparse htemplate (ih hr)
  | done =>
    cases hr
    exact .done
  | included htemplate _ _ ihfound ih =>
    obtain ⟨more, hmore, rfl⟩ := map_eq_ok.1 hr
    exact .included htemplate (ihfound rfl) (ih hmore)
  | includedFails => cases hr
  | project hproject hentry _ ih =>
    obtain ⟨more, hmore, rfl⟩ := map_eq_ok.1 hr
    obtain ⟨id, hgives, hid, rfl⟩ := givesId_of_projectItem hentry
    exact .project hproject hgives hid (ih hmore)
  | projectFails => cases hr
  | skipped htemplate hproject _ ih => exact .skipped htemplate hproject (ih hr)

/-! ## Inclusion -/

section

variable (hd : d.HomeStands) {bytes : List UInt8}
include hd

/-- Where an item is depends on the place of its template, however the path of that is written. -/
theorem collapse_itemFile (hread : d.read file = .ok bytes) (item : String) :
    (itemFile file item).collapse d.home =
      (HostPath.parse (DescriptorPath.toHost item)).collapse (file.collapse d.home).dropLast := by
  rw [itemFile, ← hd.collapse_parent hread, HostPath.join]
  split
  · rename_i habsolute
    rw [HostPath.collapse, HostPath.collapse, if_pos habsolute, if_pos habsolute]
  · rename_i hrelative
    rw [HostPath.collapse, HostPath.collapse, HostPath.collapse, if_neg hrelative,
      List.foldl_append]
    rfl

/-- A template that is read includes the templates among its items. -/
theorem includes_iff (hread : d.read file = .ok bytes)
    (hparse : Xml.Document.parse bytes = .ok root) (htemplate : IsTemplate root general)
    {l : Location} :
    Includes d (file.collapse d.home) l ↔
      ∃ item ∈ itemsOf general, IsTemplateItem item ∧ (itemFile file item).collapse d.home = l := by
  have hentry := Disk.entry?_of_read hread
  constructor
  · rintro ⟨bytes', root', general', hentry', hparse', htemplate', item, hitem, hext, rfl⟩
    cases hentry.symm.trans hentry'
    cases hparse.symm.trans hparse'
    cases htemplate.2.symm.trans htemplate'.2
    exact ⟨item, hitem, hext, collapse_itemFile hd hread item⟩
  · rintro ⟨item, hitem, hext, rfl⟩
    exact ⟨bytes, root, general, hentry, hparse, htemplate, item, hitem, hext,
      (collapse_itemFile hd hread item).symm⟩

end

/-- The templates from which a visit comes to others. -/
def Visit.Starts (d : Disk) : Visit → Location → Prop
  | .template file _ _, l => file.collapse d.home = l
  | .items file _ _ rest, l =>
    ∃ item ∈ rest, IsTemplateItem item ∧ (itemFile file item).collapse d.home = l

/-- A walk that ends without a memory meets no inclusion that goes on forever. -/
theorem Walks.acc (hd : d.HomeStands) {v : Visit} {entries : List TemplateEntry}
    (h : Walks d v entries) : ∀ l, v.Starts d l → Acc (flip (Includes d)) l := by
  induction h with
  | template hread hparse htemplate _ ih =>
    rintro l rfl
    exact ⟨_, fun l' hl' => ih l' ((includes_iff hd hread hparse htemplate).1 hl')⟩
  | done =>
    rintro l ⟨item, hitem, -⟩
    cases hitem
  | included htemplate _ _ ihfound ih =>
    rintro l ⟨item, hitem, hext, rfl⟩
    rcases List.mem_cons.1 hitem with rfl | hitem
    · exact ihfound _ rfl
    · exact ih _ ⟨item, hitem, hext, rfl⟩
  | project hproject _ _ _ ih =>
    rintro l ⟨item, hitem, hext, rfl⟩
    rcases List.mem_cons.1 hitem with rfl | hitem
    · exact absurd hext (not_isTemplateItem hproject)
    · exact ih _ ⟨item, hitem, hext, rfl⟩
  | skipped htemplate _ _ ih =>
    rintro l ⟨item, hitem, hext, rfl⟩
    rcases List.mem_cons.1 hitem with rfl | hitem
    · exact absurd hext htemplate
    · exact ih _ ⟨item, hitem, hext, rfl⟩

theorem not_transGen_of_acc {α : Type} {R : α → α → Prop} {a : α} (h : Acc (flip R) a) :
    ¬ TransGen R a a := by
  induction h with
  | intro a _ ih =>
    intro hcycle
    obtain ⟨b, hb, hback⟩ := TransGen.head'_iff.1 hcycle
    exact ih b hb (TransGen.tail' hback hb)

theorem acc_of_reflTransGen {α : Type} {R : α → α → Prop} {a b : α} (h : Acc (flip R) a)
    (hreach : ReflTransGen R a b) : Acc (flip R) b := by
  induction hreach with
  | refl => exact h
  | tail _ hstep ih => exact ih.inv hstep

/-- A walk without a memory meets the same as one that has only templates in mind that it does not
come to. -/
theorem Walks.runs (hd : d.HomeStands) {v : Visit} {entries : List TemplateEntry}
    (h : Walks d v entries) {seen : List Location}
    (hseen : ∀ l l', v.Starts d l → ReflTransGen (Includes d) l l' → l' ∉ seen) :
    Runs d seen v (.ok entries) := by
  induction h generalizing seen with
  | template hread hparse htemplate hitems ih =>
    have hacc := (@Walks.template d _ _ "" _ _ _ _ hread hparse htemplate hitems).acc hd _ rfl
    refine .opened ((Disk.read_eq_ok.1 hread).1) (hseen _ _ rfl .refl)
      (load_eq_ok.2 ⟨_, hread, hparse⟩) htemplate (ih fun l l' hl hl' => ?_)
    have hstep := (includes_iff hd hread hparse htemplate).2 hl
    refine List.mem_cons.not.2 (not_or.2 ⟨?_, hseen _ _ rfl (.head hstep hl')⟩)
    rintro rfl
    exact not_transGen_of_acc hacc (TransGen.head' hstep hl')
  | done => exact .done
  | @included _ _ _ _ rest _ _ htemplate _ _ ihfound ih =>
    refine .included htemplate (ihfound fun l l' hl => ?_) (ih fun l l' hl => ?_)
    · exact hseen l l' ⟨_, List.mem_cons_self, htemplate, hl⟩
    · obtain ⟨other, hother, hl⟩ := hl
      exact hseen l l' ⟨other, List.mem_cons_of_mem _ hother, hl⟩
  | project hproject hgives hid _ ih =>
    refine .project hproject (projectItem_of_givesId hgives hid) (ih fun l l' hl => ?_)
    obtain ⟨other, hother, hl⟩ := hl
    exact hseen l l' ⟨other, List.mem_cons_of_mem _ hother, hl⟩
  | skipped htemplate hproject _ ih =>
    refine .skipped htemplate hproject (ih fun l l' hl => ?_)
    obtain ⟨other, hother, hl⟩ := hl
    exact hseen l l' ⟨other, List.mem_cons_of_mem _ hother, hl⟩

/-- Reading a template ends, however the templates of the disk include each other. Where it gives
projects, a walk through the templates meets just these, and no template that the walk reaches
leads back to itself. Where one does, reading fails. -/
theorem read_walks (d : Disk) (file : HostPath) (declared name : String) :
    (∀ r, Runs d [] (.template file declared name) r ↔ r = read d file declared name) ∧
      (∀ entries, read d file declared name = .ok entries →
        Walks d (.template file declared name) entries) ∧
      (d.HomeStands →
        (∀ entries, Walks d (.template file declared name) entries →
          read d file declared name = .ok entries) ∧
        (∀ entries, read d file declared name = .ok entries →
          ∀ l, ReflTransGen (Includes d) (file.collapse d.home) l → ¬ TransGen (Includes d) l l) ∧
        ∀ l, ReflTransGen (Includes d) (file.collapse d.home) l → TransGen (Includes d) l l →
          ∃ e, read d file declared name = .error e) := by
  have hwalks entries (h : read d file declared name = .ok entries) :
      Walks d (.template file declared name) entries := (runs_iff.2 h.symm).walks rfl
  refine ⟨fun _ => runs_iff, hwalks, fun hd => ?_⟩
  have hacyclic entries (h : read d file declared name = .ok entries) l
      (hreach : ReflTransGen (Includes d) (file.collapse d.home) l) : ¬ TransGen (Includes d) l l :=
    not_transGen_of_acc (acc_of_reflTransGen ((hwalks entries h).acc hd _ rfl) hreach)
  refine ⟨fun entries h => ?_, hacyclic, fun l hreach hcycle => ?_⟩
  · exact (runs_iff.1 (h.runs hd fun _ _ _ _ => List.not_mem_nil)).symm
  · cases hread : read d file declared name with
    | error e => exact ⟨e, rfl⟩
    | ok entries => exact absurd hcycle (hacyclic entries hread l hreach)

/-! ## Two templates -/

/-- A template that lists another one beside it, in two spellings. -/
def suiteTemplate : List String :=
  ["<EFPROJECT><GENERAL><Views><ProjectExplorer><File>Core.etp</File>" ++
    "<File>..\\Work/Core.etp</File></ProjectExplorer></Views></GENERAL></EFPROJECT>"]

/-- A template that lists a project. -/
def coreTemplate : List String :=
  ["<EFPROJECT><GENERAL><References><Reference><FILE>C.csproj</FILE><GUIDPROJECTID>c" ++
    "</GUIDPROJECTID></Reference></References><Views><ProjectExplorer><File>C.csproj</File>" ++
    "</ProjectExplorer></Views></GENERAL></EFPROJECT>"]

/-- A disk with both templates, and the first of them in the place of the second. -/
def templateDisk : Disk where
  tree := ⟨[(["Work"], .folder), (["Work", "Suite.etp"], Solution.plainFile suiteTemplate),
    (["Work", "Core.etp"], Solution.plainFile coreTemplate), (["Loop"], .folder),
    (["Loop", "Core.etp"], Solution.plainFile suiteTemplate)]⟩
  home := ["Work"]

/-- What a template lists, as an element. -/
def viewsOf (items : List String) : Xml.Node :=
  .element "Views" [] [.element "ProjectExplorer" []
    (items.map fun item => .element "File" [] [.text item])]

/-- What the first template says. -/
def suiteGeneral : Xml.Element := ⟨"GENERAL", [], [viewsOf ["Core.etp", "..\\Work/Core.etp"]]⟩

/-- What the second template says. -/
def coreGeneral : Xml.Element :=
  ⟨"GENERAL", [], [.element "References" [] [.element "Reference" []
    [.element "FILE" [] [.text "C.csproj"], .element "GUIDPROJECTID" [] [.text "c"]]],
    viewsOf ["C.csproj"]]⟩

set_option maxRecDepth 2000 in
theorem parse_suiteTemplate : Xml.Document.parse (Text.asciiBytes (Text.unlines suiteTemplate)) =
    .ok ⟨"EFPROJECT", [], [suiteGeneral.toNode]⟩ :=
  Xml.Document.parse_compactLine (by decide) (by decide) (by decide)

set_option maxRecDepth 2000 in
theorem parse_coreTemplate : Xml.Document.parse (Text.asciiBytes (Text.unlines coreTemplate)) =
    .ok ⟨"EFPROJECT", [], [coreGeneral.toNode]⟩ :=
  Xml.Document.parse_compactLine (by decide) (by decide) (by decide)

theorem isTemplate_of {general : Xml.Element} (h : general.localName = "GENERAL") :
    IsTemplate ⟨"EFPROJECT", [], [general.toNode]⟩ general := by
  refine ⟨show Xml.localPart "EFPROJECT" = _ by decide, ?_⟩
  simp [Xml.Element.child?, Xml.Element.children, Xml.Element.ofNode?, Xml.Element.toNode, h]

theorem itemsOf_suite : itemsOf suiteGeneral = ["Core.etp", "..\\Work/Core.etp"] := by
  decide

theorem itemsOf_core : itemsOf coreGeneral = ["C.csproj"] := by
  decide

/-- The project of the second template is met once for each spelling. The template that stands in
the place of the second one includes itself. -/
theorem read_walks_templateDisk :
    templateDisk.HomeStands ∧
      read templateDisk ⟨.relative, ["Suite.etp"]⟩ "Apps\\Suite.etp" "Suite" =
        .ok [⟨"{C}", "C", "Apps\\C.csproj"⟩, ⟨"{C}", "C", "Apps\\..\\Work\\C.csproj"⟩] ∧
      (∀ l, ReflTransGen (Includes templateDisk) ["Work", "Suite.etp"] l →
        ¬ TransGen (Includes templateDisk) l l) ∧
      TransGen (Includes templateDisk) ["Loop", "Core.etp"] ["Loop", "Core.etp"] ∧
      ∃ e, read templateDisk ⟨.single, ["Loop", "Core.etp"]⟩ "Loop\\Core.etp" "Core" =
        .error e := by
  have hstands : templateDisk.HomeStands := by decide
  have hcore (file : HostPath) (declared path name : String)
      (hread : templateDisk.read file = .ok (Text.asciiBytes (Text.unlines coreTemplate)))
      (hpath : itemPath declared "C.csproj" = path) :
      Walks templateDisk (.template file declared name) [⟨"{C}", "C", path⟩] := by
    refine .template hread parse_coreTemplate (isTemplate_of (by decide)) ?_
    rw [itemsOf_core, ← hpath]
    have hgives : GivesId coreGeneral "C.csproj" "{C}" := get?_idsOf.1 (by decide)
    exact .project (.inl (by decide)) hgives (by decide) .done
  have hbeside : itemFile ⟨.relative, ["Suite.etp"]⟩ "Core.etp" = ⟨.relative, ["Core.etp"]⟩ := by
    decide
  have hback : itemFile ⟨.relative, ["Suite.etp"]⟩ "..\\Work/Core.etp" =
      ⟨.relative, ["..", "Work", "Core.etp"]⟩ := by
    decide
  have hsuite : Walks templateDisk (.template ⟨.relative, ["Suite.etp"]⟩ "Apps\\Suite.etp" "Suite")
      ([⟨"{C}", "C", "Apps\\C.csproj"⟩] ++ ([⟨"{C}", "C", "Apps\\..\\Work\\C.csproj"⟩] ++ [])) := by
    refine .template rfl parse_suiteTemplate (isTemplate_of (by decide)) ?_
    rw [itemsOf_suite]
    refine .included (by unfold IsTemplateItem; decide)
      (hcore _ _ _ _ (hbeside ▸ rfl) (by decide))
      (.included (by unfold IsTemplateItem; decide)
        (hcore _ _ _ _ (hback ▸ rfl) (by decide)) .done)
  have hloop : Includes templateDisk ["Loop", "Core.etp"] ["Loop", "Core.etp"] := by
    refine ⟨_, _, suiteGeneral, rfl, parse_suiteTemplate, isTemplate_of (by decide), "Core.etp", ?_,
      by unfold IsTemplateItem; decide, by decide⟩
    rw [itemsOf_suite]
    exact List.mem_cons_self
  obtain ⟨-, -, hsuiteReads⟩ :=
    read_walks templateDisk ⟨.relative, ["Suite.etp"]⟩ "Apps\\Suite.etp" "Suite"
  obtain ⟨-, -, hloopReads⟩ :=
    read_walks templateDisk ⟨.single, ["Loop", "Core.etp"]⟩ "Loop\\Core.etp" "Core"
  have hread := (hsuiteReads hstands).1 _ hsuite
  exact ⟨hstands, hread, (hsuiteReads hstands).2.1 _ hread, .single hloop,
    (hloopReads hstands).2.2 _ .refl (.single hloop)⟩

end Template

end SolutionScript
