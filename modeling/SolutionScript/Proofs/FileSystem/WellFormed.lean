import SolutionScript.Proofs.FileSystem.Relisting
import SolutionScript.Proofs.FileSystem.Walk

/-!
# Trees as file systems keep them

A file system keeps each location once, and everything in a folder (`FileTree.WellFormed`). In such
a tree listings say what stands where: a folder lists the names that something stands at
(`FileTree.mem_names`) and the folders below it (`FileTree.WellFormed.mem_foldersBelow`). Names lead
to what stands there unless one of them is too long (`FileTree.WellFormed.follow_standing`), and the
start of a path that leads somewhere leads to a folder (`Disk.locate_append`).
-/

namespace SolutionScript.FileSystem

namespace FileTree

variable {t : FileTree} {l : Location} {e : Entry} {names : List String} {name : String}

/-- A tree has each location once. Everything in it stands in a folder, and no name is the one for
the way back. -/
structure WellFormed (t : FileTree) : Prop where
  locations : (t.entries.map (·.1)).Nodup
  folders : ∀ x ∈ t.entries, t.entry? x.1.dropLast = some .folder
  names : ∀ x ∈ t.entries, ".." ∉ x.1

theorem wellFormed_iff : t.WellFormed ↔ (t.entries.map (·.1)).Nodup ∧
    (∀ x ∈ t.entries, t.entry? x.1.dropLast = some .folder) ∧ ∀ x ∈ t.entries, ".." ∉ x.1 :=
  ⟨fun h => ⟨h.locations, h.folders, h.names⟩, fun h => ⟨h.1, h.2.1, h.2.2⟩⟩

instance (t : FileTree) : Decidable t.WellFormed := decidable_of_iff _ wellFormed_iff.symm

/-! ## What is listed -/

/-- What stands at a location other than the root has the location in the list of entries. -/
theorem isSome_entry?_iff (hl : l ≠ []) :
    (t.entry? l).isSome = true ↔ l ∈ t.entries.map (·.1) := by
  rw [entry?_eq_find? hl, Option.isSome_map, List.find?_isSome, List.mem_map]
  simp only [beq_iff_eq]

/-- The name of a location in a folder, if it is one there. -/
def nameIn (folder location : Location) : Option String :=
  match location.getLast? with
  | some name => if location.dropLast == folder then some name else none
  | none => none

theorem nameIn_eq_some {location : Location} :
    nameIn l location = some name ↔ location = l ++ [name] := by
  constructor
  · intro h
    unfold nameIn at h
    split at h
    · rename_i last hlast
      rw [Option.ite_none_right_eq_some, Option.some.injEq, beq_iff_eq] at h
      rw [← List.dropLast_append_getLast? last hlast, h.1, h.2]
    · cases h
  · rintro rfl
    simp [nameIn]

theorem names_eq (t : FileTree) (l : Location) :
    t.names l = (t.entries.map (·.1)).filterMap (nameIn l) := by
  rw [List.filterMap_map]
  rfl

/-- A folder lists the names at which something stands in it. -/
theorem mem_names : name ∈ t.names l ↔ (t.entry? (l ++ [name])).isSome = true := by
  rw [names_eq, List.mem_filterMap, isSome_entry?_iff (by simp)]
  simp only [nameIn_eq_some, exists_eq_right]

theorem nodup_names (h : (t.entries.map (·.1)).Nodup) (l : Location) : (t.names l).Nodup := by
  rw [names_eq]
  refine h.filterMap fun location location' name hname hname' => ?_
  rw [nameIn_eq_some.1 hname, nameIn_eq_some.1 hname']

namespace WellFormed

variable (h : t.WellFormed)
include h

theorem mem_entries (hl : l ≠ []) : (l, e) ∈ t.entries ↔ t.entry? l = some e := by
  rw [entry?_eq_find? hl, Option.map_eq_some_iff]
  constructor
  · intro hmem
    exact ⟨(l, e), (find?_eq_some_of_nodup h.locations).2 ⟨hmem, rfl⟩, rfl⟩
  · rintro ⟨x, hfind, rfl⟩
    obtain ⟨hmem, rfl⟩ := (find?_eq_some_of_nodup h.locations).1 hfind
    exact hmem

/-- The folders below a folder are listed, and nothing else. -/
theorem mem_foldersBelow :
    names ∈ t.foldersBelow l ↔ names ≠ [] ∧ t.entry? (l ++ names) = some .folder := by
  rw [foldersBelow, List.mem_filterMap]
  constructor
  · rintro ⟨⟨l', e⟩, hx, hnames⟩
    simp only [Option.ite_none_right_eq_some, Bool.and_eq_true, List.isPrefixOf_iff_prefix,
      bne_iff_ne, ne_eq, beq_iff_eq, Option.some.injEq] at hnames
    obtain ⟨⟨⟨⟨more, rfl⟩, hne⟩, rfl⟩, rfl⟩ := hnames
    rw [List.drop_left]
    have hmore : more ≠ [] := fun hnil => hne (by rw [hnil, List.append_nil])
    exact ⟨hmore, (h.mem_entries (by simp [hmore])).1 hx⟩
  · rintro ⟨hne, hentry⟩
    refine ⟨(l ++ names, .folder), (h.mem_entries (by simp [hne])).2 hentry, ?_⟩
    simp [hne]

/-- What something stands below is a folder. The induction takes the last name away. -/
theorem entry?_of_append (hne : names ≠ []) (hentry : (t.entry? (l ++ names)).isSome = true) :
    t.entry? l = some .folder := by
  induction names using List.reverseRecOn with
  | nil => exact absurd rfl hne
  | append_singleton names name ih =>
    obtain ⟨x, hx, hxl⟩ := List.mem_map.1 ((isSome_entry?_iff (by simp)).1 hentry)
    have hfolder := h.folders x hx
    rw [hxl, ← List.append_assoc, List.dropLast_concat] at hfolder
    by_cases hnil : names = []
    · rwa [hnil, List.append_nil] at hfolder
    · exact ih hnil (by rw [hfolder]; rfl)

theorem not_mem_of_entry? (hentry : (t.entry? l).isSome = true) : ".." ∉ l := by
  by_cases hl : l = []
  · simp [hl]
  · obtain ⟨x, hx, rfl⟩ := List.mem_map.1 ((isSome_entry?_iff hl).1 hentry)
    exact h.names x hx

/-- From a folder, names lead to what stands there, unless one of them is too long. -/
theorem follow_standing {here : Location} (hhere : t.entry? here = some .folder)
    (hentry : (t.entry? (here ++ names)).isSome = true) :
    Disk.follow t here names = .ok (here ++ names) ∨
      Disk.follow t here names = .error .nameTooLong := by
  induction names generalizing here with
  | nil =>
    left
    rw [Disk.follow, List.append_nil]
  | cons name names ih =>
    have hname : name ≠ ".." := fun heq => h.not_mem_of_entry? hentry (by simp [heq])
    rw [Disk.follow, hhere]
    dsimp only
    split
    · exact .inr rfl
    · rw [List.append_cons] at hentry ⊢
      rw [HostPath.stepTo, if_neg hname]
      by_cases hnil : names = []
      · left
        rw [hnil, Disk.follow, List.append_nil]
      · exact ih (h.entry?_of_append hnil hentry) hentry

end WellFormed

end FileTree

namespace Disk

variable {d : Disk} {t : FileTree} {here l : Location} {p : HostPath} {names more : List String}
  {name : String}

/-! ## Following names -/

theorem follow_append : follow t here (names ++ more) = .ok l ↔
    ∃ middle, follow t here names = .ok middle ∧ follow t middle more = .ok l := by
  induction names generalizing here with
  | nil => simp [follow]
  | cons name names ih =>
    simp only [List.cons_append, follow_cons_eq_ok, ih]
    constructor
    · rintro ⟨hhere, hname, middle, hmiddle, hmore⟩
      exact ⟨middle, ⟨hhere, hname, hmiddle⟩, hmore⟩
    · rintro ⟨middle, ⟨hhere, hname, hmiddle⟩, hmore⟩
      exact ⟨hhere, hname, middle, hmiddle, hmore⟩

theorem follow_append_of_eq_ok (h : follow t here names = .ok l) :
    follow t here (names ++ more) = follow t l more := by
  induction names generalizing here with
  | nil =>
    cases h
    rfl
  | cons name names ih =>
    obtain ⟨hhere, hname, h⟩ := follow_cons_eq_ok.1 h
    rw [List.cons_append, follow, hhere]
    exact (if_neg (Nat.not_lt.2 hname)).trans (ih h)

/-- Names among which there is no way back lead down. -/
theorem eq_append_of_follow (hnames : ".." ∉ names) (h : follow t here names = .ok l) :
    l = here ++ names := by
  induction names generalizing here with
  | nil =>
    cases h
    rw [List.append_nil]
  | cons name names ih =>
    rw [List.mem_cons, not_or] at hnames
    have hrest := (follow_cons_eq_ok.1 h).2.2
    rw [HostPath.stepTo, if_neg (Ne.symm hnames.1)] at hrest
    rw [ih hnames.2 hrest, List.append_assoc, List.singleton_append]

/-- What names lead on from is a folder. -/
theorem entry?_of_follow (hne : names ≠ []) (h : follow t here names = .ok l) :
    t.entry? here = some .folder := by
  obtain ⟨name, names, rfl⟩ := List.exists_cons_of_ne_nil hne
  exact (follow_cons_eq_ok.1 h).1

theorem utf8ByteSize_join_le (names more : List String) :
    (Text.join "/" names).utf8ByteSize ≤ (Text.join "/" (names ++ more)).utf8ByteSize := by
  induction names with
  | nil => simp [Text.join]
  | cons name names ih =>
    rw [Text.join, Text.join] at ih
    rw [Text.join, Text.join, List.cons_append]
    by_cases hnil : names = []
    · subst hnil
      cases more with
      | nil => exact Nat.le_refl _
      | cons next more =>
        rw [List.nil_append, String.intercalate_cons_cons, String.intercalate_singleton,
          String.utf8ByteSize_append, String.utf8ByteSize_append]
        omega
    · have hne : names ++ more ≠ [] := by simp [hnil]
      rw [String.intercalate_cons_of_ne_nil hnil, String.intercalate_cons_of_ne_nil hne,
        String.utf8ByteSize_append, String.utf8ByteSize_append, String.utf8ByteSize_append,
        String.utf8ByteSize_append]
      omega

/-- The start of a path that the system takes is one that it takes. -/
theorem byteLength_render_le
    (h : Text.byteLength (HostPath.render { p with names := p.names ++ more }) ≤ pathLimit) :
    Text.byteLength p.render ≤ pathLimit := by
  have hjoin := utf8ByteSize_join_le p.names more
  by_cases hempty : p.root = .relative ∧ p.names = []
  · have hdot : p.render = "." := by simp [HostPath.render, hempty]
    rw [hdot]
    decide
  · have hempty' : ¬ (p.root = .relative ∧ p.names ++ more = []) := fun hboth =>
      hempty ⟨hboth.1, (List.append_eq_nil_iff.1 hboth.2).1⟩
    have hrender : p.render = HostPath.rootText p.root ++ Text.join "/" p.names := by
      rw [HostPath.render, if_neg (by simpa using hempty)]
    rw [HostPath.render, if_neg (by simpa using hempty'), Text.byteLength,
      String.utf8ByteSize_append] at h
    rw [hrender, Text.byteLength, String.utf8ByteSize_append]
    exact (Nat.add_le_add_left hjoin _).trans h

/-- A path that leads somewhere leads there by way of what its start leads to. -/
theorem locate_append (h : d.locate { p with names := p.names ++ more } = .ok l) :
    ∃ middle, d.locate p = .ok middle ∧ follow d.tree middle more = .ok l := by
  obtain ⟨hlength, hfollow⟩ := locate_eq_ok.1 h
  obtain ⟨middle, hmiddle, hmore⟩ := follow_append.1 hfollow
  exact ⟨middle, locate_eq_ok.2 ⟨byteLength_render_le hlength, hmiddle⟩, hmore⟩

/-- A path that leads down from another one leads to a location below. -/
theorem eq_append_of_locate {place : Location} (hp : d.locate p = .ok l) (hnames : ".." ∉ more)
    (h : d.locate { p with names := p.names ++ more } = .ok place) : place = l ++ more := by
  obtain ⟨middle, hmiddle, hmore⟩ := locate_append h
  obtain rfl := Except.ok.inj (hp.symm.trans hmiddle)
  exact eq_append_of_follow hnames hmore

/-- From a folder that a path leads to, names lead to what stands there, unless one of them or the
path is too long. -/
theorem locate_standing (hw : d.tree.WellFormed) (hp : d.locate p = .ok l)
    (hfolder : d.tree.entry? l = some .folder)
    (hstands : (d.tree.entry? (l ++ more)).isSome = true) :
    d.locate { p with names := p.names ++ more } = .ok (l ++ more) ∨
      d.locate { p with names := p.names ++ more } = .error .nameTooLong := by
  have hfollow : follow d.tree _ (p.names ++ more) = follow d.tree l more :=
    follow_append_of_eq_ok (locate_eq_ok.1 hp).2
  rw [locate]
  split
  · exact .inr rfl
  · exact hfollow.symm ▸ hw.follow_standing hfolder hstands

/-! ## Looking -/

theorem isFolder_iff : d.isFolder p = .ok true ↔ hasNull p = false ∧ ∃ l,
    d.locate p = .ok l ∧ d.tree.entry? l = some .folder := by
  rw [← look_eq_some, isFolder]
  rcases d.look p with _ | _ | _ | _ <;> simp [Except.map]

theorem isPresent_of_isFile (h : d.isFile p = .ok true) : d.isPresent p = .ok true := by
  obtain ⟨bytes, hlook⟩ := look_of_isFile h
  rw [isPresent, hlook]
  rfl

theorem hasNull_of_append (h : hasNull { p with names := p.names ++ more } = false) :
    hasNull p = false := by
  simp only [hasNull, List.any_append, Bool.or_eq_false_iff] at h
  exact h.1

/-- A folder stands at the start of the path of a file. -/
theorem isFolder_of_isFile (hne : more ≠ [])
    (h : d.isFile { p with names := p.names ++ more } = .ok true) : d.isFolder p = .ok true := by
  obtain ⟨hnull, l, bytes, hl, -⟩ := isFile_iff.1 h
  obtain ⟨middle, hmiddle, hmore⟩ := locate_append hl
  exact isFolder_iff.2 ⟨hasNull_of_append hnull, middle, hmiddle, entry?_of_follow hne hmore⟩

end Disk

end SolutionScript.FileSystem
