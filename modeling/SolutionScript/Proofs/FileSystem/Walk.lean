import SolutionScript.FileSystem.Disk

/-!
# Walks through a file tree

Where a path leads depends on the folders on the way, and on nothing else
(`follow_of_folders`). A file that is new can turn one kind of absence into
another, but it moves no path (`follow_newFile`). On a disk whose current folder
stands, every place that a path leads to lies in folders that stand
(`reached_locate`).
-/

namespace SolutionScript.FileSystem

theorem FileTree.isFolder_iff {t : FileTree} {l : Location} :
    t.isFolder l = true ↔ t.entry? l = some .folder := by
  rw [isFolder]
  rcases t.entry? l with _ | _ | _ <;> simp

namespace Disk

variable {t t' : FileTree} {here l : Location} {names : List String} {name : String}

/-! ## Following names -/

theorem follow_cons_eq_ok :
    follow t here (name :: names) = .ok l ↔
      t.entry? here = some .folder ∧ Text.byteLength name ≤ nameLimit ∧
        follow t (HostPath.stepTo here name) names = .ok l := by
  rw [follow]
  cases hentry : t.entry? here with
  | none => simp
  | some e =>
    cases e with
    | file bytes => simp
    | folder =>
      by_cases hlong : Text.byteLength name > nameLimit
      · have hle : ¬ Text.byteLength name ≤ nameLimit := by omega
        simp [hlong, hle]
      · have hle : Text.byteLength name ≤ nameLimit := by omega
        simp [hlong, hle]

/-- The last of some names is a step from the folder that those before it lead to. -/
theorem follow_concat_eq_ok :
    follow t here (names ++ [name]) = .ok l ↔
      ∃ folder, follow t here names = .ok folder ∧ t.entry? folder = some .folder ∧
        Text.byteLength name ≤ nameLimit ∧ l = HostPath.stepTo folder name := by
  induction names generalizing here with
  | nil =>
    rw [List.nil_append, follow_cons_eq_ok]
    simp only [follow, Except.ok.injEq, eq_comm, exists_eq_left']
  | cons n names ih =>
    rw [List.cons_append, follow_cons_eq_ok, ih]
    constructor
    · rintro ⟨hhere, hn, folder, hfolder, hrest⟩
      exact ⟨folder, follow_cons_eq_ok.2 ⟨hhere, hn, hfolder⟩, hrest⟩
    · rintro ⟨folder, hfolder, hrest⟩
      obtain ⟨hhere, hn, hfolder⟩ := follow_cons_eq_ok.1 hfolder
      exact ⟨hhere, hn, folder, hfolder, hrest⟩

/-- Names lead to the same place in a tree that has all the folders. -/
theorem follow_of_folders (h : ∀ x, t.entry? x = some .folder → t'.entry? x = some .folder)
    (hl : follow t here names = .ok l) : follow t' here names = .ok l := by
  induction names generalizing here with
  | nil => exact hl
  | cons n names ih =>
    obtain ⟨hhere, hn, hl⟩ := follow_cons_eq_ok.1 hl
    exact follow_cons_eq_ok.2 ⟨h _ hhere, hn, ih hl⟩

/-- In trees with the same entries names lead the same way. -/
theorem follow_congr (h : ∀ x, t'.entry? x = t.entry? x) :
    follow t' here names = follow t here names := by
  induction names generalizing here with
  | nil => rfl
  | cons n names ih => rw [follow, follow, h, ih]

/-- A file where nothing stood moves no path: names lead to the same place as
before, or to none before and after. -/
theorem follow_newFile {new : Location} {bytes : List UInt8} (hnone : t.entry? new = none)
    (hfile : t'.entry? new = some (.file bytes)) (h : ∀ x, x ≠ new → t'.entry? x = t.entry? x) :
    follow t' here names = follow t here names ∨
      ∃ r r' : Reason, follow t here names = .error r ∧ follow t' here names = .error r' ∧
        r.meansAbsent = true ∧ r'.meansAbsent = true := by
  induction names generalizing here with
  | nil => exact .inl rfl
  | cons n names ih =>
    by_cases hhere : here = new
    · right
      subst hhere
      refine ⟨.noSuchFile, .notDirectory, ?_, ?_, rfl, rfl⟩
      · rw [follow, hnone]
      · rw [follow, hfile]
    · have hentry := h here hhere
      cases hstand : t.entry? here with
      | none => exact .inl (by rw [follow, follow, hentry, hstand])
      | some e =>
        cases e with
        | file b => exact .inl (by rw [follow, follow, hentry, hstand])
        | folder =>
          rw [follow, follow, hentry, hstand]
          by_cases hlong : Text.byteLength n > nameLimit
          · exact .inl (by simp [hlong])
          · simp only [hlong, if_false]
            exact ih

/-! ## Places that can be reached -/

/-- A location lies in folders that stand, up to the root. -/
def Reached (t : FileTree) (l : Location) : Prop :=
  ∀ k < l.length, t.entry? (l.take k) = some .folder

theorem Reached.dropLast (h : Reached t l) : Reached t l.dropLast := by
  intro k hk
  rw [List.length_dropLast] at hk
  have htake : l.dropLast.take k = l.take k := by
    rw [List.dropLast_eq_take, List.take_take, Nat.min_eq_left (by omega)]
  rw [htake]
  exact h k (by omega)

theorem Reached.concat (h : Reached t l) (hl : t.entry? l = some .folder) (name : String) :
    Reached t (l ++ [name]) := by
  intro k hk
  rw [List.length_append, List.length_singleton] at hk
  rcases Nat.lt_or_ge k l.length with hlt | hge
  · rw [List.take_append_of_le_length (by omega)]
    exact h k hlt
  · have hk : k = l.length := by omega
    rw [hk, List.take_left']
    · exact hl
    · rfl

theorem Reached.stepTo (h : Reached t l) (hl : t.entry? l = some .folder) (name : String) :
    Reached t (HostPath.stepTo l name) := by
  unfold HostPath.stepTo
  split
  · exact h.dropLast
  · exact h.concat hl name

/-- What names lead to from a place that can be reached can be reached. -/
theorem Reached.follow (h : Reached t here) (hl : Disk.follow t here names = .ok l) :
    Reached t l := by
  induction names generalizing here with
  | nil =>
    cases hl
    exact h
  | cons n names ih =>
    obtain ⟨hhere, -, hl⟩ := follow_cons_eq_ok.1 hl
    exact ih (h.stepTo hhere n) hl

/-- The parent of a folder that can be reached is a folder. -/
theorem Reached.entry?_dropLast (h : Reached t l) : t.entry? l.dropLast = some .folder := by
  by_cases hnil : l = []
  · rw [hnil]
    rfl
  · have hpos : 0 < l.length := List.length_pos_iff.2 hnil
    rw [List.dropLast_eq_take]
    exact h (l.length - 1) (by omega)

/-- The current folder is there, and so are the folders on the way to it. -/
def HomeStands (d : Disk) : Prop :=
  ∀ k ≤ d.home.length, d.tree.entry? (d.home.take k) = some .folder

instance (d : Disk) : Decidable d.HomeStands := by
  unfold HomeStands
  infer_instance

/-- Where paths start. -/
def startOf (d : Disk) (p : HostPath) : Location := if p.isAbsolute then [] else d.home

variable {d : Disk} {p : HostPath}

theorem HomeStands.entry?_startOf (h : d.HomeStands) (p : HostPath) :
    d.tree.entry? (d.startOf p) = some .folder := by
  unfold startOf
  split
  · rfl
  · have hhome := h d.home.length (Nat.le_refl _)
    rwa [List.take_length] at hhome

theorem HomeStands.reached_startOf (h : d.HomeStands) (p : HostPath) :
    Reached d.tree (d.startOf p) := by
  unfold startOf
  split
  · intro k hk
    simp at hk
  · intro k hk
    exact h k (by omega)

theorem locate_eq_ok :
    d.locate p = .ok l ↔
      Text.byteLength p.render ≤ pathLimit ∧ follow d.tree (d.startOf p) p.names = .ok l := by
  rw [locate]
  by_cases hlong : Text.byteLength p.render > pathLimit
  · have hle : ¬ Text.byteLength p.render ≤ pathLimit := by omega
    simp [hlong, hle]
  · have hle : Text.byteLength p.render ≤ pathLimit := by omega
    simp [hlong, hle, startOf]

/-- A path leads to its start, or a step away from a folder that can be reached. -/
theorem HomeStands.locate_cases (h : d.HomeStands) (hl : d.locate p = .ok l) :
    p.names = [] ∧ l = d.startOf p ∨
      ∃ names name folder, p.names = names ++ [name] ∧ Reached d.tree folder ∧
        d.tree.entry? folder = some .folder ∧ l = HostPath.stepTo folder name := by
  obtain ⟨-, hl⟩ := locate_eq_ok.1 hl
  rcases List.eq_nil_or_concat p.names with hnames | ⟨names, name, hnames⟩
  · rw [hnames] at hl
    cases hl
    exact .inl ⟨hnames, rfl⟩
  · rw [List.concat_eq_append] at hnames
    rw [hnames, follow_concat_eq_ok] at hl
    obtain ⟨folder, hfolder, hstands, -, rfl⟩ := hl
    exact .inr ⟨names, name, folder, hnames, (h.reached_startOf p).follow hfolder, hstands, rfl⟩

end Disk

end SolutionScript.FileSystem
