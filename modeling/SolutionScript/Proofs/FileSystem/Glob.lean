import SolutionScript.FileSystem.Glob
import SolutionScript.Proofs.Fallible

/-!
# Failures of searches

Looking at a path fails only if the path, or a name in it, is longer than the
system takes (`failsWith_folderAt`, `failsWith_look`); a file that was seen can be read
(`exists_read`). A search below a folder looks at nothing that is not below the
folder (`below_of_mem_glob`), so it fails only for a path there (`failsWith_glob`,
`failsWith_onlyFiles`).
-/

namespace SolutionScript.FileSystem

open Fallible

variable {folder p q : HostPath} {name : String} {names : List String}

/-! ## Paths below a folder -/

/-- A path starts with another one. -/
structure Below (folder p : HostPath) : Prop where
  root : p.root = folder.root
  names : folder.names <+: p.names

theorem Below.refl (folder : HostPath) : Below folder folder := ⟨rfl, List.prefix_refl _⟩

theorem Below.child (h : Below folder p) (name : String) : Below folder (p.child name) :=
  ⟨h.root, h.names.trans (List.prefix_append _ _)⟩

theorem Below.append (h : Below folder p) (names : List String) :
    Below folder { p with names := p.names ++ names } :=
  ⟨h.root, h.names.trans (List.prefix_append _ _)⟩

theorem mem_sorted {paths : List HostPath} : p ∈ sorted paths ↔ p ∈ paths := by
  rw [sorted, List.mem_mergeSort]

namespace Disk

variable {d : Disk} {here : Location} {reason : Reason}

/-! ## Looking and reading -/

theorem follow_eq_error (h : follow d.tree here names = .error reason) :
    reason.meansAbsent = true ∨ reason = .nameTooLong := by
  induction names generalizing here with
  | nil => cases h
  | cons name names ih =>
    rw [follow] at h
    split at h
    · cases h
      exact .inl rfl
    · cases h
      exact .inl rfl
    · split at h
      · cases h
        exact .inr rfl
      · exact ih h

theorem locate_eq_error (h : d.locate p = .error reason) :
    reason.meansAbsent = true ∨ reason = .nameTooLong := by
  rw [locate] at h
  split at h
  · cases h
    exact .inr rfl
  · exact follow_eq_error h

/-- A path below a folder is too long, or a name in it is. -/
inductive LongBelow (d : Disk) (folder : HostPath) : Fault → Prop
  | intro {p : HostPath} : Below folder p → d.locate p = .error .nameTooLong →
    LongBelow d folder (.system .nameTooLong p.render none)

theorem failsWith_folderAt (h : Below folder p) :
    FailsWith (LongBelow d folder) (d.folderAt p) := by
  unfold folderAt
  split
  · exact .ok _
  · rename_i reason hlocate
    split
    · exact .ok _
    · rename_i habsent
      rcases locate_eq_error hlocate with hreason | rfl
      · exact absurd hreason habsent
      · exact .error (.intro h hlocate)

/-- Looking at a path is locating it, and seeing what stands there. -/
theorem look_eq (d : Disk) (p : HostPath) :
    d.look p = if hasNull p then .ok none else (d.folderAt p).map (·.bind d.tree.entry?) := by
  unfold look folderAt
  split
  · rfl
  · cases d.locate p with
    | ok l => rfl
    | error reason => dsimp only; split <;> rfl

theorem failsWith_look (h : Below folder p) : FailsWith (LongBelow d folder) (d.look p) := by
  rw [look_eq]
  split
  · exact .ok _
  · exact .map _ (failsWith_folderAt h)

theorem look_of_isFile (h : d.isFile p = .ok true) :
    ∃ bytes, d.look p = .ok (some (.file bytes)) := by
  obtain ⟨entry, hlook, hentry⟩ := map_eq_ok.1 h
  split at hentry
  · rename_i bytes
    exact ⟨bytes, hlook⟩
  · cases hentry

theorem look_eq_some {e : Entry} : d.look p = .ok (some e) ↔
    hasNull p = false ∧ ∃ l, d.locate p = .ok l ∧ d.tree.entry? l = some e := by
  rw [look]
  cases hasNull p with
  | true => simp
  | false =>
    cases d.locate p with
    | ok l => simp
    | error reason =>
      by_cases habsent : reason.meansAbsent = true <;> simp [habsent]

theorem isFile_iff : d.isFile p = .ok true ↔ hasNull p = false ∧ ∃ l bytes,
    d.locate p = .ok l ∧ d.tree.entry? l = some (.file bytes) := by
  constructor
  · intro h
    obtain ⟨bytes, hlook⟩ := look_of_isFile h
    obtain ⟨hnull, l, hl, hentry⟩ := look_eq_some.1 hlook
    exact ⟨hnull, l, bytes, hl, hentry⟩
  · rintro ⟨hnull, l, bytes, hl, hentry⟩
    rw [isFile, look_eq_some.2 ⟨hnull, l, hl, hentry⟩]
    rfl

theorem read_eq_ok {bytes : List UInt8} : d.read p = .ok bytes ↔
    hasNull p = false ∧ ∃ l, d.locate p = .ok l ∧ d.tree.entry? l = some (.file bytes) := by
  rw [read]
  cases hasNull p with
  | true => simp
  | false =>
    cases d.locate p with
    | error reason => simp
    | ok l => rcases hentry : d.tree.entry? l with _ | _ | _ <;> simp [hentry]

/-- A file that was seen can be read. -/
theorem exists_read (h : d.isFile p = .ok true) : ∃ bytes, d.read p = .ok bytes := by
  obtain ⟨hnull, l, bytes, hl, hentry⟩ := isFile_iff.1 h
  exact ⟨bytes, read_eq_ok.2 ⟨hnull, l, hl, hentry⟩⟩

/-- The system refuses to read a file, or its path can not be handed to the system. -/
theorem read_eq_error {fault : Fault} (h : d.read p = .error fault) :
    (∃ reason, fault = .system reason p.render none) ∨
      hasNull p = true ∧ fault = .nullCharacter := by
  unfold read at h
  split at h
  · rename_i hnull
    cases h
    exact .inr ⟨hnull, rfl⟩
  · left
    dsimp only at h
    split at h
    · cases h
      exact ⟨_, rfl⟩
    · split at h
      · cases h
        exact ⟨_, rfl⟩
      · cases h
        exact ⟨_, rfl⟩
      · cases h

/-! ## Searching -/

variable {pattern : PathPattern} {found paths files : List HostPath}

/-- A fixed name leads on, or nothing is found. -/
theorem select_named_eq_ok {rest : PathPattern}
    (h : d.select (.named name :: rest) p = .ok found) :
    found = [] ∨ d.select rest (p.child name) = .ok found := by
  rw [select] at h
  split at h
  all_goals
    obtain ⟨goOn, -, h⟩ := bind_eq_ok.1 h
    cases goOn with
    | false =>
      cases h
      exact .inl rfl
    | true => exact .inr h

/-- A search of all folders starts from folders below the one searched. -/
theorem below_of_mem_starts (h : Below folder p) {below : List (List String)} {start : HostPath}
    (hstart : start ∈ p :: below.map fun names => { p with names := p.names ++ names }) :
    Below folder start := by
  rcases List.mem_cons.1 hstart with rfl | hstart
  · exact h
  · obtain ⟨names, -, rfl⟩ := List.mem_map.1 hstart
    exact h.append names

theorem failsWith_select (h : Below folder p) :
    FailsWith (LongBelow d folder) (d.select pattern p) := by
  induction pattern generalizing p with
  | nil => exact .ok _
  | cons step rest ih =>
    cases step with
    | here => exact .ok _
    | named name =>
      have hnext := failsWith_look (d := d) (h.child name)
      rw [select]
      split
      all_goals
        refine .bind (.map _ hnext) fun goOn _ => ?_
        cases goOn with
        | false => exact .ok _
        | true => exact ih (h.child name)
    | like names =>
      rw [select]
      refine .bind (failsWith_folderAt h) fun _ _ => ?_
      exact .bind (.mapM fun name _ => ih (h.child name)) fun _ _ => .ok _
    | everywhere =>
      rw [select]
      refine .bind (failsWith_folderAt h) fun _ _ =>
        .bind (.mapM fun start hstart => ?_) fun _ _ => .ok _
      have hbelow := below_of_mem_starts h hstart
      exact .bind (ih hbelow) fun _ _ => .bind (failsWith_folderAt hbelow) fun _ _ => .ok _

theorem below_of_mem_select (h : Below folder p) (hfound : d.select pattern p = .ok found)
    (hq : q ∈ found) : Below folder q := by
  induction pattern generalizing p found with
  | nil =>
    cases hfound
    rw [List.mem_singleton.1 hq]
    exact h
  | cons step rest ih =>
    cases step with
    | here =>
      cases hfound
      rw [List.mem_singleton.1 hq]
      exact h
    | named name =>
      rcases select_named_eq_ok hfound with rfl | hfound
      · cases hq
      · exact ih (h.child name) hfound hq
    | like names =>
      rw [select] at hfound
      obtain ⟨place, -, hfound⟩ := bind_eq_ok.1 hfound
      obtain ⟨groups, hgroups, hfound⟩ := bind_eq_ok.1 hfound
      cases hfound
      obtain ⟨group, hgroup, hq⟩ := List.mem_flatten.1 hq
      obtain ⟨name, -, hname⟩ := (mem_iff_of_mapM_eq_ok hgroups).1 hgroup
      exact ih (h.child name) hname hq
    | everywhere =>
      rw [select] at hfound
      obtain ⟨place, -, hfound⟩ := bind_eq_ok.1 hfound
      obtain ⟨groups, hgroups, hfound⟩ := bind_eq_ok.1 hfound
      cases hfound
      obtain ⟨group, hgroup, hq⟩ := List.mem_flatten.1 (List.mem_eraseDups.1 hq)
      obtain ⟨start, hstart, hselect⟩ := (mem_iff_of_mapM_eq_ok hgroups).1 hgroup
      obtain ⟨group', hselect, hgroup⟩ := bind_eq_ok.1 hselect
      obtain ⟨place, -, hgroup⟩ := bind_eq_ok.1 hgroup
      cases hgroup
      exact ih (below_of_mem_starts h hstart) hselect hq

theorem failsWith_glob : FailsWith (LongBelow d folder) (d.glob folder pattern) := by
  refine .bind (.map _ (failsWith_look (.refl folder))) fun stands _ => ?_
  split
  · exact failsWith_select (.refl folder)
  · exact .ok _

theorem below_of_mem_glob (h : d.glob folder pattern = .ok found) (hp : p ∈ found) :
    Below folder p := by
  rw [glob, bind_eq_ok] at h
  obtain ⟨stands, -, h⟩ := h
  split at h
  · exact below_of_mem_select (.refl folder) h hp
  · cases h
    cases hp

theorem failsWith_onlyFiles (h : ∀ p ∈ paths, Below folder p) :
    FailsWith (LongBelow d folder) (d.onlyFiles paths) :=
  .filterM fun p hp => .map _ (failsWith_look (h p hp))

end Disk

end SolutionScript.FileSystem
