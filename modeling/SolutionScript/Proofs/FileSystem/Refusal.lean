import SolutionScript.Proofs.FileSystem.WellFormed
import SolutionScript.Proofs.Text.Span
import SolutionScript.Proofs.Text.Split

/-!
# Paths that the system refuses

Looking for a folder at a path has three ends: there is one (`isFolder_iff`), there is none
(`isFolder_eq_false`), or the system refuses to look, because the path or a name in it is too long
(`isFolder_eq_error`). A name of 256 letters is one that is refused in every folder
(`refuses_child_longName`).
-/

namespace SolutionScript

open FileSystem Fallible

namespace FileSystem.Disk

/-- A folder stands at a path. -/
def HasFolder (d : Disk) (p : HostPath) : Prop :=
  hasNull p = false ∧ ∃ l, d.locate p = .ok l ∧ d.tree.entry? l = some .folder

/-- The system refuses to look at a path: it, or a name in it, is too long. -/
def Refuses (d : Disk) (p : HostPath) : Prop :=
  hasNull p = false ∧ d.locate p = .error .nameTooLong

variable {d : Disk} {p : HostPath} {fault : Fault}

theorem look_of_refuses (h : d.Refuses p) :
    d.look p = .error (.system .nameTooLong p.render none) := by
  rw [look, h.1, h.2]
  rfl

theorem refuses_of_look (h : d.look p = .error fault) :
    d.Refuses p ∧ fault = .system .nameTooLong p.render none := by
  rw [look] at h
  split at h
  · cases h
  · rename_i hnull
    split at h
    · cases h
    · rename_i reason hlocate
      split at h
      · cases h
      · rename_i habsent
        rcases locate_eq_error hlocate with hreason | rfl
        · exact absurd hreason habsent
        · cases h
          exact ⟨⟨by simpa using hnull, hlocate⟩, rfl⟩

theorem isFolder_eq_error :
    d.isFolder p = .error fault ↔ d.Refuses p ∧ fault = .system .nameTooLong p.render none := by
  constructor
  · exact fun h => refuses_of_look (map_eq_error h)
  · rintro ⟨hrefuses, rfl⟩
    rw [isFolder, look_of_refuses hrefuses]
    rfl

/-- No folder stands at a path, and the system says so. -/
theorem isFolder_eq_false : d.isFolder p = .ok false ↔ ¬ d.HasFolder p ∧ ¬ d.Refuses p := by
  rw [HasFolder, ← isFolder_iff]
  cases h : d.isFolder p with
  | error fault =>
    have hrefuses := (isFolder_eq_error.1 h).1
    simp [hrefuses]
  | ok folder =>
    have hlooks : ¬ d.Refuses p := fun hrefuses => by
      cases h.symm.trans (isFolder_eq_error.2 ⟨hrefuses, rfl⟩)
    cases folder <;> simp [hlooks]

end FileSystem.Disk

/-! ## A name that is too long -/

namespace HostPath

/-- A name is read as the path of that name in the current folder. -/
theorem parse_name {name : String} (hempty : name ≠ "") (hdot : name ≠ ".")
    (hslash : '/' ∉ name.toList) : parse name = ⟨.relative, [name]⟩ := by
  have hstops : Text.StopsAt (· == '/') name.toList := by
    intro c hc
    have hne : c ≠ '/' := fun heq => hslash (heq ▸ List.mem_of_mem_head? hc)
    simpa using hne
  have hroot : rootOf name.toList = .relative := by
    rw [rootOf, hstops.takeWhile_eq]
    rfl
  rw [parse, hroot, Text.splitAt_of_not_mem hslash]
  simp [hempty, hdot]

theorem render_name (name : String) : render ⟨.relative, [name]⟩ = name := by
  simp [render, rootText, Text.join]

end HostPath

/-- A name that no folder can have. -/
def longName : String := String.ofList (List.replicate 256 'a')

theorem byteLength_replicate (n : Nat) :
    Text.byteLength (String.ofList (List.replicate n 'a')) = n := by
  induction n with
  | zero => rfl
  | succ n ih =>
    have hletter : (String.singleton 'a').utf8ByteSize = 1 := by decide
    rw [Text.byteLength] at ih
    rw [List.replicate_succ, String.ofList_cons, Text.byteLength, String.utf8ByteSize_append, ih,
      hletter, Nat.add_comm]

theorem toList_longName : longName.toList = List.replicate 256 'a' := String.toList_ofList

theorem not_mem_longName {c : Char} (h : c ≠ 'a') : c ∉ longName.toList := by
  intro hc
  rw [toList_longName] at hc
  exact h (List.eq_of_mem_replicate hc)

theorem longName_ne {name : String} (h : name.toList.length ≠ 256) : longName ≠ name := by
  rintro rfl
  rw [toList_longName, List.length_replicate] at h
  exact h rfl

theorem longName_ne_empty : longName ≠ "" := longName_ne (by decide)

theorem parse_longName : HostPath.parse longName = ⟨.relative, [longName]⟩ :=
  HostPath.parse_name longName_ne_empty (longName_ne (by decide)) (not_mem_longName (by decide))

theorem hasNull_child_longName (p : HostPath) :
    Disk.hasNull (p.child longName) = Disk.hasNull p := by
  have hnull : '\x00' ∉ longName.toList := not_mem_longName (by decide)
  simp [Disk.hasNull, HostPath.child, hnull]

/-- The system refuses the name in every folder. -/
theorem refuses_child_longName {d : Disk} {p : HostPath} (h : d.HasFolder p) :
    d.Refuses (p.child longName) := by
  obtain ⟨hnull, l, hl, hfolder⟩ := h
  refine ⟨(hasNull_child_longName p).trans hnull, ?_⟩
  rw [Disk.locate]
  split
  · rfl
  · have hbytes : Text.byteLength longName = 256 := byteLength_replicate 256
    have hname : Text.byteLength longName > Disk.nameLimit := by
      rw [hbytes, Disk.nameLimit]
      omega
    refine (Disk.follow_append_of_eq_ok (Disk.locate_eq_ok.1 hl).2).trans ?_
    rw [Disk.follow, hfolder]
    exact if_pos hname

theorem refuses_longName {d : Disk} (hhome : d.tree.entry? d.home = some .folder) :
    d.Refuses ⟨.relative, [longName]⟩ :=
  refuses_child_longName (p := ⟨.relative, []⟩) ⟨rfl, d.home, rfl, hhome⟩

end SolutionScript
