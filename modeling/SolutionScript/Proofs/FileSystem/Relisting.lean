import Mathlib.Data.List.Lex
import Mathlib.Data.List.Perm.Basic
import SolutionScript.Proofs.FileSystem.Glob
import SolutionScript.Proofs.Graph.SortKey
import SolutionScript.Proofs.TwoRuns

/-!
# Listing order

Two disks that hold the same and list it in different orders (`Relisted`). What stands at a path is
the same on both. A search finds the same paths on both, in different orders, or it fails on both,
for a path below the folder that is too long (`Relisted.glob`). Of several such paths the fault
names the one that is looked at first, so faults are the same only up to that path
(`Fault.SameUpToLong`). Once sorted, what is found is the same (`Relisted.sorted_glob`).
-/

namespace SolutionScript.FileSystem

open Fallible

/-! ## Sorted paths -/

theorem HostPath.partsLe_iff {as bs : List String} : HostPath.partsLe as bs = true ↔ as ≤ bs := by
  rw [← not_lt]
  induction as generalizing bs with
  | nil => simp [HostPath.partsLe]
  | cons a as ih =>
    cases bs with
    | nil => simp [HostPath.partsLe]
    | cons b bs =>
      rw [HostPath.partsLe, List.cons_lt_cons_iff]
      by_cases h : a = b
      · simp [h, ih]
      · rw [if_neg h, Text.le_iff, ← not_lt]
        simp only [Ne.symm h, false_and, or_false]

/-- Below a folder, a path is known by its parts. -/
theorem Below.eq_of_parts {folder p q : HostPath} (hp : Below folder p) (hq : Below folder q)
    (h : p.parts = q.parts) : p = q := by
  have hroot : p.root = q.root := hp.root.trans hq.root.symm
  have hnames : p.names = q.names := by
    unfold HostPath.parts at h
    rw [hroot] at h
    split at h
    · exact h
    · exact (List.cons.inj h).2
  cases p
  cases q
  cases hroot
  cases hnames
  rfl

/-- Sorted paths do not show in which order they were found. -/
theorem sorted_eq_of_perm {folder : HostPath} {paths paths' : List HostPath}
    (h : paths.Perm paths') (hbelow : ∀ p ∈ paths, Below folder p) :
    sorted paths = sorted paths' :=
  mergeSort_eq_of_perm HostPath.parts (fun _ _ => HostPath.partsLe_iff) h
    fun p hp q hq => (hbelow p hp).eq_of_parts (hbelow q hq)

/-! ## Two disks -/

/-- Two faults are the same, or both refuse a path below one of the folders because it is too long,
each a path of its own. -/
inductive Fault.SameUpToLong (d : Disk) (folders : Set HostPath) : Fault → Fault → Prop
  | refl (fault : Fault) : SameUpToLong d folders fault fault
  | long {folder : HostPath} {fault fault' : Fault} : folder ∈ folders →
    d.LongBelow folder fault → d.LongBelow folder fault' → SameUpToLong d folders fault fault'

theorem Fault.SameUpToLong.of_both {d : Disk} {folder : HostPath} {fault fault' : Fault}
    (h : Both (d.LongBelow folder) fault fault') : fault.SameUpToLong d {folder} fault' :=
  .long rfl h.1 h.2

/-- Two disks with the same current folder have the same at the same places, and list it in any
orders. -/
structure Relisted (d d' : Disk) : Prop where
  entries : d.tree.entries.Perm d'.tree.entries
  locations : (d.tree.entries.map (·.1)).Nodup
  home : d.home = d'.home

/-- The disk, listed the other way round. -/
def Disk.reversed (d : Disk) : Disk := { d with tree := ⟨d.tree.entries.reverse⟩ }

theorem Disk.relisted_reversed {d : Disk} (h : (d.tree.entries.map (·.1)).Nodup) :
    Relisted d d.reversed :=
  ⟨(List.reverse_perm _).symm, h, rfl⟩

/-- Where keys differ, a member is found by its key. -/
theorem find?_eq_some_of_nodup {α κ : Type} [BEq κ] [LawfulBEq κ] {key : α → κ} {l : List α}
    (hl : (l.map key).Nodup) {a : α} {k : κ} :
    l.find? (key · == k) = some a ↔ a ∈ l ∧ key a = k := by
  constructor
  · intro h
    exact ⟨List.mem_of_find?_eq_some h, by simpa using List.find?_some h⟩
  · rintro ⟨ha, rfl⟩
    cases h : l.find? (key · == key a) with
    | none => exact absurd (List.find?_eq_none.1 h a ha) (by simp)
    | some b =>
      have hkey : key b = key a := by simpa using List.find?_some h
      rw [List.inj_on_of_nodup_map hl (List.mem_of_find?_eq_some h) ha hkey]

theorem perm_eraseDups {α : Type} [BEq α] [LawfulBEq α] {l l' : List α} (h : l.Perm l') :
    l.eraseDups.Perm l'.eraseDups :=
  (List.perm_ext_iff_of_nodup (nodup_eraseDups l) (nodup_eraseDups l')).2 fun a => by
    rw [List.mem_eraseDups, List.mem_eraseDups, h.mem_iff]

namespace Relisted

variable {d d' : Disk} (h : Relisted d d')
include h

/-! ## What stands at a path -/

theorem entry?_eq : d.tree.entry? = d'.tree.entry? := by
  have hlocations := (h.entries.map (·.1)).nodup_iff.1 h.locations
  funext l
  by_cases hl : l = []
  · rw [hl]
    rfl
  · rw [FileTree.entry?_eq_find? hl, FileTree.entry?_eq_find? hl]
    congr 1
    ext x
    rw [find?_eq_some_of_nodup h.locations, find?_eq_some_of_nodup hlocations, h.entries.mem_iff]

theorem isFolder_eq : d.tree.isFolder = d'.tree.isFolder := by
  funext l
  rw [FileTree.isFolder, FileTree.isFolder, h.entry?_eq]

theorem follow_eq (here : Location) (names : List String) :
    Disk.follow d.tree here names = Disk.follow d'.tree here names := by
  induction names generalizing here with
  | nil => rfl
  | cons name names ih => rw [Disk.follow, Disk.follow, h.entry?_eq, ih]

theorem locate_eq : d.locate = d'.locate := by
  funext p
  rw [Disk.locate, Disk.locate, h.home, h.follow_eq]

theorem look_eq : d.look = d'.look := by
  funext p
  rw [Disk.look, Disk.look, h.locate_eq, h.entry?_eq]

theorem read_eq : d.read = d'.read := by
  funext p
  rw [Disk.read, Disk.read, h.locate_eq, h.entry?_eq]

theorem folderAt_eq : d.folderAt = d'.folderAt := by
  funext p
  rw [Disk.folderAt, Disk.folderAt, h.locate_eq]

theorem diskIsFolder_eq : d.isFolder = d'.isFolder := by
  funext p
  rw [Disk.isFolder, Disk.isFolder, h.look_eq]

theorem isFile_eq : d.isFile = d'.isFile := by
  funext p
  rw [Disk.isFile, Disk.isFile, h.look_eq]

theorem isPresent_eq : d.isPresent = d'.isPresent := by
  funext p
  rw [Disk.isPresent, Disk.isPresent, h.look_eq]

/-! ## Searches -/

theorem names_perm (l : Location) : (d.tree.names l).Perm (d'.tree.names l) :=
  h.entries.filterMap _

theorem foldersBelow_perm (l : Location) : (d.tree.foldersBelow l).Perm (d'.tree.foldersBelow l) :=
  h.entries.filterMap _

/-- The steps lead to the same paths. -/
theorem select (pattern : PathPattern) {folder p : HostPath} (hp : Below folder p) :
    Alike (Both (d.LongBelow folder)) List.Perm (d.select pattern p) (d'.select pattern p) := by
  induction pattern generalizing p with
  | nil => exact .ok (.refl _)
  | cons step rest ih =>
    cases step with
    | here => exact .ok (.refl _)
    | named name =>
      rw [Disk.select, Disk.select, ← h.isPresent_eq, ← h.diskIsFolder_eq]
      split
      all_goals
        refine .bind_same (.of_failsWith (.map _ (Disk.failsWith_look (hp.child name))))
          fun goOn _ => ?_
        cases goOn with
        | false => exact .ok (.refl _)
        | true => exact ih (hp.child name)
    | like names =>
      rw [Disk.select, Disk.select, ← h.folderAt_eq, ← h.isFolder_eq]
      refine .bind_same (.of_failsWith (Disk.failsWith_folderAt hp)) fun place _ => ?_
      refine (Alike.flatten_perm ?_ fun name _ => ih (hp.child name)).bind fun _ _ hfound =>
        .ok hfound
      split
      · exact (h.names_perm _).filter _
      · exact .refl _
    | everywhere =>
      rw [Disk.select, Disk.select, ← h.folderAt_eq]
      refine .bind_same (.of_failsWith (Disk.failsWith_folderAt hp)) fun place _ => ?_
      refine (Alike.flatten_perm ?_ fun start hstart => ?_).bind fun _ _ hfound =>
        .ok (perm_eraseDups hfound)
      · refine List.Perm.cons _ (List.Perm.map _ ?_)
        split
        · exact h.foldersBelow_perm _
        · exact .refl _
      · have hbelow := Disk.below_of_mem_starts hp hstart
        refine (ih hbelow).bind fun _ _ hfound => ?_
        exact .bind_same (.of_failsWith (Disk.failsWith_folderAt hbelow)) fun _ _ => .ok hfound

/-- The same paths are found below a folder. -/
theorem glob (folder : HostPath) (pattern : PathPattern) :
    Alike (Both (d.LongBelow folder)) List.Perm (d.glob folder pattern)
      (d'.glob folder pattern) := by
  rw [Disk.glob, Disk.glob, ← h.diskIsFolder_eq]
  refine .bind_same (.of_failsWith (.map _ (Disk.failsWith_look (.refl folder)))) fun stands _ => ?_
  cases stands with
  | false => exact .ok (.refl _)
  | true => exact h.select pattern (.refl folder)

/-- What is found below a folder is the same once it is sorted. -/
theorem sorted_glob (folder : HostPath) (pattern : PathPattern) :
    Alike (Fault.SameUpToLong d {folder}) (fun found found' => sorted found = sorted found')
      (d.glob folder pattern) (d'.glob folder pattern) := by
  refine (h.glob folder pattern).with_left.mono ?_ ?_
  · exact fun _ _ h => .of_both h
  · rintro found found' ⟨hfound, hperm⟩
    exact sorted_eq_of_perm hperm fun p hp => Disk.below_of_mem_glob hfound hp

/-- The files among paths are the same, whatever the order of the paths. -/
theorem onlyFiles {folder : HostPath} {paths paths' : List HostPath} (hpaths : paths.Perm paths')
    (hbelow : ∀ p ∈ paths, Below folder p) :
    Alike (Both (d.LongBelow folder)) List.Perm (d.onlyFiles paths) (d'.onlyFiles paths') := by
  rw [Disk.onlyFiles, Disk.onlyFiles, ← h.isFile_eq]
  exact .filterM_perm hpaths fun p hp => .map _ (Disk.failsWith_look (hbelow p hp))

end Relisted

end SolutionScript.FileSystem
