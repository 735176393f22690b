import SolutionScript.Convert
import SolutionScript.Proofs.FileSystem.Relisting
import SolutionScript.Proofs.Solution.TwoLoads

/-!
# Loading from relisted disks

Wherever files are searched for, what is found is sorted before it is used. So a solution that is
located and loaded is the same whatever the order is in which a disk lists its folders
(`Relisted.loadOrdered`). Failures are the same with one exception: where a search meets several
paths that are too long, each run names the one that it looks at first (`Failure.SameUpToLong`). A
run that does not fail for such a path ends in exactly the same way (`SameUpToLong.eq`).
-/

namespace SolutionScript

open FileSystem Fallible

/-- Two failures are the same, or come from paths below one of the folders that are too long, each
from a path of its own. -/
inductive Failure.SameUpToLong (d : Disk) (folders : Set HostPath) : Failure → Failure → Prop
  | refl (e : Failure) : SameUpToLong d folders e e
  | disk {fault fault' : FileSystem.Fault} : fault.SameUpToLong d folders fault' →
    SameUpToLong d folders (.disk fault) (.disk fault')

/-- Two runs give the same, or fail for the same reason: for the same path, unless both fail for
paths below one of the folders that are too long. -/
abbrev SameUpToLong {α : Type} (d : Disk) (folders : Set HostPath) (x y : Except Failure α) :
    Prop :=
  Alike (Failure.SameUpToLong d folders) Eq x y

namespace SameUpToLong

variable {α : Type} {d : Disk} {folders folders' : Set HostPath} {x y : Except Failure α}

theorem refl (x : Except Failure α) : SameUpToLong d folders x x := Alike.refl .refl

theorem mono (hfolders : folders ⊆ folders') (h : SameUpToLong d folders x y) :
    SameUpToLong d folders' x y := by
  refine Alike.mono h ?_ fun _ _ h => h
  rintro e e' (_ | ⟨_ | ⟨hfolder, hlong, hlong'⟩⟩)
  · exact .refl _
  · exact .refl _
  · exact .disk (.long (hfolders hfolder) hlong hlong')

/-- Only where paths below a folder are too long can the two runs be told apart. -/
theorem eq (h : SameUpToLong d folders x y)
    (hx : ∀ fault, x = .error (.disk fault) → ∀ folder ∈ folders, ¬ d.LongBelow folder fault) :
    x = y := by
  cases h with
  | ok h => rw [h]
  | error h =>
    cases h with
    | refl => rfl
    | disk h =>
      cases h with
      | refl => rfl
      | long hfolder hlong _ => exact absurd hlong (hx _ rfl _ hfolder)

end SameUpToLong

namespace FileSystem.Relisted

variable {d d' : Disk} (h : Relisted d d')
include h

/-! ## Locating -/

theorem filesIn (folder : HostPath) :
    Alike (Both (d.LongBelow folder)) Eq (Solution.filesIn d folder)
      (Solution.filesIn d' folder) := by
  refine (h.glob folder Solution.filePattern).with_left.bind ?_
  rintro found found' ⟨hfound, hperm⟩
  have hbelow p (hp : p ∈ found) : Below folder p := Disk.below_of_mem_glob hfound hp
  refine (h.onlyFiles hperm hbelow).with_left.bind ?_
  rintro files files' ⟨hfiles, hperm⟩
  exact .ok (sorted_eq_of_perm hperm fun p hp => hbelow p (mem_of_filterM_eq_ok hfiles hp).1)

theorem findIn (folder : Option HostPath) :
    SameUpToLong d {folder.getD d.homePath} (Solution.findIn d folder)
      (Solution.findIn d' folder) := by
  have hhome : d.homePath = d'.homePath := congrArg (HostPath.mk .single) h.home
  have hfiles := h.filesIn (folder.getD d.homePath)
  rw [Solution.findIn, Solution.findIn, ← hhome]
  generalize Solution.filesIn d (folder.getD d.homePath) = x at hfiles
  generalize Solution.filesIn d' (folder.getD d.homePath) = y at hfiles
  cases hfiles with
  | ok h =>
    cases h
    exact .refl _
  | error h => exact .error (.disk (.of_both h))

theorem locate (path folder : Option HostPath) :
    SameUpToLong d Set.univ (Solution.locate d path folder) (Solution.locate d' path folder) := by
  cases path with
  | none => exact (h.findIn folder).mono (Set.subset_univ _)
  | some path =>
    rw [Solution.locate, Solution.locate, Solution.locateAt, Solution.locateAt, ← h.diskIsFolder_eq,
      ← h.isFile_eq]
    split
    · exact .refl _
    · exact (h.findIn _).mono (Set.subset_univ _)
    · exact .refl _

/-! ## Descriptors -/

theorem matching (folder : HostPath) (part : String) :
    Alike (Fault.SameUpToLong d {folder}) Eq (Include.matching d folder part)
      (Include.matching d' folder part) := by
  rw [Include.matching, Include.matching]
  split
  · exact .error (.refl _)
  · refine (h.sorted_glob folder _).bind fun found found' hfound => ?_
    rw [← hfound, Disk.onlyFiles, Disk.onlyFiles, ← h.isFile_eq]
    exact .refl .refl

theorem expandPart (folder : HostPath) (part : String) :
    Alike (Fault.SameUpToLong d {folder}) Eq (Include.expandPart d folder part)
      (Include.expandPart d' folder part) := by
  rw [Include.expandPart, Include.expandPart]
  split
  · exact h.matching folder part
  · exact .ok rfl

theorem expand (folder : HostPath) (item : String) :
    SameUpToLong d {folder} (Include.expand d folder item) (Include.expand d' folder item) := by
  have hparts := Alike.mapM (l := Include.partsOf item) fun part _ => h.expandPart folder part
  rw [Include.expand, Include.expand]
  generalize (Include.partsOf item).mapM (Include.expandPart d folder) = x at hparts
  generalize (Include.partsOf item).mapM (Include.expandPart d' folder) = y at hparts
  cases hparts with
  | ok h =>
    rw [List.forall₂_eq_eq_eq] at h
    exact .ok (congrArg _ h)
  | error h => exact .error (.disk h)

theorem findSources (kind : Language) (folder : HostPath) :
    SameUpToLong d {folder} (Descriptor.Properties.findSources d kind folder)
      (Descriptor.Properties.findSources d' kind folder) := by
  have hfound := h.sorted_glob folder (Descriptor.Properties.sourcePattern kind)
  rw [Descriptor.Properties.findSources, Descriptor.Properties.findSources]
  generalize d.glob folder (Descriptor.Properties.sourcePattern kind) = x at hfound
  generalize d'.glob folder (Descriptor.Properties.sourcePattern kind) = y at hfound
  cases hfound with
  | ok h =>
    dsimp only
    rw [h]
    exact .refl _
  | error h => exact .error (.disk h)

open Descriptor in
theorem readItem (directory : String) (folder : HostPath) (e : Xml.Element) :
    SameUpToLong d {folder} (Properties.readItem d directory folder e)
      (Properties.readItem d' directory folder e) := by
  rw [Properties.readItem, Properties.readItem]
  split
  · exact .refl _
  · split
    · exact (h.expand folder _).map fun _ _ h => congrArg _ (congrArg _ h)
    · exact .refl _

open Descriptor in
theorem readProperties (p : Project) (root : Xml.Element) (file : HostPath) :
    SameUpToLong d {file.parent} (Properties.read d p root file)
      (Properties.read d' p root file) := by
  rw [Properties.read, Properties.read]
  refine (Alike.mapM fun e _ => h.readItem _ _ e).bind fun items items' hitems => ?_
  rw [List.forall₂_eq_eq_eq] at hitems
  cases hitems
  dsimp only
  split
  · refine (h.findSources _ _).bind fun sources _ hsources => ?_
    cases hsources
    exact SameUpToLong.refl _
  · exact SameUpToLong.refl _

theorem loadTree_eq : Descriptor.load d = Descriptor.load d' := by
  funext file name
  rw [Descriptor.load, Descriptor.load, h.read_eq]

theorem readDescriptor (p : Project) (file : HostPath) :
    SameUpToLong d {file.parent} (Descriptor.read d p file) (Descriptor.read d' p file) := by
  rw [Descriptor.read, Descriptor.read, ← h.loadTree_eq]
  refine .bind_same (SameUpToLong.refl _) fun root _ => ?_
  dsimp only
  split
  · exact SameUpToLong.refl _
  · refine (h.readProperties p root file).bind fun r _ hr => ?_
    cases hr
    exact SameUpToLong.refl _
  · exact SameUpToLong.refl _

/-! ## Solutions -/

theorem loadsAlike (file base : HostPath) (mappings : List PathMapping) :
    Solution.LoadsAlike d d' file base mappings (Failure.SameUpToLong d Set.univ) Eq Eq where
  home := h.home
  other e _ := .refl e
  refused := by
    rintro cause line _ rfl
    exact .refl _
  template source name := by
    rw [h.loadTree_eq]
    exact Alike.mono (SameUpToLong.refl _) (fun _ _ he => he) fun root _ hroot =>
      hroot ▸ Template.SameTemplate.refl root
  descriptor := by
    rintro p source line _ - rfl
    exact Alike.mono ((h.readDescriptor p source).mono (Set.subset_univ _)) (fun _ _ he => he)
      fun _ _ hr => by rw [hr]
  project hl := by rw [hl]

theorem load (file : HostPath) (mappings : List PathMapping) :
    SameUpToLong d Set.univ (Solution.load d file mappings)
      (Solution.load d' file mappings) := by
  rw [Solution.load, Solution.load, Solution.readLines, Solution.readLines, ← h.read_eq]
  refine .bind_same (SameUpToLong.refl _) fun lines _ => ?_
  split
  · exact SameUpToLong.refl _
  · rename_i text _
    have hsame : List.Forall₂ (SolutionEntry.Alike Eq) text.entries text.entries :=
      List.forall₂_same.2 fun _ _ => ⟨rfl, rfl⟩
    refine ((h.loadsAlike file file.parent mappings).entries hsame).bind
      fun loaded loaded' hloaded => ?_
    rw [List.forall₂_eq_eq_eq] at hloaded
    cases hloaded
    exact SameUpToLong.refl _

theorem loadOrdered (r : Request) :
    SameUpToLong d Set.univ (loadOrdered d r) (loadOrdered d' r) := by
  rw [SolutionScript.loadOrdered, SolutionScript.loadOrdered]
  split
  · exact SameUpToLong.refl _
  · refine (h.locate _ _).bind fun file _ hfile => ?_
    cases hfile
    refine (h.load file _).bind fun s _ hs => ?_
    cases hs
    exact SameUpToLong.refl _

end FileSystem.Relisted

end SolutionScript
