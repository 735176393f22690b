import SolutionScript.FileSystem.Glob

/-!
# What searches see

Whatever looks at a disk without reading files sees the places where folders and files stand, and
not what the files hold: it finds the same on the disk with all files emptied (`Disk.bare`). So two
disks that differ in one file only (`SameBut`) can be told apart by reading that file, and
in no other way (`SameBut.read_eq`).
-/

namespace SolutionScript.FileSystem

/-- What stands at a place, with files emptied. -/
def Entry.bare : Entry → Entry
  | .folder => .folder
  | .file _ => .file []

/-- A tree with all files emptied. -/
def FileTree.bare (t : FileTree) : FileTree := ⟨t.entries.map fun x => (x.1, x.2.bare)⟩

namespace FileTree

variable {t : FileTree}

@[simp] theorem entry?_bare (t : FileTree) (l : Location) :
    t.bare.entry? l = (t.entry? l).map Entry.bare := by
  by_cases hl : l = []
  · rw [hl]
    rfl
  · rw [FileTree.entry?_eq_find? hl, FileTree.entry?_eq_find? hl, FileTree.bare, List.find?_map,
      Option.map_map, Option.map_map]
    rfl

@[simp] theorem isFolder_bare (t : FileTree) (l : Location) :
    t.bare.isFolder l = t.isFolder l := by
  rw [FileTree.isFolder, FileTree.isFolder, entry?_bare]
  rcases t.entry? l with _ | _ | _ <;> rfl

@[simp] theorem names_bare (t : FileTree) (l : Location) : t.bare.names l = t.names l := by
  rw [FileTree.names, FileTree.names, FileTree.bare, List.filterMap_map]
  rfl

@[simp] theorem foldersBelow_bare (t : FileTree) (l : Location) :
    t.bare.foldersBelow l = t.foldersBelow l := by
  have hfolder (e : Entry) : (e.bare == .folder) = (e == .folder) := by cases e <;> rfl
  rw [FileTree.foldersBelow, FileTree.foldersBelow, FileTree.bare, List.filterMap_map]
  simp only [Function.comp_def, hfolder]

end FileTree

namespace Disk

/-- A disk with all files emptied, on which every writing goes well. -/
def bare (d : Disk) : Disk := { tree := d.tree.bare, home := d.home }

@[simp] theorem tree_bare (d : Disk) : d.bare.tree = d.tree.bare := rfl

@[simp] theorem home_bare (d : Disk) : d.bare.home = d.home := rfl

@[simp] theorem follow_bare (t : FileTree) (here : Location) (names : List String) :
    follow t.bare here names = follow t here names := by
  induction names generalizing here with
  | nil => rfl
  | cons name names ih =>
    rw [follow, follow, FileTree.entry?_bare, ih]
    rcases t.entry? here with _ | _ | _ <;> rfl

@[simp] theorem locate_bare (d : Disk) : d.bare.locate = d.locate := by
  funext p
  rw [locate, locate, tree_bare, home_bare, follow_bare]

@[simp] theorem look_bare (d : Disk) (p : HostPath) :
    d.bare.look p = (d.look p).map (·.map Entry.bare) := by
  rw [look, look, locate_bare, tree_bare]
  split
  · rfl
  · split
    · simp [Except.map]
    · split <;> rfl

@[simp] theorem isFolder_bare (d : Disk) : d.bare.isFolder = d.isFolder := by
  funext p
  rw [isFolder, isFolder, look_bare]
  rcases d.look p with _ | _ | _ | _ <;> rfl

@[simp] theorem isFile_bare (d : Disk) : d.bare.isFile = d.isFile := by
  funext p
  rw [isFile, isFile, look_bare]
  rcases d.look p with _ | _ | _ | _ <;> rfl

@[simp] theorem isPresent_bare (d : Disk) : d.bare.isPresent = d.isPresent := by
  funext p
  rw [isPresent, isPresent, look_bare]
  rcases d.look p with _ | _ | _ | _ <;> rfl

@[simp] theorem folderAt_bare (d : Disk) : d.bare.folderAt = d.folderAt := by
  funext p
  rw [folderAt, folderAt, locate_bare]

/-! ## Searches -/

@[simp] theorem select_bare (d : Disk) : d.bare.select = d.select := by
  funext pattern
  induction pattern with
  | nil => rfl
  | cons step rest ih =>
    funext p
    cases step <;> simp only [select, ih, isPresent_bare, isFolder_bare, folderAt_bare, tree_bare,
      FileTree.names_bare, FileTree.isFolder_bare, FileTree.foldersBelow_bare]

@[simp] theorem glob_bare (d : Disk) : d.bare.glob = d.glob := by
  funext p pattern
  rw [glob, glob, isFolder_bare, select_bare]

@[simp] theorem onlyFiles_bare (d : Disk) : d.bare.onlyFiles = d.onlyFiles := by
  funext paths
  rw [onlyFiles, onlyFiles, isFile_bare]

end Disk

/-! ## Two disks -/

/-- Two disks with the same folders and files, which hold the same but for the file at a place. -/
structure SameBut (l : Location) (d d' : Disk) : Prop where
  bare : d.bare = d'.bare
  elsewhere : ∀ l' ≠ l, d.tree.entry? l' = d'.tree.entry? l'

namespace SameBut

variable {l : Location} {d d' : Disk} {file : HostPath}

theorem symm (h : SameBut l d d') : SameBut l d' d :=
  ⟨h.bare.symm, fun l' hl' => (h.elsewhere l' hl').symm⟩

theorem home_eq (h : SameBut l d d') : d.home = d'.home := by
  rw [← Disk.home_bare, h.bare, Disk.home_bare]

theorem locate_eq (h : SameBut l d d') : d.locate = d'.locate := by
  rw [← Disk.locate_bare, h.bare, Disk.locate_bare]

/-- Every other file holds the same. -/
theorem read_eq (h : SameBut l d d') (hfile : d.locate file ≠ .ok l) :
    d.read file = d'.read file := by
  rw [Disk.read, Disk.read, ← h.locate_eq]
  split
  · rfl
  · dsimp only
    split
    · rfl
    · rename_i l' hl'
      rw [h.elsewhere l' fun heq => hfile (heq ▸ hl')]

/-- A file holds the same on both disks, or is the one at the place. -/
theorem read_cases {bytes bytes' : List UInt8} (h : SameBut l d d')
    (hentry : d.tree.entry? l = some (.file bytes))
    (hentry' : d'.tree.entry? l = some (.file bytes')) (file : HostPath) :
    d.read file = d'.read file ∨
      d.locate file = .ok l ∧ d.read file = .ok bytes ∧ d'.read file = .ok bytes' := by
  by_cases hfile : d.locate file = .ok l
  · cases hnull : Disk.hasNull file with
    | true => exact .inl (by simp [Disk.read, hnull])
    | false =>
      have hfile' := h.locate_eq ▸ hfile
      exact .inr ⟨hfile, by simp [Disk.read, hnull, hfile, hentry],
        by simp [Disk.read, hnull, hfile', hentry']⟩
  · exact .inl (h.read_eq hfile)

end SameBut

end SolutionScript.FileSystem
