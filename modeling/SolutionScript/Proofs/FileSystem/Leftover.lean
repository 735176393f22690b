import Mathlib.Data.Set.Insert
import SolutionScript.Proofs.FileSystem.Replace

/-!
# What is left of temporary files

The places of a disk where something stands, after a text has been written in place of a file. All
that stood stands, and a temporary file stays if and only if it could be filled and nothing can be
renamed to the target, or it could not be filled and the device does not delete it (`Strands`).
A folder in place of the target is enough for the former (`not_renames_of_isFolder`). Otherwise
nothing is new but the target (`places_writeText`).
-/

namespace SolutionScript.FileSystem

namespace Disk

variable {d d' d'' : Disk} {p target : HostPath} {l place : Location} {bytes : List UInt8}
  {points : List Nat}

/-! ## Places -/

/-- The places where something stands. -/
def places (d : Disk) : Set Location := {l | (d.tree.entry? l).isSome}

theorem mem_places : l ∈ d.places ↔ ∃ e, d.tree.entry? l = some e := Option.isSome_iff_exists

/-- A disk that has something in one place, and everywhere else what there was, has this place and
those that there were. -/
theorem places_eq_insert {e : Entry} (hplace : d'.tree.entry? l = some e)
    (h : ∀ x, x ≠ l → d'.tree.entry? x = d.tree.entry? x) : d'.places = insert l d.places := by
  ext x
  rw [Set.mem_insert_iff, mem_places, mem_places]
  by_cases hx : x = l
  · simp [hx, hplace]
  · rw [h x hx, or_iff_right hx]

namespace NewFile

theorem places (h : NewFile d d' l bytes) : d'.places = insert l d.places :=
  places_eq_insert h.file h.others

theorem not_mem_places (h : NewFile d d' l bytes) : l ∉ d.places := by
  rw [mem_places, h.absent]
  simp

/-- Once the new file is deleted, no place is new. -/
theorem places_deleted (h : NewFile d d' l bytes) (hdelete : d'.deleteFile p l = .ok d'') :
    d''.places = d.places := by
  ext x
  rw [mem_places, mem_places, h.entry?_deleted hdelete]

/-- Once the new file is renamed, no place but the target is new. -/
theorem places_renamed {source : HostPath} (h : NewFile d d' l bytes)
    (hrename : d'.renameFile source l target = .ok d'') :
    ∃ place, d.locate target = .ok place ∧ d''.places = insert place d.places := by
  obtain ⟨-, -, place, hplace, rfl⟩ := renameFile_eq_ok.1 hrename
  obtain ⟨hlocate, hnil, -⟩ := locate_of_renameTarget hplace
  exact ⟨place, h.locate_eq_ok hlocate,
    places_eq_insert (FileTree.entry?_move_self h.file hnil) fun _ => h.entry?_moved⟩

/-! ## Renaming beside a new file -/

theorem locate_eq_ok_iff (h : NewFile d d' l bytes) :
    d'.locate p = .ok place ↔ d.locate p = .ok place := by
  refine ⟨h.locate_eq_ok, fun hplace => ?_⟩
  rcases h.locate p with hsame | ⟨r, -, hr, -⟩
  · exact hsame.trans hplace
  · cases hr.symm.trans hplace

/-- A new file is no folder, and neither was what stood in its place. -/
theorem isFolder_eq (h : NewFile d d' l bytes) (x : Location) :
    d'.tree.isFolder x = d.tree.isFolder x := by
  by_cases hx : x = l
  · rw [FileTree.isFolder, FileTree.isFolder, hx, h.file, h.absent]
  · rw [FileTree.isFolder, FileTree.isFolder, h.others x hx]

/-- A new file changes nothing about where a renaming puts a file. -/
theorem renameTarget_iff (h : NewFile d d' l bytes) :
    d'.renameTarget p = .ok place ↔ d.renameTarget p = .ok place := by
  simp only [renameTarget_eq_ok, h.locate_eq_ok_iff, ← FileTree.isFolder_iff, h.isFolder_eq]

end NewFile

/-! ## Temporary files that stay -/

/-- The device takes a text, and the text has bytes. -/
def Fills (d : Disk) (points : List Nat) : Prop :=
  d.refusal? .fill = none ∧ ∃ bytes, Text.encodePoints points = .ok bytes

/-- A file can be renamed to a path. -/
def Renames (d : Disk) (target : HostPath) : Prop :=
  hasNull target = false ∧ d.refusal? .rename = none ∧ ∃ place, d.renameTarget target = .ok place

/-- Writing a text leaves its temporary file behind: there is one, and it can be filled but not
renamed, or it can be neither filled nor deleted. -/
def Strands (d : Disk) (target : HostPath) (points : List Nat) : Prop :=
  (∃ created, d.createFile (d.temporaryFile target) = .ok created) ∧
    (d.Fills points ∧ ¬ d.Renames target ∨ ¬ d.Fills points ∧ d.refusal? .delete ≠ none)

/-- No file can be renamed to a folder. -/
theorem not_renames_of_isFolder (h : d.locate target = .ok l) (hfolder : d.tree.isFolder l = true) :
    ¬ d.Renames target := by
  rintro ⟨-, -, place, hplace⟩
  obtain ⟨hlocate, -, hne⟩ := locate_of_renameTarget hplace
  cases h.symm.trans hlocate
  exact hne (FileTree.isFolder_iff.1 hfolder)

/-- How writing a text ends. -/
inductive Ended (d : Disk) (target : HostPath) (points : List Nat) :
    Disk × Except Failure Unit → Prop
  | replaced {d' : Disk} {place : Location} (strands : ¬ d.Strands target points)
      (located : d.locate target = .ok place) (places : d'.places = insert place d.places) :
      Ended d target points (d', .ok ())
  | spared {d' : Disk} {failure : Failure} (strands : ¬ d.Strands target points)
      (places : d'.places = d.places) : Ended d target points (d', .error failure)
  | stranded {d' : Disk} {failure : Failure} {l : Location} (strands : d.Strands target points)
      (absent : l ∉ d.places) (located : d.locate (d.temporaryFile target) = .ok l)
      (elsewhere : d.HomeStands → d.locate target ≠ .ok l)
      (places : d'.places = insert l d.places) : Ended d target points (d', .error failure)

theorem writeText_ended (d : Disk) (target : HostPath) (points : List Nat) :
    Ended d target points (d.writeText target points) := by
  unfold writeText
  dsimp only
  split
  · rename_i fault hcreate
    refine .spared ?_ rfl
    rintro ⟨⟨created, hcreated⟩, -⟩
    cases hcreate.symm.trans hcreated
  · rename_i created l hcreate
    obtain ⟨hnew, folder, n, hl⟩ := exists_newFile hcreate
    have hstarts : ∃ created, d.createFile (d.temporaryFile target) = .ok created := ⟨_, hcreate⟩
    have helsewhere : d.HomeStands → d.locate target ≠ .ok l := fun hd =>
      locate_ne_temporary hd hl hnew.absent
    obtain ⟨-, -, hlocate, -, hcreated⟩ := createFile_eq_ok.1 hcreate
    have hrefusal : created.refusal? = d.refusal? := by rw [hcreated]
    split
    · rename_i failure hfill
      have hfills : ¬ d.Fills points := by
        rintro ⟨htakes, bytes, hbytes⟩
        cases hfill.symm.trans (fillText_eq_ok.2 ⟨hrefusal ▸ htakes, bytes, hbytes, rfl⟩)
      split
      · rename_i fault hdelete
        refine .stranded ⟨hstarts, .inr ⟨hfills, fun hnone => ?_⟩⟩ hnew.not_mem_places hlocate
          helsewhere hnew.places
        cases hdelete.symm.trans (deleteFile_eq_ok.2 ⟨hrefusal ▸ hnone, rfl⟩)
      · rename_i deleted hdelete
        refine .spared ?_ (hnew.places_deleted hdelete)
        rintro ⟨-, ⟨hfilled, -⟩ | ⟨-, hdeletes⟩⟩
        · exact hfills hfilled
        · exact hdeletes (hrefusal ▸ (deleteFile_eq_ok.1 hdelete).1)
    · rename_i filled hfill
      obtain ⟨bytes, hbytes, hnewFilled⟩ := hnew.fill hfill
      obtain ⟨htakes, _, _, hfilled⟩ := fillText_eq_ok.1 hfill
      have hfills : d.Fills points := ⟨hrefusal ▸ htakes, bytes, hbytes⟩
      have hrefusalFilled : filled.refusal? = d.refusal? := by rw [hfilled, hrefusal]
      split
      · rename_i fault hrename
        refine .stranded ⟨hstarts, .inl ⟨hfills, ?_⟩⟩ hnew.not_mem_places hlocate helsewhere
          hnewFilled.places
        rintro ⟨hnull, hrenames, place, hplace⟩
        cases hrename.symm.trans (renameFile_eq_ok.2
          ⟨hnull, hrefusalFilled ▸ hrenames, place, hnewFilled.renameTarget_iff.2 hplace, rfl⟩)
      · rename_i renamed hrename
        obtain ⟨place, hplace, hplaces⟩ := hnewFilled.places_renamed hrename
        refine .replaced ?_ hplace hplaces
        rintro ⟨-, ⟨-, hrenames⟩ | ⟨hunfilled, -⟩⟩
        · obtain ⟨hnull, htakes, place, htarget, -⟩ := renameFile_eq_ok.1 hrename
          exact hrenames ⟨hnull, hrefusalFilled ▸ htakes, place,
            hnewFilled.renameTarget_iff.1 htarget⟩
        · exact hunfilled hfills

/-- After a text has been written, or has not, all that stood stands. Nothing is new but the target,
unless a temporary file stays; and one stays exactly where it could be filled but not renamed, or
neither filled nor deleted. Then writing has failed, and the temporary file is all that is new. -/
theorem places_writeText (hd : d.HomeStands) {result : Except Failure Unit}
    (h : d.writeText target points = (d', result)) :
    d.places ⊆ d'.places ∧
      ((∀ l ∈ d'.places, l ∈ d.places ∨ d.locate target = .ok l) ↔ ¬ d.Strands target points) ∧
      (result = .ok () →
        ∃ place, d.locate target = .ok place ∧ d'.places = insert place d.places) ∧
      ((∃ failure, result = .error failure) → ¬ d.Strands target points →
        d'.places = d.places) ∧
      (d.Strands target points → (∃ failure, result = .error failure) ∧
        ∃ l, l ∉ d.places ∧ d.locate (d.temporaryFile target) = .ok l ∧
          d'.places = insert l d.places) := by
  have hended := writeText_ended d target points
  rw [h] at hended
  cases hended with
  | @replaced _ place strands located places =>
    refine ⟨places ▸ Set.subset_insert _ _, iff_of_true (fun l hl => ?_) strands,
      fun _ => ⟨place, located, places⟩, ?_, fun hstrands => absurd hstrands strands⟩
    · rw [places, Set.mem_insert_iff] at hl
      rcases hl with rfl | hl
      · exact .inr located
      · exact .inl hl
    · rintro ⟨failure, hfailure⟩
      cases hfailure
  | spared strands places =>
    exact ⟨places.ge, iff_of_true (fun l hl => .inl (places ▸ hl)) strands, nofun,
      fun _ _ => places, fun hstrands => absurd hstrands strands⟩
  | @stranded _ failure l strands absent located elsewhere places =>
    refine ⟨places ▸ Set.subset_insert _ _, iff_of_false (fun hall => ?_) (not_not_intro strands),
      nofun, fun _ hstrands => absurd strands hstrands,
      fun _ => ⟨⟨failure, rfl⟩, l, absent, located, places⟩⟩
    rcases hall l (places ▸ Set.mem_insert _ _) with hl | hl
    · exact absent hl
    · exact elsewhere hd hl

/-- A disk with a folder that is not the current one. -/
def folderDisk : Disk where
  tree := ⟨[(["Work"], .folder), (["Work", "out"], .folder)]⟩
  home := ["Work"]

/-- The path of the folder. -/
def folderTarget : HostPath := ⟨.relative, ["out"]⟩

theorem homeStands_folderDisk : folderDisk.HomeStands := by decide

theorem strands_folderTarget : folderDisk.Strands folderTarget [] := by
  have hfolder : folderDisk.locate folderTarget = .ok ["Work", "out"] := by decide
  have hcreate : folderDisk.createFile (folderDisk.temporaryFile folderTarget) =
      .ok ({ folderDisk with tree := folderDisk.tree.set ["Work", ".out.aaaaaaaa.tmp"] (.file []) },
        ["Work", ".out.aaaaaaaa.tmp"]) :=
    createFile_eq_ok.2 ⟨by decide, rfl, by decide, by decide, rfl⟩
  have hbytes : Text.encodePoints [] = .ok [] := by decide +kernel
  exact ⟨⟨_, hcreate⟩, .inl ⟨⟨rfl, [], hbytes⟩,
    not_renames_of_isFolder hfolder (by decide)⟩⟩

/-- In place of a folder an empty text is not written, and only its temporary file is new; beside
the folder it is, and only the target is new. -/
theorem places_writeText_folder :
    folderDisk.HomeStands ∧
      (∃ d' failure, folderDisk.writeText folderTarget [] = (d', .error failure) ∧
        ∃ l, l ∉ folderDisk.places ∧ d'.places = insert l folderDisk.places) ∧
      ∃ d', folderDisk.writeText ⟨.relative, ["Makefile"]⟩ [] = (d', .ok ()) ∧
        d'.places = insert ["Work", "Makefile"] folderDisk.places := by
  refine ⟨homeStands_folderDisk, ?_, ?_⟩
  · obtain ⟨-, -, -, -, hstranded⟩ :=
      @places_writeText _ _ folderTarget [] homeStands_folderDisk _ rfl
    obtain ⟨⟨failure, hfailure⟩, l, habsent, -, hplaces⟩ := hstranded strands_folderTarget
    exact ⟨_, failure, Prod.ext rfl hfailure, l, habsent, hplaces⟩
  · have hdone : (folderDisk.writeText ⟨.relative, ["Makefile"]⟩ []).2 = .ok () := by
      decide
    obtain ⟨-, -, hreplaced, -⟩ := @places_writeText _ _ ⟨.relative, ["Makefile"]⟩ []
      homeStands_folderDisk _ rfl
    obtain ⟨place, hplace, hplaces⟩ := hreplaced hdone
    have hlocate : folderDisk.locate ⟨.relative, ["Makefile"]⟩ = .ok ["Work", "Makefile"] := by
      decide
    cases hlocate.symm.trans hplace
    exact ⟨_, Prod.ext rfl hdone, hplaces⟩

/-- The temporary file for a folder stays. -/
theorem temporary_left_behind :
    ∃ d' failure, folderDisk.writeText folderTarget [] = (d', .error failure) ∧
      ["Work", ".out.aaaaaaaa.tmp"] ∈ d'.places ∧
      ["Work", ".out.aaaaaaaa.tmp"] ∉ folderDisk.places ∧
      folderDisk.locate folderTarget ≠ .ok ["Work", ".out.aaaaaaaa.tmp"] := by
  have hfailure : (folderDisk.writeText folderTarget []).2 =
      .error (.disk (.system .isDirectory "/Work/.out.aaaaaaaa.tmp" (some "out"))) := by
    decide
  have hstays : ((folderDisk.writeText folderTarget []).1.tree.entry?
      ["Work", ".out.aaaaaaaa.tmp"]).isSome = true := by
    decide
  have habsent : (folderDisk.tree.entry? ["Work", ".out.aaaaaaaa.tmp"]).isSome = false := by
    decide
  exact ⟨_, _, Prod.ext rfl hfailure, hstays, by simp [places, habsent], by decide⟩

end Disk

end SolutionScript.FileSystem
