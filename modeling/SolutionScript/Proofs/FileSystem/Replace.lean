import SolutionScript.Output
import SolutionScript.Proofs.Fallible
import SolutionScript.Proofs.FileSystem.Walk

/-!
# Replacing files

Writing a text in place of a file, step by step: a temporary file comes where
nothing stood and where the target is not (`exists_newFile`), it is filled
(`NewFile.fill`) and renamed (`NewFile.rename`). Whatever step fails, all that
stood before stands (`NewFile.spares`, `NewFile.spares_deleted`); if none fails,
the target has the bytes of the text and nothing else has changed
(`writeText_cases`).
-/

namespace SolutionScript.FileSystem.Disk

open Fallible

variable {d d' d'' : Disk} {p target : HostPath} {l : Location} {bytes : List UInt8}

/-! ## Steps -/

/-- A file is made where a path leads and nothing stands. -/
theorem createFile_eq_ok :
    d.createFile p = .ok (d', l) ↔
      hasNull p = false ∧ d.refusal? .create = none ∧ d.locate p = .ok l ∧
        d.tree.entry? l = none ∧ d' = { d with tree := d.tree.set l (.file []) } := by
  unfold createFile
  dsimp only
  cases hasNull p with
  | true => simp
  | false =>
    cases d.locate p with
    | error reason => simp
    | ok place =>
      cases d.refusal? .create with
      | some reason => simp
      | none =>
        simp only [Bool.false_eq_true, if_false, ite_error_eq_ok, Option.not_isSome_iff_eq_none,
          Except.ok.injEq, Prod.mk.injEq, true_and]
        constructor
        · rintro ⟨hnone, rfl, rfl⟩
          exact ⟨rfl, hnone, rfl⟩
        · rintro ⟨rfl, hnone, rfl⟩
          exact ⟨hnone, rfl, rfl⟩

/-- A text is filled into a file if it has bytes and the device takes them. -/
theorem fillText_eq_ok {points : List Nat} :
    d.fillText l points = .ok d' ↔
      d.refusal? .fill = none ∧ ∃ bytes, Text.encodePoints points = .ok bytes ∧
        d' = { d with tree := d.tree.set l (.file bytes) } := by
  unfold fillText fillFile
  cases Text.encodePoints points with
  | error fault => simp
  | ok bytes => cases d.refusal? .fill <;> simp [eq_comm]

theorem deleteFile_eq_ok :
    d.deleteFile p l = .ok d' ↔
      d.refusal? .delete = none ∧ d' = { d with tree := d.tree.erase l } := by
  unfold deleteFile
  cases d.refusal? .delete <;> simp [eq_comm]

/-- Where a renaming puts a file: below the folder that the path is in, unless a folder stands
there. -/
theorem renameTarget_eq_ok :
    d.renameTarget p = .ok l ↔
      Text.byteLength p.render ≤ pathLimit ∧ p.names ≠ [] ∧ p.name ≠ ".." ∧
        Text.byteLength p.name ≤ nameLimit ∧
        ∃ folder, d.locate p.parent = .ok folder ∧ d.tree.entry? folder = some .folder ∧
          d.tree.isFolder (folder ++ [p.name]) = false ∧ l = folder ++ [p.name] := by
  unfold renameTarget
  cases d.locate p.parent with
  | error reason => simp
  | ok folder =>
    simp only [ite_error_eq_ok, Except.ok.injEq, exists_eq_left']
    cases d.tree.entry? folder with
    | none => simp
    | some e =>
      cases e with
      | file bytes => simp
      | folder =>
        simp only [ite_error_eq_ok, Except.ok.injEq, Bool.or_eq_true, List.isEmpty_iff,
          decide_eq_true_eq, not_or, Bool.not_eq_true, Nat.not_lt, gt_iff_lt, ne_eq, true_and,
          and_assoc]
        rw [@eq_comm _ l]

/-- What it takes to rename a file. -/
theorem renameFile_eq_ok {source : HostPath} :
    d.renameFile source l target = .ok d' ↔
      hasNull target = false ∧ d.refusal? .rename = none ∧
        ∃ l', d.renameTarget target = .ok l' ∧ d' = { d with tree := d.tree.move l l' } := by
  unfold renameFile
  dsimp only
  cases hasNull target with
  | true => simp
  | false =>
    cases d.renameTarget target with
    | error reason => simp
    | ok l' => cases d.refusal? .rename <;> simp [eq_comm]

/-- A file is renamed to where the path leads, and no folder stands there. -/
theorem locate_of_renameTarget (h : d.renameTarget p = .ok l) :
    d.locate p = .ok l ∧ l ≠ [] ∧ d.tree.entry? l ≠ some .folder := by
  obtain ⟨hlong, hnil, hdots, hbytes, folder, hparent, hfolder, hisFolder, rfl⟩ :=
    renameTarget_eq_ok.1 h
  have hnames : p.names = p.parent.names ++ [p.name] := by
    rw [HostPath.parent, HostPath.name, List.getLast?_eq_some_getLast hnil]
    exact (List.dropLast_concat_getLast hnil).symm
  obtain ⟨-, hfollow⟩ := locate_eq_ok.1 hparent
  refine ⟨locate_eq_ok.2 ⟨hlong, ?_⟩, by simp, fun hentry => ?_⟩
  · rw [hnames, follow_concat_eq_ok]
    refine ⟨folder, hfollow, hfolder, hbytes, ?_⟩
    rw [HostPath.stepTo, if_neg hdots]
  · rw [FileTree.isFolder, hentry] at hisFolder
    cases hisFolder

/-! ## What is left behind -/

/-- All that stood on the disk stands as it was, and at the target there is what was there. -/
structure Spares (d d' : Disk) (target : HostPath) : Prop where
  kept : ∀ l e, d.tree.entry? l = some e → d'.tree.entry? l = some e
  target : d'.look target = d.look target

/-- The target is a file with the given bytes, and at every other place there is what was
there. -/
structure Replaces (d d' : Disk) (target : HostPath) (bytes : List UInt8) : Prop where
  kept : ∀ l, d.locate target ≠ .ok l → d'.tree.entry? l = d.tree.entry? l
  target : d'.read target = .ok bytes

theorem Spares.refl (d : Disk) (target : HostPath) : Spares d d target :=
  ⟨fun _ _ h => h, rfl⟩

/-- The second disk has one file more than the first. -/
structure NewFile (d d' : Disk) (l : Location) (bytes : List UInt8) : Prop where
  home : d'.home = d.home
  absent : d.tree.entry? l = none
  file : d'.tree.entry? l = some (.file bytes)
  others : ∀ x, x ≠ l → d'.tree.entry? x = d.tree.entry? x

namespace NewFile

theorem ne_nil (h : NewFile d d' l bytes) : l ≠ [] := by
  rintro rfl
  cases h.absent

theorem kept (h : NewFile d d' l bytes) {x : Location} {e : Entry} (hx : d.tree.entry? x = some e) :
    d'.tree.entry? x = some e := by
  have hne : x ≠ l := by
    rintro rfl
    rw [h.absent] at hx
    cases hx
  exact (h.others x hne).trans hx

/-- A new file moves no path: each leads where it led, or to nothing before and after. -/
theorem locate (h : NewFile d d' l bytes) (target : HostPath) :
    d'.locate target = d.locate target ∨
      ∃ r r' : Reason, d.locate target = .error r ∧ d'.locate target = .error r' ∧
        r.meansAbsent = true ∧ r'.meansAbsent = true := by
  rw [Disk.locate, Disk.locate, h.home]
  split
  · exact .inl rfl
  · exact follow_newFile h.absent h.file h.others

theorem locate_eq_ok (h : NewFile d d' l bytes) {l' : Location} (hl' : d'.locate target = .ok l') :
    d.locate target = .ok l' := by
  rcases h.locate target with hsame | ⟨r, r', -, hr', -⟩
  · exact hsame.symm.trans hl'
  · cases hr'.symm.trans hl'

/-- A new file elsewhere changes nothing about the target. -/
theorem spares (h : NewFile d d' l bytes) (htarget : d.locate target ≠ .ok l) :
    Spares d d' target := by
  refine ⟨fun _ _ => h.kept, ?_⟩
  rw [look, look]
  split
  · rfl
  rcases h.locate target with hsame | ⟨r, r', hr, hr', habsent, habsent'⟩
  · rw [hsame]
    cases hplace : d.locate target with
    | error reason => rfl
    | ok place =>
      have hne : place ≠ l := by
        rintro rfl
        exact htarget hplace
      simp only [h.others place hne]
  · rw [hr, hr']
    simp only [habsent, habsent', if_true]

/-- Once the new file is deleted, there is everywhere what was there. -/
theorem entry?_deleted {p : HostPath} (h : NewFile d d' l bytes)
    (hdelete : d'.deleteFile p l = .ok d'') (x : Location) :
    d''.tree.entry? x = d.tree.entry? x := by
  obtain ⟨-, rfl⟩ := deleteFile_eq_ok.1 hdelete
  by_cases hx : x = l
  · rw [hx, FileTree.entry?_erase_self _ h.ne_nil, h.absent]
  · rw [FileTree.entry?_erase_of_ne _ hx, h.others x hx]

/-- Once the new file is deleted, all is as before. -/
theorem spares_deleted {p : HostPath} (h : NewFile d d' l bytes)
    (hdelete : d'.deleteFile p l = .ok d'') (target : HostPath) : Spares d d'' target := by
  have hsame := h.entry?_deleted hdelete
  have hhome : d''.home = d.home := by
    obtain ⟨-, rfl⟩ := deleteFile_eq_ok.1 hdelete
    exact h.home
  have hlocate : d''.locate target = d.locate target := by
    rw [Disk.locate, Disk.locate, follow_congr hsame, hhome]
  refine ⟨fun x e hx => (hsame x).trans hx, ?_⟩
  rw [look, look, hlocate]
  simp only [hsame]

/-- Once the new file is moved, there is everywhere else what was there. -/
theorem entry?_moved (h : NewFile d d' l bytes) {l' x : Location} (hx : x ≠ l') :
    FileTree.entry? (d'.tree.move l l') x = d.tree.entry? x := by
  by_cases hxl : x = l
  · rw [hxl] at hx ⊢
    exact (FileTree.entry?_move_source h.file h.ne_nil hx).trans h.absent.symm
  · exact (FileTree.entry?_move_of_ne _ hxl hx).trans (h.others x hxl)

end NewFile

/-! ## The temporary file -/

theorem length_tagChars (k n : Nat) : (tagChars k n).length = k := by
  induction k generalizing n with
  | zero => rfl
  | succ k ih => rw [tagChars, List.length_cons, ih]

/-- A temporary name is longer than the name that it is for. -/
theorem length_temporaryName (name : String) (n : Nat) :
    (temporaryName name n).length = name.length + 14 := by
  have hdot : ".".length = 1 := rfl
  have hend : ".tmp".length = 4 := rfl
  simp only [temporaryName, String.length_append, String.length_ofList, List.length_reverse,
    length_tagChars, hdot, hend]
  omega

theorem temporaryName_ne (name : String) (n : Nat) : temporaryName name n ≠ name := by
  intro h
  have hlength := congrArg String.length h
  rw [length_temporaryName] at hlength
  omega

theorem temporaryName_ne_parent (name : String) (n : Nat) : temporaryName name n ≠ ".." := by
  intro h
  have hlength := congrArg String.length h
  have htwo : "..".length = 2 := rfl
  rw [length_temporaryName, htwo] at hlength
  omega

/-- A temporary file is new, and bears a temporary name. -/
theorem exists_newFile (h : d.createFile (d.temporaryFile target) = .ok (d', l)) :
    NewFile d d' l [] ∧ ∃ folder n, l = folder ++ [temporaryName target.name n] := by
  obtain ⟨-, -, hplace, hnone, rfl⟩ := createFile_eq_ok.1 h
  obtain ⟨-, hplace⟩ := locate_eq_ok.1 hplace
  have hnames : ∃ n, (d.temporaryFile target).names =
      (d.temporaryFolder target).names ++ [temporaryName target.name n] := ⟨_, rfl⟩
  obtain ⟨n, hnames⟩ := hnames
  rw [hnames, follow_concat_eq_ok] at hplace
  obtain ⟨folder, -, -, -, hl⟩ := hplace
  rw [HostPath.stepTo, if_neg (temporaryName_ne_parent target.name n)] at hl
  have hnil : l ≠ [] := by simp [hl]
  refine ⟨⟨rfl, hnone, FileTree.entry?_set_self _ _ hnil, fun x hx => ?_⟩, folder, n, hl⟩
  exact FileTree.entry?_set_of_ne _ _ hx

/-- The target is never the place of its own temporary file. -/
theorem locate_ne_temporary (hd : d.HomeStands) {folder : Location} {n : Nat}
    (hl : l = folder ++ [temporaryName target.name n]) (hnone : d.tree.entry? l = none) :
    d.locate target ≠ .ok l := by
  intro htarget
  rcases hd.locate_cases htarget with
    ⟨-, hstart⟩ | ⟨names, name, parent, hnames, hreached, -, hstep⟩
  · -- the target is the folder where paths start
    rw [hstart, hd.entry?_startOf] at hnone
    cases hnone
  · rw [HostPath.stepTo] at hstep
    split at hstep
    · -- the target is the parent of a folder
      rw [hstep, hreached.entry?_dropLast] at hnone
      cases hnone
    · have hname : target.name = name := by simp [HostPath.name, hnames]
      have hlast := congrArg List.getLast? (hl.symm.trans hstep)
      rw [List.getLast?_concat, List.getLast?_concat, Option.some.injEq] at hlast
      exact temporaryName_ne _ _ (hlast.trans hname.symm)

/-! ## Filling and renaming -/

/-- A new file that has been filled is a new file with the bytes of the text. -/
theorem NewFile.fill {points : List Nat} (h : NewFile d d' l bytes)
    (hfill : d'.fillText l points = .ok d'') :
    ∃ bytes, Text.encodePoints points = .ok bytes ∧ NewFile d d'' l bytes := by
  obtain ⟨-, bytes, hbytes, rfl⟩ := fillText_eq_ok.1 hfill
  refine ⟨bytes, hbytes, h.home, h.absent, FileTree.entry?_set_self _ _ h.ne_nil, fun x hx => ?_⟩
  exact (FileTree.entry?_set_of_ne _ _ hx).trans (h.others x hx)

/-- A new file that is renamed to the target replaces it. -/
theorem NewFile.rename {source : HostPath} (h : NewFile d d' l bytes)
    (hrename : d'.renameFile source l target = .ok d'') : Replaces d d'' target bytes := by
  obtain ⟨hnull, -, l', hl', rfl⟩ := renameFile_eq_ok.1 hrename
  obtain ⟨hlocate, hnil, hfolder⟩ := locate_of_renameTarget hl'
  constructor
  · intro x hx
    refine h.entry?_moved ?_
    rintro rfl
    exact hx (h.locate_eq_ok hlocate)
  · -- neither place that the renaming touches was a folder, so the target is found as before
    have hfolders : ∀ x, d'.tree.entry? x = some .folder →
        FileTree.entry? (d'.tree.move l l') x = some .folder := by
      intro x hx
      have hxl : x ≠ l := by
        rintro rfl
        cases h.file.symm.trans hx
      have hxl' : x ≠ l' := by
        rintro rfl
        exact hfolder hx
      rw [FileTree.entry?_move_of_ne _ hxl hxl', hx]
    obtain ⟨hlong, hfollow⟩ := Disk.locate_eq_ok.1 hlocate
    have hlocate' : ({ d' with tree := d'.tree.move l l' } : Disk).locate target = .ok l' :=
      Disk.locate_eq_ok.2 ⟨hlong, follow_of_folders hfolders hfollow⟩
    have hentry : ({ d' with tree := d'.tree.move l l' } : Disk).tree.entry? l' =
        some (.file bytes) := FileTree.entry?_move_self h.file hnil
    simp only [read, hnull, hlocate', hentry]
    rfl

/-! ## Writing a text -/

/-- Writing a text either fails and spares the disk, or replaces the target by the bytes
of the text. -/
theorem writeText_cases (hd : d.HomeStands) (target : HostPath) (points : List Nat) :
    (∃ d' failure, d.writeText target points = (d', .error failure) ∧ Spares d d' target) ∨
      ∃ d' bytes, d.writeText target points = (d', .ok ()) ∧
        Text.encodePoints points = .ok bytes ∧ Replaces d d' target bytes := by
  unfold writeText
  dsimp only
  split
  · exact .inl ⟨d, _, rfl, .refl d target⟩
  · rename_i created l hcreate
    obtain ⟨hnew, folder, n, hl⟩ := exists_newFile hcreate
    have helsewhere := locate_ne_temporary hd hl hnew.absent
    split
    · split
      · exact .inl ⟨created, _, rfl, hnew.spares helsewhere⟩
      · rename_i deleted hdelete
        exact .inl ⟨deleted, _, rfl, hnew.spares_deleted hdelete target⟩
    · rename_i filled hfill
      obtain ⟨bytes, hbytes, hfilled⟩ := hnew.fill hfill
      split
      · exact .inl ⟨filled, _, rfl, hfilled.spares helsewhere⟩
      · rename_i renamed hrename
        exact .inr ⟨renamed, bytes, rfl, hbytes, hfilled.rename hrename⟩

end SolutionScript.FileSystem.Disk
