import Mathlib.Data.List.Basic
import Mathlib.Data.Prod.Basic
import SolutionScript.Proofs.Text.Over
import SolutionScript.Proofs.Text.Span
import SolutionScript.Solution.DescriptorPath

/-!
# Joining descriptor paths

How a path that goes down to a name is taken apart and put together: the folder of
a file in it (`InFolder.directory_eq`), and what relative paths are, seen from it
(`joinAll_of_endsInName`). Neither is as simple for a path that is only a drive,
or that ends with a separator.
-/

namespace SolutionScript

namespace Text

/-- No run has the backslash as an image. -/
theorem image?_upperRuns_ne {run : CaseRun} (hrun : run ∈ upperRuns) (n : ℕ) :
    run.image? n ≠ some 92 := by
  have htable : ∀ run ∈ upperRuns.toList, run.image? (92 - run.offset).toNat ≠ some 92 := by
    decide +kernel
  intro h
  have himage : (Int.ofNat n + run.offset).toNat = 92 := by
    rw [CaseRun.image?] at h
    split at h
    · exact Option.some.inj h
    · cases h
  have hsource : n = (92 - run.offset).toNat := by
    simp only [Int.ofNat_eq_natCast] at himage
    omega
  exact htable run (Array.mem_toList_iff.2 hrun) (hsource ▸ h)

/-- No character but the backslash itself has a backslash in upper case. -/
theorem eq_of_mem_upperChar {c : Char} (h : '\\' ∈ upperChar c) : c = '\\' := by
  have hascii : ∀ n < 128, (Char.ofNat n).toUpper = '\\' → Char.ofNat n = '\\' := by decide
  have hexpansions : ∀ e ∈ upperExpansions.toList, '\\' ∉ e.2.map Char.ofNat := by decide
  rw [upperChar] at h
  split at h
  · rename_i hlt
    have hupper := hascii c.toNat hlt
    rw [Char.ofNat_toNat] at hupper
    exact hupper (List.mem_singleton.1 h).symm
  · rw [mapCase] at h
    split at h
    · rename_i e image hfind
      exact absurd h (hexpansions _ (Array.mem_toList_iff.2 (Array.mem_of_find?_eq_some hfind)))
    · split at h
      · rename_i n hfind
        obtain ⟨run, hrun, himage⟩ := Array.exists_of_findSome?_eq_some hfind
        have hn := congrArg Char.toNat (List.mem_singleton.1 h)
        have hvalue : (Char.ofNat n).toNat = n ∨ (Char.ofNat n).toNat = 0 := by
          by_cases hvalid : n.isValidChar
          · exact .inl (congrArg Char.toNat (dif_pos hvalid))
          · exact .inr (congrArg Char.toNat (dif_neg hvalid))
        obtain rfl : n = 92 := by
          rcases hvalue with hvalue | hvalue
          · exact hvalue.symm.trans hn.symm
          · exact absurd (hn.trans hvalue) (by decide)
        exact absurd himage (image?_upperRuns_ne hrun _)
      · exact (List.mem_singleton.1 h).symm

theorem count_upperList (cs : List Char) : (upperList cs).count '\\' = cs.count '\\' := by
  induction cs with
  | nil => rfl
  | cons c cs ih =>
    rw [upperList] at ih
    rw [upperList, List.flatMap_cons, List.count_append, ih, List.count_cons, Nat.add_comm]
    congr 1
    by_cases hc : c = '\\'
    · subst hc
      decide
    · rw [List.count_eq_zero_of_not_mem fun h => hc (eq_of_mem_upperChar h)]
      simp [hc]

theorem count_replaceList (cs : List Char) :
    (replaceList '/' '\\' cs).count '\\' = cs.countP DescriptorPath.isSeparator := by
  induction cs with
  | nil => rfl
  | cons c cs ih =>
    rw [List.countP_cons, ← ih, replaceList, List.map_cons, List.count_cons, replaceList]
    by_cases hslash : c = '/' <;> by_cases hback : c = '\\' <;>
      simp [hslash, hback, DescriptorPath.isSeparator]

end Text

namespace DescriptorPath

open Text

variable {cs rest before : List Char} {start : ℕ} {c : Char}

/-- A path starts with a network drive and goes on below it. -/
def IsShare (start : ℕ) (drive below : List Char) : Prop :=
  ∃ before host share c c', drive = before ++ host ++ c :: share ∧ below.head? = some c' ∧
    before.length = start ∧ isSeparator c = true ∧ isSeparator c' = true ∧
    (∀ c ∈ host, isSeparator c = false) ∧ ∀ c ∈ share, isSeparator c = false

theorem not_isSeparator_takeWhile (cs : List Char) :
    ∀ c ∈ cs.takeWhile (!isSeparator ·), isSeparator c = false := by
  intro c hc
  simpa using List.mem_takeWhile_imp hc

/-- The last name of a path has no separators. -/
theorem not_isSeparator_fileName (s : String) : Over (isSeparator · = false) (fileName s) := by
  rw [fileName, split, over_ofList]
  intro c hc
  exact not_isSeparator_takeWhile _ c (List.mem_reverse.1 hc)

theorem not_isSeparator_stem (s : String) : Over (isSeparator · = false) (stem s) := by
  have hname := not_isSeparator_fileName s
  rw [stem, splitExtension]
  split
  · exact over_ofList.2 fun c hc => hname c (List.mem_of_mem_take hc)
  · exact hname

/-- What is not all names starts with a name, up to a separator. -/
theorem eq_of_takeWhile_lt (h : (cs.takeWhile (!isSeparator ·)).length < cs.length) :
    ∃ c more, isSeparator c = true ∧ cs = cs.takeWhile (!isSeparator ·) ++ c :: more := by
  have hsplit := List.takeWhile_append_dropWhile (p := (!isSeparator ·)) (l := cs)
  have hstop := stopsAt_dropWhile (!isSeparator ·) cs
  cases hdrop : cs.dropWhile (!isSeparator ·) with
  | nil =>
    rw [hdrop, List.append_nil] at hsplit
    rw [hsplit] at h
    exact absurd h (lt_irrefl _)
  | cons c more =>
    rw [hdrop] at hsplit hstop
    exact ⟨c, more, by simpa using hstop, hsplit.symm⟩

theorem takeWhile_name {name : List Char} (hname : ∀ c ∈ name, isSeparator c = false)
    (hc : isSeparator c = true) (rest : List Char) :
    (name ++ c :: rest).takeWhile (!isSeparator ·) = name :=
  takeWhile_run (by simpa using hname) (by simp [hc])

/-- Where a network drive is only part of a path, both of its names are there. -/
theorem exists_isShare (h : shareLength start cs < cs.length) :
    ∃ drive below, cs = drive ++ below ∧ IsShare start drive below := by
  dsimp only [shareLength] at h
  split at h
  · obtain ⟨c, more, hc, hdrop⟩ := @eq_of_takeWhile_lt (cs.drop start) (by
      rw [List.length_drop]
      omega)
    have hhost := not_isSeparator_takeWhile (cs.drop start)
    generalize (cs.drop start).takeWhile (!isSeparator ·) = host at *
    have hmore : cs.drop (start + host.length + 1) = more := by
      rw [Nat.add_assoc, ← List.drop_drop, hdrop]
      simp
    rw [hmore] at h
    obtain ⟨c', below, hc', hbelow⟩ := @eq_of_takeWhile_lt more (by
      have hlen := congrArg List.length hmore
      rw [List.length_drop] at hlen
      omega)
    have hshare := not_isSeparator_takeWhile more
    generalize more.takeWhile (!isSeparator ·) = share at *
    refine ⟨cs.take start ++ host ++ c :: share, c' :: below, ?_, cs.take start, host, share, c, c',
      rfl, rfl, ?_, hc, hc', hhost, hshare⟩
    · calc cs = cs.take start ++ cs.drop start := (List.take_append_drop start cs).symm
        _ = cs.take start ++ host ++ c :: share ++ c' :: below := by simp [hdrop, hbelow]
    · rw [List.length_take]
      omega
  · exact absurd h (lt_irrefl _)

theorem IsShare.shareLength_eq {drive below : List Char} (h : IsShare start drive below) :
    shareLength start (drive ++ below) = drive.length := by
  obtain ⟨before, host, share, c, c', rfl, hbelow, rfl, hc, hc', hhost, hshare⟩ := h
  obtain ⟨below, rfl⟩ : ∃ more, below = c' :: more := by
    cases below with
    | nil => cases hbelow
    | cons _ more => exact ⟨more, by cases hbelow; rfl⟩
  have hfirst : ((before ++ host ++ c :: share ++ c' :: below).drop before.length) =
      host ++ c :: (share ++ c' :: below) := by simp
  have hsecond : ((before ++ host ++ c :: share ++ c' :: below).drop
      (before.length + host.length + 1)) = share ++ c' :: below := by
    rw [Nat.add_assoc, ← List.drop_drop, hfirst]
    simp
  dsimp only [shareLength]
  rw [hfirst, takeWhile_name hhost hc, hsecond, takeWhile_name hshare hc', if_pos (by simp)]
  simp only [List.length_append, List.length_cons]
  omega

theorem IsShare.append {drive below : List Char} (h : IsShare start drive below)
    (rest : List Char) : IsShare start drive (below ++ rest) := by
  obtain ⟨before, host, share, c, c', rfl, hbelow, hlen, hc, hc', hhost, hshare⟩ := h
  exact ⟨before, host, share, c, c', rfl, by simp [hbelow], hlen, hc, hc', hhost, hshare⟩

/-- The start of a path says that its network drive is in the long form. -/
def IsLong (cs : List Char) : Prop := upperList (replaceList '/' '\\' (cs.take 8)) = longShareMark

instance (cs : List Char) : Decidable (IsLong cs) :=
  inferInstanceAs (Decidable (upperList _ = longShareMark))

theorem IsLong.countP (h : IsLong cs) : (cs.take 8).countP isSeparator = 4 := by
  have hcount := congrArg (List.count '\\') h
  rw [count_upperList, count_replaceList] at hcount
  exact hcount

theorem IsShare.countP {drive below : List Char} (h : IsShare start drive below)
    (hstart : ∀ c ∈ (drive ++ below).take start, isSeparator c = true) :
    start + 2 ≤ (drive ++ below).countP isSeparator := by
  obtain ⟨before, host, share, c, c', rfl, hbelow, rfl, hc, hc', -, -⟩ := h
  obtain ⟨more, rfl⟩ : ∃ more, below = c' :: more := by
    cases below with
    | nil => cases hbelow
    | cons _ more => exact ⟨more, by cases hbelow; rfl⟩
  have hbefore : before.countP isSeparator = before.length :=
    List.countP_eq_length.2 fun c hc => hstart c (by simp [hc])
  simp only [List.countP_append, List.countP_cons, hc, hc', hbefore, if_true]
  omega

theorem driveLength_eq {a b : Char} (ha : isSeparator a = true) (hb : isSeparator b = true)
    (cs : List Char) : driveLength (a :: b :: cs) =
      shareLength (if IsLong (a :: b :: cs) then 8 else 2) (a :: b :: cs) := by
  simp only [driveLength, ha, hb, Bool.and_self, if_true, IsLong]
  congr

theorem IsShare.start_le {drive below : List Char} (h : IsShare start drive below) :
    start ≤ drive.length := by
  obtain ⟨before, host, share, c, c', rfl, -, rfl, -⟩ := h
  simp only [List.length_append, List.length_cons]
  omega

/-- Whether a network drive is in the long form is settled where it is only part of the path. -/
theorem isLong_append {a b : Char} (ha : isSeparator a = true) (hb : isSeparator b = true)
    (h : driveLength (a :: b :: cs) < (a :: b :: cs).length) (hc : isSeparator c = true)
    (rest : List Char) : IsLong (a :: b :: cs ++ c :: rest) ↔ IsLong (a :: b :: cs) := by
  rcases Nat.lt_or_ge (a :: b :: cs).length 8 with hlt | hge
  · rw [driveLength_eq ha hb] at h
    obtain ⟨drive, below, heq, hshare⟩ := exists_isShare h
    have hshort : ¬ IsLong (a :: b :: cs) := fun hlong => by
      rw [if_pos hlong] at hshare
      have hlen := congrArg List.length heq
      have hstart := hshare.start_le
      rw [List.length_append] at hlen
      omega
    -- The mark has four separators, and the path has four before it goes on.
    refine iff_of_false (fun hlong => ?_) hshort
    rw [if_neg hshort] at hshare
    have hmore := hshare.countP (by simp [← heq, ha, hb])
    rw [← heq] at hmore
    have hcount := hlong.countP
    obtain ⟨n, hn⟩ := Nat.exists_eq_add_of_lt hlt
    rw [List.take_append, List.take_of_length_le hlt.le, List.countP_append,
      show 8 - (a :: b :: cs).length = n + 1 by omega, List.take_succ_cons,
      List.countP_cons_of_pos hc] at hcount
    omega
  · rw [IsLong, IsLong, List.take_append_of_le_length hge]

/-- A path whose drive is only part of it, and that ends with a name, has the same drive if it
goes on below that name. -/
theorem driveLength_append (h : driveLength cs < cs.length)
    (hlast : ∀ c ∈ cs.getLast?, isSeparator c = false) (hc : isSeparator c = true)
    (rest : List Char) : driveLength (cs ++ c :: rest) = driveLength cs := by
  match cs with
  | [] => simp at h
  | [a] =>
    have ha : isSeparator a = false := hlast a rfl
    have hcolon : c ≠ ':' := by
      rintro rfl
      revert hc
      decide
    simp [driveLength, ha, hcolon]
  | a :: b :: more =>
    by_cases hshare : isSeparator a = true ∧ isSeparator b = true
    · have hlong := isLong_append hshare.1 hshare.2 h hc rest
      rw [driveLength_eq hshare.1 hshare.2] at h
      rw [driveLength_eq hshare.1 hshare.2, List.cons_append, List.cons_append,
        driveLength_eq hshare.1 hshare.2, ← List.cons_append, ← List.cons_append]
      simp only [hlong]
      generalize (if IsLong (a :: b :: more) then 8 else 2) = start at *
      obtain ⟨drive, below, heq, hdrive⟩ := exists_isShare h
      rw [heq, List.append_assoc, (hdrive.append _).shareLength_eq, hdrive.shareLength_eq]
    · simp [driveLength, hshare]

/-! ## Paths that go down to a name -/

/-- Below its drive, a path goes down to a name. -/
structure EndsInName (cs : List Char) : Prop where
  below : driveLength cs < cs.length
  last : ∀ c ∈ cs.getLast?, isSeparator c = false

/-- A path starts neither with a drive nor with a separator. -/
structure Relative (cs : List Char) : Prop where
  driveless : driveLength cs = 0
  rootless : StopsAt isSeparator cs

namespace EndsInName

theorem splitDrive_append (h : EndsInName cs) (hc : isSeparator c = true) (rest : List Char) :
    splitDrive (cs ++ c :: rest) = ((splitDrive cs).1, (splitDrive cs).2 ++ c :: rest) := by
  rw [splitDrive, driveLength_append h.below h.last hc, List.take_append_of_le_length h.below.le,
    List.drop_append_of_le_length h.below.le, splitDrive]

theorem getLast?_splitDrive (h : EndsInName cs) :
    ∃ c, (splitDrive cs).2.getLast? = some c ∧ isSeparator c = false := by
  have hdrop : cs.drop (driveLength cs) ≠ [] := by
    simpa [List.drop_eq_nil_iff] using h.below
  refine ⟨_, List.getLast?_eq_some_getLast hdrop, h.last _ ?_⟩
  rw [List.getLast_drop]
  exact List.getLast?_eq_some_getLast _

end EndsInName

theorem splitDrive_relative (h : Relative cs) : splitDrive cs = ([], cs) := by
  rw [splitDrive, h.driveless, List.take_zero, List.drop_zero]

/-- A drive that is only part of a path ends with a colon, or a separator follows. -/
theorem splitDrive_boundary (h : driveLength cs < cs.length) :
    (∀ d ∈ (splitDrive cs).1.getLast?, d = ':') ∨
      ∃ c ∈ (splitDrive cs).2.head?, isSeparator c = true := by
  match cs with
  | [] => simp at h
  | [a] => exact .inl (by simp [splitDrive, driveLength])
  | a :: b :: more =>
    by_cases hshare : isSeparator a = true ∧ isSeparator b = true
    · right
      rw [splitDrive, driveLength_eq hshare.1 hshare.2] at *
      generalize (if IsLong (a :: b :: more) then 8 else 2) = start at *
      obtain ⟨drive, below, heq, hdrive⟩ := exists_isShare h
      rw [heq, hdrive.shareLength_eq, List.drop_left]
      obtain ⟨-, -, -, -, c, -, hbelow, -, -, hc, -⟩ := hdrive
      exact ⟨c, hbelow, hc⟩
    · left
      by_cases hcolon : b = ':'
      · subst hcolon
        simp [splitDrive, driveLength, show isSeparator ':' = false by decide]
      · simp [splitDrive, driveLength, hshare, hcolon]

/-- What goes on below the drive of a path goes on at its end. -/
theorem attachDrive_append (h : driveLength cs < cs.length) (rest : List Char) :
    attachDrive ((splitDrive cs).1, (splitDrive cs).2 ++ rest) = cs ++ rest := by
  have hsplit : (splitDrive cs).1 ++ (splitDrive cs).2 = cs := List.take_append_drop _ _
  rw [attachDrive]
  split
  · rename_i c more d hpath hdrive
    rw [if_neg, ← List.append_assoc, hsplit]
    rcases splitDrive_boundary h with hcolon | ⟨c', hc', hsep⟩
    · simp [hcolon d hdrive]
    · have hc : c = c' := by
        have hhead := congrArg List.head? hpath
        rw [List.head?_append, Option.mem_def.1 hc'] at hhead
        simpa using hhead.symm
      simp [hc, hsep]
  · rw [← List.append_assoc, hsplit]

/-- A path up to the separator after it. -/
def closed (path : List Char) : List Char :=
  match path.getLast? with
  | some c => if isSeparator c then path else path ++ ['\\']
  | none => []

/-- A relative path goes on below the one that it is seen from. -/
theorem joinParts_relative {drive path next : List Char} (h : Relative next) :
    joinParts (drive, path) (splitDrive next) = (drive, closed path ++ next) := by
  rw [splitDrive_relative h]
  cases next with
  | nil => rfl
  | cons c more =>
    have hc := stopsAt_cons.1 h.rootless
    simp only [joinParts, hc]
    rfl

theorem closed_of_last {path : List Char} (hlast : path.getLast? = some c)
    (hc : isSeparator c = false) : closed path = path ++ ['\\'] := by
  simp [closed, hlast, hc]

theorem closed_append (path names : List Char) :
    closed (path ++ '\\' :: names) = path ++ '\\' :: closed names := by
  cases hlast : names.getLast? with
  | none =>
    rw [List.getLast?_eq_none_iff.1 hlast, closed, List.getLast?_concat]
    rfl
  | some c =>
    have happend : (path ++ '\\' :: names).getLast? = some c := by
      rw [List.getLast?_append, List.getLast?_cons, hlast]
      rfl
    simp only [closed, hlast, happend]
    split
    · rfl
    · simp

/-- Two relative paths, seen from a path that goes down to a name, come below it as they are. -/
theorem joinAll_of_endsInName {base first second : String} (hbase : EndsInName base.toList)
    (hfirst : Relative first.toList) (hsecond : Relative second.toList) :
    joinAll base [first, second] = base ++ "\\" ++ joinAll "" [first, second] := by
  obtain ⟨c, hlast, hc⟩ := hbase.getLast?_splitDrive
  have hempty : splitDrive "".toList = ([], []) := rfl
  have hattach (path : List Char) : attachDrive ([], path) = path := by
    cases path <;> rfl
  have hbelow : attachDrive ((splitDrive base.toList).1,
      closed (closed (splitDrive base.toList).2 ++ first.toList) ++ second.toList) =
      base.toList ++ '\\' :: (closed first.toList ++ second.toList) := by
    rw [closed_of_last hlast hc, List.append_assoc, List.singleton_append, closed_append,
      List.append_assoc, attachDrive_append hbase.below, List.cons_append]
  simp only [joinAll, List.foldl_cons, List.foldl_nil]
  rw [← Prod.mk.eta (p := splitDrive base.toList), joinParts_relative hfirst,
    joinParts_relative hsecond, hbelow, hempty, joinParts_relative hfirst,
    joinParts_relative hsecond, hattach, ← String.toList_inj]
  simp [closed]

/-! ## Files in folders -/

/-- A path is that of a file in a folder. -/
def InFolder (folder path : String) : Prop :=
  EndsInName folder.toList ∧ ∃ gap name, path.toList = folder.toList ++ gap ++ name ∧ gap ≠ [] ∧
    (∀ c ∈ gap, isSeparator c = true) ∧ ∀ c ∈ name, isSeparator c = false

theorem InFolder.directory_eq {folder path : String} (h : InFolder folder path) :
    directory path = folder := by
  obtain ⟨hfolder, gap, name, hpath, hne, hgap, hname⟩ := h
  obtain ⟨last, hlast, hseparator⟩ := hfolder.getLast?_splitDrive
  obtain ⟨c, gap, rfl⟩ := List.exists_cons_of_ne_nil hne
  have hsplit : splitDrive path.toList =
      ((splitDrive folder.toList).1, (splitDrive folder.toList).2 ++ (c :: gap) ++ name) := by
    rw [hpath, List.append_assoc, List.cons_append, hfolder.splitDrive_append (hgap c (by simp))]
    simp
  have hparts : (splitDrive folder.toList).1 ++ (splitDrive folder.toList).2 = folder.toList :=
    List.take_append_drop _ _
  generalize (splitDrive folder.toList).2 = below at *
  have htail :
      ((below ++ (c :: gap) ++ name).reverse.takeWhile (!isSeparator ·)).reverse = name := by
    have hstop : StopsAt (!isSeparator ·) (below ++ (c :: gap)).reverse := by
      intro b hb
      rw [List.head?_reverse, List.getLast?_append_cons] at hb
      simp [hgap b (List.mem_of_getLast? hb)]
    rw [List.reverse_append, takeWhile_run (by simpa using hname) hstop, List.reverse_reverse]
  have hbare : ((below ++ (c :: gap)).reverse.dropWhile isSeparator).reverse = below := by
    have hstop : StopsAt isSeparator below.reverse := by
      simp [StopsAt, hlast, hseparator]
    have hall : ∀ b ∈ (c :: gap).reverse, isSeparator b = true := fun b hb =>
      hgap b (List.mem_reverse.1 hb)
    rw [List.reverse_append, dropWhile_run hall hstop, List.reverse_reverse]
  have hfull : below.isEmpty = false := by
    cases below with
    | nil => cases hlast
    | cons => rfl
  simp only [directory, split, hsplit, htail]
  rw [List.length_append, Nat.add_sub_cancel, List.take_left, hbare, hfull,
    if_neg Bool.false_ne_true, hparts, String.ofList_toList]

end DescriptorPath

end SolutionScript
