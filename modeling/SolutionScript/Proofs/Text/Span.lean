import Mathlib.Data.List.TakeWhile
import SolutionScript.Text.Blank
import SolutionScript.Text.Letter

/-!
# Runs of characters

Where a run of characters of a class ends (`takeWhile_run`, `dropWhile_run`) or, at the end of a
text, starts (`exists_run_at_end`), and what trimming takes away (`trimList_eq`). A blank is no
decimal digit.
-/

namespace SolutionScript.Text

/-- What holds of the characters of a text is decided for these, not for all that there are. -/
instance (priority := high) decidableForallMem {P : Char → Prop} [DecidablePred P]
    (cs : List Char) : Decidable (∀ c ∈ cs, P c) := List.decidableBAll P cs

instance (priority := high) decidableForallMemOption {P : Char → Prop} [DecidablePred P]
    (c? : Option Char) : Decidable (∀ c ∈ c?, P c) := Option.decidableForallMem c?

variable {p : Char → Bool} {run rest : List Char}

/-- A text does not start with a character of a class. -/
def StopsAt (p : Char → Bool) (rest : List Char) : Prop := ∀ c ∈ rest.head?, p c = false

instance (p : Char → Bool) (rest : List Char) : Decidable (StopsAt p rest) :=
  decidableForallMemOption rest.head?

@[simp] theorem stopsAt_cons {c : Char} : StopsAt p (c :: rest) ↔ p c = false := by
  simp [StopsAt]

theorem StopsAt.takeWhile_eq (h : StopsAt p rest) : rest.takeWhile p = [] := by
  cases rest with
  | nil => rfl
  | cons c rest => rw [List.takeWhile_cons, stopsAt_cons.1 h, if_neg Bool.false_ne_true]

theorem StopsAt.dropWhile_eq (h : StopsAt p rest) : rest.dropWhile p = rest := by
  cases rest with
  | nil => rfl
  | cons c rest => rw [List.dropWhile_cons, stopsAt_cons.1 h, if_neg Bool.false_ne_true]

theorem stopsAt_dropWhile (p : Char → Bool) (cs : List Char) : StopsAt p (cs.dropWhile p) := by
  intro c hc
  have h := List.head?_dropWhile_not p cs
  rw [Option.mem_def.1 hc] at h
  exact h

theorem StopsAt.append (h : StopsAt p run) (hrest : StopsAt p rest) : StopsAt p (run ++ rest) := by
  cases run with
  | nil => exact hrest
  | cons c run => exact stopsAt_cons.2 (stopsAt_cons.1 h)

/-- A run ends where the text goes on with another character. -/
theorem takeWhile_run (hrun : ∀ c ∈ run, p c = true) (h : StopsAt p rest) :
    (run ++ rest).takeWhile p = run := by
  rw [List.takeWhile_append_of_pos hrun, h.takeWhile_eq, List.append_nil]

theorem dropWhile_run (hrun : ∀ c ∈ run, p c = true) (h : StopsAt p rest) :
    (run ++ rest).dropWhile p = rest := by
  rw [List.dropWhile_append_of_pos hrun, h.dropWhile_eq]

/-- Before the run that a text ends with, no character is of the class. -/
theorem exists_run_at_end (p : Char → Bool) (cs : List Char) :
    ∃ before, cs = before ++ (cs.reverse.takeWhile p).reverse ∧
      ∀ c ∈ before.getLast?, p c = false := by
  refine ⟨(cs.reverse.dropWhile p).reverse, ?_, fun c hc => ?_⟩
  · rw [← List.reverse_append, List.takeWhile_append_dropWhile, List.reverse_reverse]
  · rw [List.getLast?_reverse] at hc
    exact stopsAt_dropWhile p _ c hc

/-! ## Trimming -/

theorem stripList_append_left {before : List Char} (h : ∀ c ∈ before, p c = true) (cs : List Char) :
    stripList p (before ++ cs) = stripList p cs := by
  rw [stripList, List.dropWhile_append_of_pos h, stripList]

theorem stripList_append_right {after : List Char} (h : ∀ c ∈ after, p c = true) (cs : List Char) :
    stripList p (cs ++ after) = stripList p cs := by
  have hreverse : ∀ c ∈ after.reverse, p c = true := by simpa using h
  rw [stripList, stripList, List.dropWhile_append]
  split
  · rename_i hnone
    rw [List.isEmpty_iff] at hnone
    rw [hnone, List.dropWhile_eq_nil_iff.2 h]
  · rw [List.reverse_append, List.dropWhile_append_of_pos hreverse]

/-- Characters of a class are taken away from around a text that neither starts nor
ends with one. -/
theorem stripList_eq {before cs after : List Char} (hbefore : ∀ c ∈ before, p c = true)
    (hafter : ∀ c ∈ after, p c = true) (hfirst : StopsAt p cs) (hlast : StopsAt p cs.reverse) :
    stripList p (before ++ cs ++ after) = cs := by
  rw [stripList_append_right hafter, stripList_append_left hbefore, stripList, hfirst.dropWhile_eq,
    hlast.dropWhile_eq, List.reverse_reverse]

theorem stripList_prefix_dropWhile (p : Char → Bool) (cs : List Char) :
    stripList p cs <+: cs.dropWhile p := by
  rw [← List.reverse_suffix, stripList, List.reverse_reverse]
  exact List.dropWhile_suffix p

/-- What is left neither starts nor ends with a character that is taken away. -/
theorem stopsAt_stripList (p : Char → Bool) (cs : List Char) :
    StopsAt p (stripList p cs) ∧ StopsAt p (stripList p cs).reverse := by
  have hprefix := stripList_prefix_dropWhile p cs
  constructor
  · intro c hc
    refine stopsAt_dropWhile p cs c ?_
    cases h : stripList p cs with
    | nil =>
      rw [h] at hc
      cases hc
    | cons d ds =>
      rw [h] at hc hprefix
      obtain ⟨rest, hrest⟩ := hprefix
      rw [← hrest]
      exact hc
  · rw [stripList, List.reverse_reverse]
    exact stopsAt_dropWhile p _

/-- A text neither starts nor ends with a blank. -/
structure Trimmed (cs : List Char) : Prop where
  first : StopsAt isBlank cs
  last : StopsAt isBlank cs.reverse

/-- Blanks around a trimmed text are taken away. -/
theorem trimList_eq {before cs after : List Char} (hbefore : ∀ c ∈ before, isBlank c = true)
    (hafter : ∀ c ∈ after, isBlank c = true) (hcs : Trimmed cs) :
    trimList (before ++ cs ++ after) = cs :=
  stripList_eq hbefore hafter hcs.first hcs.last

/-- A text between two trimmed texts that are not empty is trimmed. -/
theorem Trimmed.append_append {first last : List Char} (hfirst : Trimmed first)
    (hlast : Trimmed last) (hne : first ≠ []) (hne' : last ≠ []) (cs : List Char) :
    Trimmed (first ++ cs ++ last) := by
  have hstop {l : List Char} (h : StopsAt isBlank l) (hl : l ≠ []) (rest : List Char) :
      StopsAt isBlank (l ++ rest) := by
    cases l with
    | nil => exact absurd rfl hl
    | cons c l => exact stopsAt_cons.2 (stopsAt_cons.1 h)
  constructor
  · rw [List.append_assoc]
    exact hstop hfirst.first hne _
  · rw [List.reverse_append]
    exact hstop hlast.last (by simpa using hne') _

theorem trimmed_singleton {c : Char} (h : isBlank c = false) : Trimmed [c] :=
  ⟨stopsAt_cons.2 h, stopsAt_cons.2 h⟩

theorem trimList_of_trimmed {cs : List Char} (h : Trimmed cs) : trimList cs = cs := by
  simpa using @trimList_eq [] cs [] (by simp) (by simp) h

/-- A trimmed text starts with the first character that is not blank. -/
theorem head?_trimList (cs : List Char) : (trimList cs).head? = cs.find? (!isBlank ·) := by
  have hprefix := stripList_prefix_dropWhile isBlank cs
  have hfind : cs.find? (!isBlank ·) = (cs.dropWhile isBlank).head? := by
    simp [List.find?_eq_head?_dropWhile_not]
  rw [hfind]
  cases htrim : trimList cs with
  | cons c rest =>
    rw [← trimList, htrim] at hprefix
    obtain ⟨more, hmore⟩ := hprefix
    rw [← hmore]
    rfl
  | nil =>
    have hblank : ∀ c ∈ cs.dropWhile isBlank, isBlank c = true := by
      simpa [trimList, stripList, List.dropWhile_eq_nil_iff] using htrim
    cases hdrop : cs.dropWhile isBlank with
    | nil => rfl
    | cons c rest =>
      have hstop := stopsAt_dropWhile isBlank cs
      rw [hdrop, stopsAt_cons] at hstop
      rw [hdrop] at hblank
      exact absurd (hblank c List.mem_cons_self) (by simp [hstop])

theorem trimList_eq_nil {cs : List Char} : trimList cs = [] ↔ ∀ c ∈ cs, isBlank c = true := by
  rw [← List.head?_eq_none_iff, head?_trimList, List.find?_eq_none]
  simp

/-- Whether a text is blank shows in what is left of it. -/
theorem isBlankText_congr {s s' : String} (h : trimList s'.toList = trimList s.toList) :
    isBlankText s' = isBlankText s := by
  rw [Bool.eq_iff_iff, isBlankText, isBlankText, List.all_eq_true, List.all_eq_true,
    ← trimList_eq_nil, ← trimList_eq_nil, h]

theorem trimmed_trimList (cs : List Char) : Trimmed (trimList cs) :=
  ⟨(stopsAt_stripList isBlank cs).1, (stopsAt_stripList isBlank cs).2⟩

theorem trim_trim (s : String) : trim (trim s) = trim s := by
  rw [trim, trim, String.toList_ofList, trimList_of_trimmed (trimmed_trimList s.toList)]

/-! ## Blanks and digits -/

/-- The blank characters outside of ASCII. -/
def wideBlanks : List Nat :=
  [0x85, 0xA0, 0x1680, 0x2000, 0x2001, 0x2002, 0x2003, 0x2004, 0x2005, 0x2006, 0x2007, 0x2008,
    0x2009, 0x200A, 0x2028, 0x2029, 0x202F, 0x205F, 0x3000]

theorem mem_wideBlanks {c : Char} (h : isBlank c = true) (hwide : 128 ≤ c.toNat) :
    c.toNat ∈ wideBlanks := by
  simp only [isBlank, Bool.or_eq_true, Bool.and_eq_true, decide_eq_true_eq, beq_iff_eq] at h
  simp only [wideBlanks, List.mem_cons, List.not_mem_nil, or_false]
  omega

theorem toNat_of_isDigit {c : Char} (h : c.isDigit = true) : 48 ≤ c.toNat ∧ c.toNat ≤ 57 := by
  simp only [Char.isDigit, Bool.and_eq_true, decide_eq_true_eq, ge_iff_le,
    UInt32.le_iff_toNat_le] at h
  exact h

theorem isDecimalDigit_of_isDigit {c : Char} (h : c.isDigit = true) : isDecimalDigit c = true := by
  have hascii := toNat_of_isDigit h
  rw [isDecimalDigit, if_pos (by omega), h]

/-- A blank is no decimal digit. -/
theorem isDecimalDigit_of_isBlank {c : Char} (h : isBlank c = true) : isDecimalDigit c = false := by
  rw [isDecimalDigit]
  split
  · rename_i hascii
    simp only [isBlank, Bool.or_eq_true, Bool.and_eq_true, decide_eq_true_eq, beq_iff_eq] at h
    simp only [Char.isDigit, Bool.and_eq_false_iff, decide_eq_false_iff_not, UInt32.not_le,
      UInt32.lt_iff_toNat_lt, Char.toNat_val] at *
    left
    change c.toNat < 48
    omega
  · rename_i hwide
    have hnone : wideBlanks.all fun n => !inRanges decimalDigitRanges n := by decide +kernel
    simpa using List.all_eq_true.1 hnone _ (mem_wideBlanks h (by omega))

end SolutionScript.Text
