import Mathlib.Data.List.Basic
import SolutionScript.Text.Blank
import SolutionScript.Text.Lines

/-!
# Lines with ends

A line is read up to its end (`linesFrom_ended`), and what is read of a text that goes on after the
end of a line depends on the text before only in that a line feed may belong to a carriage return
(`past`, `linesFrom_append`). So a text whose lines end in a line feed, or in a carriage return and
a line feed, is split into these lines (`lines_withEnds`).
-/

namespace SolutionScript.Text

variable {line cs rest ending : List Char}

/-! ## Ends of lines -/

theorem isBlank_of_isLineEnd {c : Char} (h : isLineEnd c = true) : isBlank c = true := by
  simp only [isLineEnd, isBlank, Bool.or_eq_true, Bool.and_eq_true, decide_eq_true_eq,
    beq_iff_eq] at h ⊢
  omega

/-- What ends a line: a character at which lines end, or a carriage return and a line feed. -/
def IsEnding (ending : List Char) : Prop :=
  ending = ['\r', '\n'] ∨ ∃ c, isLineEnd c = true ∧ ending = [c]

instance (ending : List Char) : Decidable (IsEnding ending) :=
  decidable_of_iff (ending = ['\r', '\n'] ∨ ending.length = 1 ∧ ending.all isLineEnd = true) <|
    or_congr_right <| by
      rw [List.length_eq_one_iff]
      constructor
      · rintro ⟨⟨c, rfl⟩, hc⟩
        exact ⟨c, by simpa using hc, rfl⟩
      · rintro ⟨c, hc, rfl⟩
        exact ⟨⟨c, rfl⟩, by simpa using hc⟩

/-- What is left of a text after characters that end a line: a line feed belongs to the carriage
return before it. -/
def past (before rest : List Char) : List Char :=
  match before.getLast? with
  | some c => afterLineEnd c rest
  | none => rest

@[simp] theorem past_nil_left (rest : List Char) : past [] rest = rest := rfl

theorem past_append (before : List Char) (h : cs ≠ []) :
    past (before ++ cs) rest = past cs rest := by
  rw [past, past, List.getLast?_append_of_ne_nil _ h]

theorem past_eq_self {before : List Char} (h : rest.head? ≠ some '\n') :
    past before rest = rest := by
  unfold past
  split
  · unfold afterLineEnd
    split
    · exact absurd rfl h
    · rfl
  · rfl

theorem past_eq_self_of_last {before : List Char} (h : before.getLast? ≠ some '\r') :
    past before rest = rest := by
  unfold past
  split
  · rename_i c hlast
    unfold afterLineEnd
    split
    · exact absurd hlast h
    · rfl
  · rfl

@[simp] theorem linesFrom_nil : linesFrom [] [] = [] := by
  rw [linesFrom]
  rfl

/-- Characters within a line are read as such. -/
theorem linesFrom_of_line (h : ∀ c ∈ cs, isLineEnd c = false) (line rest : List Char) :
    linesFrom line (cs ++ rest) = linesFrom (cs.reverse ++ line) rest := by
  induction cs generalizing line with
  | nil => rfl
  | cons c cs ih =>
    rw [List.forall_mem_cons] at h
    rw [List.cons_append, linesFrom, h.1, if_neg Bool.false_ne_true, ih h.2, List.reverse_cons,
      List.append_assoc, List.singleton_append]

theorem linesFrom_ending (h : IsEnding ending) (line rest : List Char) :
    linesFrom line (ending ++ rest) = line.reverse :: linesFrom [] (past ending rest) := by
  rcases h with rfl | ⟨c, hc, rfl⟩
  · rw [List.cons_append, linesFrom, if_pos (by decide)]
    rfl
  · rw [List.singleton_append, linesFrom, if_pos hc]
    rfl

theorem IsEnding.ne_nil (h : IsEnding ending) : ending ≠ [] := by
  rcases h with rfl | ⟨c, -, rfl⟩ <;> exact List.cons_ne_nil _ _

/-- A line is read up to its end. -/
theorem linesFrom_ended (h : ∀ c ∈ cs, isLineEnd c = false) (hending : IsEnding ending)
    (rest : List Char) :
    linesFrom [] (cs ++ (ending ++ rest)) = cs :: linesFrom [] (past ending rest) := by
  rw [linesFrom_of_line h, linesFrom_ending hending, List.append_nil, List.reverse_reverse]

/-- A text starts with its first line. -/
theorem prefix_of_linesFrom {first : List Char} {more : List (List Char)}
    (h : linesFrom line cs = first :: more) : first <+: line.reverse ++ cs := by
  fun_induction linesFrom line cs with
  | case1 line hempty => simp at h
  | case2 line hempty =>
    obtain ⟨rfl, -⟩ := List.cons.inj h
    exact List.prefix_append _ _
  | case3 line c cs hend ih =>
    obtain ⟨rfl, -⟩ := List.cons.inj h
    exact List.prefix_append _ _
  | case4 line c cs hend ih => simpa using ih h

/-- A text is nothing, or ends as a line does. -/
def EndsLine (cs : List Char) : Prop := ∀ c ∈ cs.getLast?, isLineEnd c = true

theorem IsEnding.endsLine_append (h : IsEnding ending) (before : List Char) :
    EndsLine (before ++ ending) := by
  rw [EndsLine, List.getLast?_append_of_ne_nil _ h.ne_nil]
  rcases h with rfl | ⟨c, hc, rfl⟩
  · rintro c ⟨⟩
    decide
  · rintro c ⟨⟩
    exact hc

@[simp] theorem afterLineEnd_nil (c : Char) : afterLineEnd c [] = [] :=
  List.eq_nil_of_length_eq_zero (Nat.le_zero.1 (length_afterLineEnd_le c []))

theorem afterLineEnd_append (c : Char) (h : cs ≠ []) (rest : List Char) :
    afterLineEnd c (cs ++ rest) = afterLineEnd c cs ++ rest := by
  match cs with
  | [] => exact absurd rfl h
  | d :: cs =>
    rw [List.cons_append]
    unfold afterLineEnd
    split
    · rename_i heq
      obtain ⟨rfl, rfl⟩ := List.cons.inj heq
      rfl
    · rename_i hne
      split
      · rename_i heq
        obtain ⟨rfl, rfl⟩ := List.cons.inj heq
        exact absurd rfl (hne _ rfl)
      · rfl

/-- What the text ends in is not lost, or nothing is left of it. -/
theorem getLast?_afterLineEnd (c : Char) (h : cs ≠ []) :
    (afterLineEnd c cs).getLast? = (c :: cs).getLast? ∨
      afterLineEnd c cs = [] ∧ cs = ['\n'] := by
  unfold afterLineEnd
  split
  · rename_i r
    cases r with
    | nil => exact .inr ⟨rfl, rfl⟩
    | cons d r => exact .inl (by rw [List.getLast?_cons_cons, List.getLast?_cons_cons])
  · match cs with
    | d :: cs => exact .inl List.getLast?_cons_cons.symm

@[simp] theorem past_nil_right (before : List Char) : past before [] = [] := by
  unfold past
  split
  · exact afterLineEnd_nil _
  · rfl

/-- After the end of a line, a text is read on its own. -/
theorem linesFrom_append (hcs : EndsLine cs) (hline : cs = [] → line = []) (rest : List Char) :
    linesFrom line (cs ++ rest) = linesFrom line cs ++ linesFrom [] (past cs rest) := by
  fun_induction linesFrom line cs with
  | case1 line _ => simp_all
  | case2 line hne => simp_all
  | case3 line c cs hend ih =>
    rw [List.cons_append, linesFrom, if_pos hend, List.cons_append]
    congr 1
    by_cases hne : cs = []
    · subst hne
      rw [afterLineEnd_nil, linesFrom_nil]
      rfl
    · rw [afterLineEnd_append c hne]
      rcases getLast?_afterLineEnd c hne with hlast | ⟨hnil, rfl⟩
      · rw [ih (by rwa [EndsLine, hlast]) fun _ => rfl, past, past, hlast]
      · rw [hnil, linesFrom_nil]
        rfl
  | case4 line c cs hend ih =>
    have hne : cs ≠ [] := by
      rintro rfl
      exact hend (hcs c rfl)
    have hlast : (c :: cs).getLast? = cs.getLast? := by
      rw [← List.singleton_append, List.getLast?_append_of_ne_nil _ hne]
    rw [List.cons_append, linesFrom, if_neg hend, ih (by rwa [EndsLine, ← hlast]) (absurd · hne),
      past, past, hlast]

/-! ## Lines with ends -/

/-- What ends the lines of a file: a line feed, with or without a carriage return
before it. -/
def IsNewline (ending : List Char) : Prop := ending = ['\n'] ∨ ending = ['\r', '\n']

/-- The characters of lines, with an end after each. -/
def withEnds (ending : List Char) (ls : List String) : List Char :=
  ls.flatMap fun l => l.toList ++ ending

theorem withEnds_append (ending : List Char) (ls more : List String) :
    withEnds ending (ls ++ more) = withEnds ending ls ++ withEnds ending more :=
  List.flatMap_append

theorem withEnds_singleton (ending : List Char) (l : String) :
    withEnds ending [l] = l.toList ++ ending :=
  List.flatMap_singleton _ _

/-- No character of a text ends a line. -/
def OnLine (s : String) : Prop := ∀ c ∈ s.toList, isLineEnd c = false

instance (s : String) : Decidable (OnLine s) :=
  List.decidableBAll (isLineEnd · = false) s.toList

@[simp] theorem onLine_append {s t : String} : OnLine (s ++ t) ↔ OnLine s ∧ OnLine t := by
  simp only [OnLine, String.toList_append, List.forall_mem_append]

theorem IsNewline.isEnding (h : IsNewline ending) : IsEnding ending := by
  rcases h with rfl | rfl
  · exact .inr ⟨_, by decide, rfl⟩
  · exact .inl rfl

theorem IsNewline.past_eq (h : IsNewline ending) (rest : List Char) : past ending rest = rest := by
  rcases h with rfl | rfl <;> rfl

theorem linesFrom_withEnds {ending : List Char} (hending : IsNewline ending) {ls : List String}
    (h : ∀ l ∈ ls, OnLine l) : linesFrom [] (withEnds ending ls) = ls.map String.toList := by
  induction ls with
  | nil => simp [withEnds]
  | cons l ls ih =>
    rw [List.forall_mem_cons] at h
    rw [withEnds, List.flatMap_cons, ← withEnds, List.append_assoc,
      linesFrom_ended h.1 hending.isEnding, hending.past_eq, ih h.2]
    rfl

/-- The lines of a text that has been put together from lines. -/
theorem lines_withEnds {ending : List Char} (hending : IsNewline ending) {ls : List String}
    (h : ∀ l ∈ ls, OnLine l) : lines (String.ofList (withEnds ending ls)) = ls := by
  rw [lines, String.toList_ofList, linesFrom_withEnds hending h]
  simp

end SolutionScript.Text
