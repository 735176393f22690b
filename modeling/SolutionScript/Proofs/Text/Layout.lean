import SolutionScript.Proofs.Text.Lines
import SolutionScript.Proofs.Text.Span

/-!
# Layouts

A layout of a text writes the lines of the text again, each with spaces and tabs around it and with
an end of its own, and puts lines in between (`IsLayout`). Its lines are those of the text, apart
from blanks around them and from blank lines and comments (`IsLayout.aligned`), and `Moves` says
where a line of the text is found again.

A row does not always make up a line: if the row before ends in a carriage return, and this one is
nothing but a line feed, both end the same line (`Row.shown`).
-/

namespace SolutionScript.Text

/-! ## Rows -/

/-- A line as a layout writes it. -/
structure Row where
  /-- The line is one of the text. The others are put in. -/
  kept : Bool
  indent : List Char
  line : String
  padding : List Char
  ending : List Char
  deriving DecidableEq

namespace Row

variable {r : Row} {before rest : List Char}

/-- What is written up to the end of the line. -/
def body (r : Row) : List Char := r.indent ++ r.line.toList ++ r.padding

def chars (r : Row) : List Char := r.body ++ r.ending

/-- A line of the text that is not blank. -/
def isOpening (r : Row) : Bool := r.kept && !isBlankText r.line

/-- Spaces and tabs stand around one line. -/
structure Neat (r : Row) : Prop where
  indent : ∀ c ∈ r.indent, c = ' ' ∨ c = '\t'
  line : OnLine r.line
  padding : ∀ c ∈ r.padding, c = ' ' ∨ c = '\t'

instance (r : Row) : Decidable r.Neat :=
  decidable_of_iff ((∀ c ∈ r.indent, c = ' ' ∨ c = '\t') ∧ OnLine r.line ∧
    ∀ c ∈ r.padding, c = ' ' ∨ c = '\t') ⟨fun ⟨h, h', h''⟩ => ⟨h, h', h''⟩, fun ⟨h, h', h''⟩ =>
      ⟨h, h', h''⟩⟩

theorem isBlank_space {c : Char} (h : c = ' ' ∨ c = '\t') : isBlank c = true := by
  rcases h with rfl | rfl <;> decide

theorem Neat.not_isLineEnd (h : r.Neat) : ∀ c ∈ r.body, isLineEnd c = false := by
  have hspace {c : Char} (hc : c = ' ' ∨ c = '\t') : isLineEnd c = false := by
    rcases hc with rfl | rfl <;> decide
  simp only [body, List.forall_mem_append]
  exact ⟨⟨fun c hc => hspace (h.indent c hc), h.line⟩, fun c hc => hspace (h.padding c hc)⟩

/-- A row says what its line says. -/
theorem Neat.trimList_body (h : r.Neat) : trimList r.body = trimList r.line.toList := by
  rw [trimList, body, stripList_append_right fun c hc => isBlank_space (h.padding c hc),
    stripList_append_left fun c hc => isBlank_space (h.indent c hc), trimList]

theorem Neat.isBlankText_body (h : r.Neat) :
    isBlankText (String.ofList r.body) = isBlankText r.line := by
  have hblank {cs : List Char} (hcs : ∀ c ∈ cs, c = ' ' ∨ c = '\t') : cs.all isBlank = true :=
    List.all_eq_true.2 fun c hc => isBlank_space (hcs c hc)
  rw [isBlankText, isBlankText, String.toList_ofList, body, List.all_append, List.all_append,
    hblank h.indent, hblank h.padding, Bool.true_and, Bool.and_true]

/-- A row ends in a line end, or is the last one and not empty. -/
def Ended (r : Row) (rest : List Char) : Prop :=
  IsEnding r.ending ∨ rest = [] ∧ r.ending = [] ∧ r.body ≠ []

instance (r : Row) (rest : List Char) : Decidable (r.Ended rest) :=
  inferInstanceAs (Decidable (_ ∨ _))

/-- The line that a row makes up after a text. -/
def shown (r : Row) (before : List Char) : List (List Char) :=
  if before.getLast? = some '\r' ∧ r.chars = ['\n'] then [] else [r.body]

theorem Ended.chars_ne_nil (h : r.Ended rest) : r.chars ≠ [] := by
  rcases h with h | ⟨-, -, h⟩
  · exact List.append_ne_nil_of_right_ne_nil _ h.ne_nil
  · exact List.append_ne_nil_of_left_ne_nil h _

/-- A row that starts with a line feed is nothing else. -/
theorem Neat.chars_eq (h : r.Neat) (hended : r.Ended rest) (hfeed : r.chars.head? = some '\n') :
    r.chars = ['\n'] := by
  rw [chars] at hfeed ⊢
  cases hbody : r.body with
  | nil =>
    rw [hbody, List.nil_append] at hfeed
    rcases hended with (hpair | ⟨c, -, hc⟩) | ⟨-, hnone, -⟩
    · rw [hpair] at hfeed
      cases hfeed
    · rw [hc] at hfeed ⊢
      cases hfeed
      rfl
    · rw [hnone] at hfeed
      cases hfeed
  | cons c cs =>
    rw [hbody] at hfeed
    cases hfeed
    exact absurd (h.not_isLineEnd '\n' (by simp [hbody])) (by decide)

/-- A row is read as the line that it makes up. -/
theorem Neat.linesFrom_chars (h : r.Neat) (hended : r.Ended rest) (before : List Char) :
    linesFrom [] (past before (r.chars ++ rest)) =
      r.shown before ++ linesFrom [] (past (before ++ r.chars) rest) := by
  rw [past_append _ hended.chars_ne_nil, shown]
  split
  · rename_i hfeed
    rw [hfeed.2, past, hfeed.1, past_eq_self_of_last (by decide)]
    rfl
  · rename_i hfeed
    have hpast : past before (r.chars ++ rest) = r.chars ++ rest := by
      by_cases hreturn : before.getLast? = some '\r'
      · refine past_eq_self fun hhead => hfeed ⟨hreturn, h.chars_eq hended ?_⟩
        rwa [List.head?_append_of_ne_nil _ hended.chars_ne_nil] at hhead
      · exact past_eq_self_of_last hreturn
    rw [hpast, chars, List.append_assoc]
    rcases hended with hending | ⟨rfl, hnone, hbody⟩
    · rw [linesFrom_ended h.not_isLineEnd hending, past_append _ hending.ne_nil]
      rfl
    · rw [hnone, List.append_nil, linesFrom_of_line h.not_isLineEnd, past_nil_right]
      simp [linesFrom, hbody]

/-- If a row starts with a character that is not blank, so does its line. -/
theorem Neat.head?_chars {c : Char} (h : r.Neat) (hended : r.Ended rest) (hc : isBlank c = false)
    (hhead : r.chars.head? = some c) : r.line.toList.head? = some c := by
  have hblank {cs more : List Char} (hcs : ∀ c ∈ cs, isBlank c = true)
      (hhead : (cs ++ more).head? = some c) : more.head? = some c := by
    cases cs with
    | nil => exact hhead
    | cons d cs =>
      cases hhead
      exact absurd (hcs c List.mem_cons_self) (by simp [hc])
  have hending : ∀ c ∈ r.ending, isBlank c = true := by
    rcases hended with (hpair | ⟨d, hd, hsingle⟩) | ⟨-, hnone, -⟩
    · rw [hpair]
      decide
    · rw [hsingle]
      simpa using isBlank_of_isLineEnd hd
    · simp [hnone]
  rw [chars, body, List.append_assoc, List.append_assoc] at hhead
  have hline := hblank (fun c hc => isBlank_space (h.indent c hc)) hhead
  cases hempty : r.line.toList with
  | nil =>
    rw [hempty, List.nil_append] at hline
    have hnone := hblank (fun c hc => isBlank_space (h.padding c hc)) hline
    rw [← List.append_nil r.ending] at hnone
    exact absurd (hblank hending hnone) (by simp)
  | cons d cs =>
    rw [hempty] at hline
    exact hline

/-- Only an empty row makes up no line. -/
theorem Neat.shown_cases (h : r.Neat) (before : List Char) :
    r.shown before = [] ∧ isBlankText r.line = true ∨ r.shown before = [r.body] := by
  rw [shown]
  split
  · rename_i hfeed
    have hbody : r.body = [] := by
      cases hbody : r.body with
      | nil => rfl
      | cons c cs =>
        have hchars := hfeed.2
        rw [chars, hbody, List.cons_append] at hchars
        obtain ⟨rfl, -⟩ := List.cons.inj hchars
        exact absurd (h.not_isLineEnd '\n' (by simp [hbody])) (by decide)
    refine .inl ⟨rfl, ?_⟩
    rw [← h.isBlankText_body, hbody]
    rfl
  · exact .inr rfl

end Row

/-! ## Texts with the same lines -/

/-- Two texts have the same lines, from the ones with given numbers on: blanks around lines make no
difference, and blank lines and comments that only one of them has are passed over, comments where
a line that is not blank stands before. Numbers of lines in both texts are related. -/
inductive Aligned (M : ℕ → ℕ → Prop) : Bool → ℕ → List String → ℕ → List String → Prop
  | nil {begun : Bool} {n n' : ℕ} (number : M n n') : Aligned M begun n [] n' []
  | left {begun : Bool} {n n' : ℕ} {line : String} {rest rest' : List String}
      (blank : isBlankText line = true) (aligned : Aligned M begun (n + 1) rest n' rest') :
    Aligned M begun n (line :: rest) n' rest'
  | right {begun : Bool} {n n' : ℕ} {line' : String} {rest rest' : List String}
      (passed : isBlankText line' = true ∨
        begun = true ∧ (trimList line'.toList).head? = some '#')
      (aligned : Aligned M begun n rest (n' + 1) rest') :
    Aligned M begun n rest n' (line' :: rest')
  | both {begun : Bool} {n n' : ℕ} {line line' : String} {rest rest' : List String}
      (number : M n n') (same : trimList line'.toList = trimList line.toList)
      (aligned : Aligned M (begun || !isBlankText line) (n + 1) rest (n' + 1) rest') :
    Aligned M begun n (line :: rest) n' (line' :: rest')

/-- How two texts with the same lines start: both are blank, or they have a first line that is not
blank. -/
inductive Starts (M : ℕ → ℕ → Prop) (n n' : ℕ) : List String → List String → Prop
  | blank {blank blank' : List String} (isBlank : ∀ line ∈ blank, isBlankText line = true)
      (isBlank' : ∀ line ∈ blank', isBlankText line = true)
      (number : M (blank.length + n) (blank'.length + n')) : Starts M n n' blank blank'
  | first {blank blank' rest rest' : List String} {first first' : String}
      (isBlank : ∀ line ∈ blank, isBlankText line = true)
      (isBlank' : ∀ line ∈ blank', isBlankText line = true)
      (number : M (blank.length + n) (blank'.length + n'))
      (notBlank : isBlankText first = false)
      (same : trimList first'.toList = trimList first.toList)
      (aligned : Aligned M true (blank.length + n + 1) rest (blank'.length + n' + 1) rest') :
    Starts M n n' (blank ++ first :: rest) (blank' ++ first' :: rest')

section

variable {M : ℕ → ℕ → Prop} {n n' : ℕ} {lines lines' : List String} {line : String}

theorem Starts.left (hline : isBlankText line = true) (h : Starts M (n + 1) n' lines lines') :
    Starts M n n' (line :: lines) lines' := by
  have hlength (blank : List String) : blank.length + (n + 1) = (line :: blank).length + n := by
    rw [List.length_cons]
    omega
  cases h with
  | blank isBlank isBlank' number =>
    exact .blank (List.forall_mem_cons.2 ⟨hline, isBlank⟩) isBlank' (hlength _ ▸ number)
  | @first blank blank' rest rest' _ _ isBlank isBlank' number notBlank same aligned =>
    rw [hlength] at number aligned
    exact .first (List.forall_mem_cons.2 ⟨hline, isBlank⟩) isBlank' number notBlank same aligned

theorem Starts.right (hline : isBlankText line = true) (h : Starts M n (n' + 1) lines lines') :
    Starts M n n' lines (line :: lines') := by
  have hlength (blank : List String) : blank.length + (n' + 1) = (line :: blank).length + n' := by
    rw [List.length_cons]
    omega
  cases h with
  | blank isBlank isBlank' number =>
    exact .blank isBlank (List.forall_mem_cons.2 ⟨hline, isBlank'⟩) (hlength _ ▸ number)
  | @first blank blank' rest rest' _ _ isBlank isBlank' number notBlank same aligned =>
    rw [hlength] at number aligned
    exact .first isBlank (List.forall_mem_cons.2 ⟨hline, isBlank'⟩) number notBlank same aligned

theorem Aligned.starts (h : Aligned M false n lines n' lines') : Starts M n n' lines lines' := by
  generalize hbegun : false = begun at h
  induction h with
  | nil number => exact .blank (by simp) (by simp) (by simpa using number)
  | left blank _ ih => exact .left blank (ih hbegun)
  | right passed _ ih =>
    exact .right (passed.resolve_right fun h => by simp [← hbegun] at h) (ih hbegun)
  | @both _ n n' line line' rest rest' number same aligned ih =>
    subst hbegun
    rw [Bool.false_or] at aligned ih
    cases hline : isBlankText line with
    | true =>
      rw [hline] at ih
      exact .left hline (.right ((isBlankText_congr same).trans hline) (ih rfl))
    | false =>
      rw [hline] at aligned
      refine @Starts.first M n n' [] [] rest rest' line line' (by simp) (by simp) ?_ hline same ?_
      · simpa using number
      · simpa using aligned

end

/-! ## Layouts -/

variable {text : List String} {rows before after : List Row} {r : Row}

/-- The lines of a text that rows write again. -/
def keptLines (rows : List Row) : List String := (rows.filter (·.kept)).map (·.line)

/-- What rows write. -/
def relaid (rows : List Row) : List Char := rows.flatMap (·.chars)

/-- The rows are a layout of a text. -/
structure IsLayout (text : List String) (rows : List Row) : Prop where
  kept : keptLines rows = text
  neat : ∀ r ∈ rows, r.Neat
  ended : ∀ r ∈ rows.dropLast, IsEnding r.ending
  last : ∀ r ∈ rows.getLast?, r.Ended []
  /-- What is put in is blank or a comment. -/
  inserted : ∀ r ∈ rows, r.kept = true ∨ isBlankText r.line = true ∨
    r.line.toList.find? (!isBlank ·) = some '#'
  /-- Comments come after the first line of the text that is not blank. -/
  leading : ∀ r ∈ rows.takeWhile (!·.isOpening), r.kept = true ∨ isBlankText r.line = true

instance (text : List String) (rows : List Row) : Decidable (IsLayout text rows) :=
  decidable_of_iff (keptLines rows = text ∧ (∀ r ∈ rows, r.Neat) ∧
    (∀ r ∈ rows.dropLast, IsEnding r.ending) ∧ (∀ r ∈ rows.getLast?, r.Ended []) ∧
    (∀ r ∈ rows, r.kept = true ∨ isBlankText r.line = true ∨
      r.line.toList.find? (!isBlank ·) = some '#') ∧
    ∀ r ∈ rows.takeWhile (!·.isOpening), r.kept = true ∨ isBlankText r.line = true)
    ⟨fun ⟨kept, neat, ended, last, inserted, leading⟩ =>
      ⟨kept, neat, ended, last, inserted, leading⟩,
      fun ⟨kept, neat, ended, last, inserted, leading⟩ =>
      ⟨kept, neat, ended, last, inserted, leading⟩⟩

/-- Where a line of a text is found again in a layout, by its number. What comes after the last
line has a number as well. -/
def Moves (rows : List Row) (n n' : ℕ) : Prop :=
  ∃ before after, rows = before ++ after ∧ (∀ r ∈ after.head?, r.kept = true) ∧
    n = (keptLines before).length + 1 ∧ n' = (lines (String.ofList (relaid before))).length + 1

@[simp] theorem keptLines_nil : keptLines [] = [] := rfl

theorem keptLines_cons_of_kept (h : r.kept = true) (rows : List Row) :
    keptLines (r :: rows) = r.line :: keptLines rows := by
  rw [keptLines, List.filter_cons_of_pos h, List.map_cons, keptLines]

theorem keptLines_cons_of_not (h : r.kept = false) (rows : List Row) :
    keptLines (r :: rows) = keptLines rows := by
  rw [keptLines, List.filter_cons_of_neg (by simp [h]), keptLines]

theorem keptLines_append (before after : List Row) :
    keptLines (before ++ after) = keptLines before ++ keptLines after := by
  rw [keptLines, List.filter_append, List.map_append, keptLines, keptLines]

theorem relaid_append (before after : List Row) :
    relaid (before ++ after) = relaid before ++ relaid after :=
  List.flatMap_append

theorem relaid_singleton (r : Row) : relaid [r] = r.chars := List.flatMap_singleton _ _

theorem lines_relaid (rows : List Row) :
    lines (String.ofList (relaid rows)) = (linesFrom [] (relaid rows)).map String.ofList := by
  rw [lines, String.toList_ofList]

namespace IsLayout

/-- A row in the middle of a layout ends in a line end. -/
theorem rowEnded (h : IsLayout text (before ++ r :: after)) : r.Ended (relaid after) := by
  cases after with
  | nil => exact h.last r (by simp)
  | cons q after => exact .inl (h.ended r (by simp [List.dropLast]))

/-- So does what stands before it. -/
theorem endsLine_relaid (h : IsLayout text (before ++ r :: after)) : EndsLine (relaid before) := by
  rcases List.eq_nil_or_concat before with rfl | ⟨before, q, rfl⟩
  · simp [relaid, EndsLine]
  · have hending : IsEnding q.ending := h.ended q (by simp [List.dropLast])
    rw [List.concat_eq_append, relaid_append, relaid_singleton, Row.chars, ← List.append_assoc]
    exact hending.endsLine_append _

theorem rowNeat (h : IsLayout text (before ++ r :: after)) : r.Neat := h.neat r (by simp)

/-- After some rows, a further one adds the line that it makes up. -/
theorem linesFrom_concat (h : IsLayout text (before ++ r :: after)) :
    linesFrom [] (relaid (before ++ [r])) =
      linesFrom [] (relaid before) ++ r.shown (relaid before) := by
  have hended : r.Ended [] := h.rowEnded.imp_right fun ⟨_, hbody⟩ => ⟨rfl, hbody⟩
  have hrow := h.rowNeat.linesFrom_chars hended (relaid before)
  rw [List.append_nil, past_nil_right, linesFrom_nil, List.append_nil] at hrow
  rw [relaid_append, relaid_singleton, linesFrom_append h.endsLine_relaid fun _ => rfl, hrow]

/-- The lines that are left start with the one that the next row makes up. -/
theorem linesFrom_cons (h : IsLayout text (before ++ r :: after)) :
    linesFrom [] (past (relaid before) (relaid (r :: after))) =
      r.shown (relaid before) ++ linesFrom [] (past (relaid (before ++ [r])) (relaid after)) := by
  have hcons : relaid (r :: after) = r.chars ++ relaid after := List.flatMap_cons
  rw [hcons, h.rowNeat.linesFrom_chars h.rowEnded, relaid_append before, relaid_singleton]

/-- What is put in before the first line of the text that is not blank is blank. -/
theorem isBlankText_or (h : IsLayout text (before ++ r :: after)) (hkept : r.kept = false) :
    isBlankText r.line = true ∨
      before.any Row.isOpening = true ∧ (trimList r.line.toList).head? = some '#' := by
  have hnot : ¬ r.kept = true := by simp [hkept]
  cases hbegun : before.any Row.isOpening with
  | true =>
    rw [head?_trimList]
    exact ((h.inserted r (by simp)).resolve_left hnot).imp_right fun hmark => ⟨rfl, hmark⟩
  | false =>
    have hbefore : ∀ q ∈ before, (!q.isOpening) = true := by simpa using hbegun
    have hleading : r ∈ (before ++ r :: after).takeWhile (!·.isOpening) := by
      rw [List.takeWhile_append_of_pos hbefore, List.takeWhile_cons_of_pos (by simp [Row.isOpening,
        hkept])]
      simp
    exact .inl ((h.leading r hleading).resolve_left hnot)

/-- From any row on, the lines of the layout are those of the text. -/
theorem aligned_from (h : IsLayout text (before ++ after)) :
    Aligned (Moves (before ++ after)) (before.any Row.isOpening)
      ((keptLines before).length + 1) (keptLines after)
      ((lines (String.ofList (relaid before))).length + 1)
      ((linesFrom [] (past (relaid before) (relaid after))).map String.ofList) := by
  induction after generalizing before with
  | nil =>
    have hnone : relaid [] = [] := rfl
    rw [hnone, past_nil_right, linesFrom_nil]
    exact .nil ⟨before, [], rfl, by simp, rfl, rfl⟩
  | cons r after ih =>
    have hrows : before ++ r :: after = before ++ [r] ++ after := by simp
    have hrest := @ih (before ++ [r]) (hrows ▸ h)
    have hneat := h.rowNeat
    rw [← hrows, List.any_append, List.any_cons, List.any_nil, Bool.or_false, keptLines_append,
      lines_relaid, h.linesFrom_concat] at hrest
    rw [h.linesFrom_cons, lines_relaid]
    cases hkept : r.kept with
    | true =>
      have hopening : r.isOpening = !isBlankText r.line := by rw [Row.isOpening, hkept]; rfl
      rw [keptLines_cons_of_kept hkept, keptLines_nil, hopening] at hrest
      rw [keptLines_cons_of_kept hkept]
      rcases hneat.shown_cases (relaid before) with ⟨hshown, hblank⟩ | hshown
      · rw [hshown, List.append_nil, hblank] at hrest
        rw [hshown]
        refine .left hblank ?_
        simpa using hrest
      · rw [hshown] at hrest ⊢
        refine .both ⟨before, r :: after, rfl, by simpa using hkept, rfl, ?_⟩ ?_ ?_
        · rw [lines_relaid]
        · rw [String.toList_ofList, hneat.trimList_body]
        · simpa using hrest
    | false =>
      have hopening : r.isOpening = false := by rw [Row.isOpening, hkept]; rfl
      rw [keptLines_cons_of_not hkept, keptLines_nil, List.append_nil, hopening,
        Bool.or_false] at hrest
      rw [keptLines_cons_of_not hkept]
      rcases hneat.shown_cases (relaid before) with ⟨hshown, -⟩ | hshown
      · rw [hshown, List.append_nil] at hrest
        rwa [hshown]
      · rw [hshown] at hrest ⊢
        refine .right ?_ (by simpa using hrest)
        rw [hneat.isBlankText_body, String.toList_ofList, hneat.trimList_body]
        exact h.isBlankText_or hkept

/-- The lines of a layout are those of the text. -/
theorem aligned (h : IsLayout text rows) :
    Aligned (Moves rows) false 1 text 1 (lines (String.ofList (relaid rows))) := by
  have hall := @aligned_from text [] rows h
  have hnone : relaid [] = [] := rfl
  rwa [List.nil_append, h.kept, lines_relaid [], hnone, linesFrom_nil, past_nil_left,
    ← lines_relaid] at hall

/-- A layout starts with a character that is not blank only if the text does. -/
theorem head?_of_relaid {s : String} {c : Char} (h : IsLayout (lines s) rows)
    (hc : isBlank c = false) (hhead : (relaid rows).head? = some c) : s.toList.head? = some c := by
  cases rows with
  | nil => cases hhead
  | cons r rows =>
    have hneat := @rowNeat (lines s) [] rows r h
    have hended := @rowEnded (lines s) [] rows r h
    rw [relaid, List.flatMap_cons, List.head?_append_of_ne_nil _ hended.chars_ne_nil] at hhead
    have hline := hneat.head?_chars hended hc hhead
    have hkept : r.kept = true := by
      by_contra hnot
      have hblank := @isBlankText_or (lines s) [] rows r h (Bool.eq_false_iff.2 hnot)
      replace hblank := hblank.resolve_right (by simp)
      rw [isBlankText, List.all_eq_true] at hblank
      exact absurd (hblank c (List.mem_of_head? hline)) (by simp [hc])
    have hlines := h.kept
    rw [keptLines_cons_of_kept hkept, lines, eq_comm, List.map_eq_cons_iff] at hlines
    obtain ⟨first, more, hlines, hfirst, -⟩ := hlines
    rw [← hfirst, String.toList_ofList] at hline
    obtain ⟨rest, hrest⟩ := prefix_of_linesFrom hlines
    obtain ⟨first, rfl⟩ := List.head?_eq_some_iff.1 hline
    rw [List.reverse_nil, List.nil_append] at hrest
    rw [← hrest]
    rfl

end IsLayout

end SolutionScript.Text
