import Mathlib.Data.List.Infix
import SolutionScript.Proofs.Text.Lines
import SolutionScript.Proofs.Text.Span
import SolutionScript.Text.Split

/-!
# Reading makefiles

A reader for the rules and the commands of makefiles. A line that ends with a backslash goes on
in the next one; a line that does not start with a tab and has a colon is a rule. What a text is
read as is put together from what its lines are read as (`Reads`).
-/

namespace SolutionScript.Makefile

open Text

/-- A rule: what it makes, and what has to be there before. -/
structure Rule where
  target : String
  prerequisites : List String
  deriving DecidableEq, Repr

/-! ## The reader -/

/-- A text with lines joined where one ends with a backslash. -/
def joined : List Char → List Char
  | '\\' :: '\n' :: rest => joined rest
  | c :: rest => c :: joined rest
  | [] => []

/-- The lines of a text, joined where one ends with a backslash. -/
def logicalLines (cs : List Char) : List (List Char) := (joined cs).splitOnP (· == '\n')

/-- Whether a character stands between words. -/
def isGap (c : Char) : Bool := c == ' ' || c == '\t'

/-- The words of a line. -/
def words (line : List Char) : List (List Char) := (line.splitOnP isGap).filter (!·.isEmpty)

/-- Whether a line is a command. -/
def isCommand : List Char → Bool
  | '\t' :: _ => true
  | _ => false

/-- The rule that a line is. What follows a number sign is a comment. -/
def readRule? (line : List Char) : Option Rule :=
  if isCommand line then none
  else
    let said := line.takeWhile (· != '#')
    match said.dropWhile (· != ':') with
    | [] => none
    | _ :: after =>
      some ⟨String.ofList (said.takeWhile (· != ':')), (words after).map String.ofList⟩

/-- The rules of a makefile. -/
def rules (s : String) : List Rule := (logicalLines s.toList).filterMap readRule?

/-- The commands of a makefile. -/
def commands (s : String) : List (List Char) := (logicalLines s.toList).filter isCommand

/-! ## Joined lines -/

variable {l rest : List Char}

theorem joined_cons {c : Char} (h : c ≠ '\\' ∨ rest.head? ≠ some '\n') :
    joined (c :: rest) = c :: joined rest := by
  rw [joined]
  intro more hc hrest
  subst hc hrest
  simp at h

/-- Characters are as they are up to a line break. -/
theorem joined_append (hl : '\n' ∉ l) (hrest : rest.head? ≠ some '\n') :
    joined (l ++ rest) = l ++ joined rest := by
  induction l with
  | nil => rfl
  | cons c l ih =>
    rw [List.mem_cons, not_or] at hl
    have hhead : (l ++ rest).head? ≠ some '\n' := by
      cases l with
      | nil => exact hrest
      | cons d l =>
        rw [List.mem_cons, not_or] at hl
        simpa using Ne.symm hl.2.1
    rw [List.cons_append, joined_cons (.inr hhead), ih hl.2, List.cons_append]

/-- A line that is not continued. -/
structure IsWhole (l : List Char) : Prop where
  newline : '\n' ∉ l
  backslash : l.getLast? ≠ some '\\'

theorem IsWhole.append {l' : List Char} (h : IsWhole l) (h' : IsWhole l') : IsWhole (l ++ l') := by
  refine ⟨fun hmem => (List.mem_append.1 hmem).elim h.newline h'.newline, ?_⟩
  cases hend : l'.getLast? with
  | none =>
    rw [List.getLast?_eq_none_iff.1 hend, List.append_nil]
    exact h.backslash
  | some c =>
    rw [List.getLast?_append, hend, Option.some_or, ← hend]
    exact h'.backslash

theorem joined_whole (h : IsWhole l) (rest : List Char) :
    joined (l ++ '\n' :: rest) = l ++ '\n' :: joined rest := by
  rcases List.eq_nil_or_concat' l with rfl | ⟨init, c, rfl⟩
  · rfl
  · have hnewline := h.newline
    rw [List.mem_append, List.mem_singleton, not_or] at hnewline
    have hc : c ≠ '\\' := by simpa using h.backslash
    rw [List.append_assoc, List.singleton_append,
      joined_append hnewline.1 (by simpa using Ne.symm hnewline.2), joined_cons (.inl hc)]
    simp [joined]

theorem splitOnP_newline (hl : '\n' ∉ l) (rest : List Char) :
    (l ++ '\n' :: rest).splitOnP (· == '\n') = l :: rest.splitOnP (· == '\n') := by
  have hnone : ∀ c ∈ l, (c == '\n') = false := fun c hc => by
    simpa using fun h : c = '\n' => hl (h ▸ hc)
  rw [List.splitOnP_append_cons l rest (by rfl), List.splitOnP_eq_singleton hnone,
    List.singleton_append]

theorem logicalLines_whole (h : IsWhole l) (rest : List Char) :
    logicalLines (l ++ '\n' :: rest) = l :: logicalLines rest := by
  rw [logicalLines, joined_whole h, splitOnP_newline h.newline]
  rfl

/-! ## Continued lines -/

/-- What continues a line. -/
def lineContinuation : List Char := " \\\n\t".toList

/-- What stands in place of it once lines are joined. -/
def wordGap : List Char := " \t".toList

/-- A list with a separator after each part that stands before others. -/
theorem intercalate_append_cons (sep : List Char) (parts : List (List Char)) (next : List Char)
    (more : List (List Char)) :
    sep.intercalate (parts ++ next :: more) =
      parts.flatMap (· ++ sep) ++ sep.intercalate (next :: more) := by
  induction parts with
  | nil => rfl
  | cons part parts ih =>
    rw [List.cons_append, List.flatMap_cons, List.append_assoc, ← ih]
    cases parts <;> simp

/-- A list with a separator after each but the last part. -/
theorem intercalate_concat (sep : List Char) (parts : List (List Char)) (last : List Char) :
    sep.intercalate (parts ++ [last]) = parts.flatMap (· ++ sep) ++ last := by
  rw [intercalate_append_cons, List.intercalate_singleton]

/-- What stands before the first part is part of it. -/
theorem intercalate_head (sep head first : List Char) (more : List (List Char)) :
    sep.intercalate ((head ++ first) :: more) = head ++ sep.intercalate (first :: more) := by
  cases more <;> simp

theorem mem_of_mem_intercalate {sep : List Char} {parts : List (List Char)} {c : Char}
    (h : c ∈ sep.intercalate parts) : c ∈ sep ∨ ∃ part ∈ parts, c ∈ part := by
  rcases List.eq_nil_or_concat' parts with rfl | ⟨parts, last, rfl⟩
  · simp at h
  · rw [intercalate_concat, List.mem_append, List.mem_flatMap] at h
    rcases h with ⟨part, hpart, hc⟩ | hc
    · rcases List.mem_append.1 hc with hc | hc
      · exact .inr ⟨part, List.mem_append_left _ hpart, hc⟩
      · exact .inl hc
    · exact .inr ⟨last, by simp, hc⟩

theorem joined_parts {parts : List (List Char)} (h : ∀ part ∈ parts, '\n' ∉ part)
    (rest : List Char) :
    joined (parts.flatMap (· ++ lineContinuation) ++ rest) =
      parts.flatMap (· ++ wordGap) ++ joined rest := by
  induction parts with
  | nil => rfl
  | cons part parts ih =>
    rw [List.forall_mem_cons] at h
    have hgap : ∀ more, joined (lineContinuation ++ more) = wordGap ++ joined more := fun more => by
      simp [lineContinuation, wordGap, joined]
    rw [List.flatMap_cons, List.flatMap_cons, List.append_assoc, List.append_assoc,
      joined_append h.1 (by simp [lineContinuation]), hgap, ih h.2]
    simp only [List.append_assoc]

/-- A line of several pieces that is not continued after the last one. -/
theorem logicalLines_pieces {pieces : List (List Char)} {last : List Char}
    (h : ∀ piece ∈ pieces, '\n' ∉ piece) (hlast : IsWhole last) (rest : List Char) :
    logicalLines (lineContinuation.intercalate (pieces ++ [last]) ++ '\n' :: rest) =
      wordGap.intercalate (pieces ++ [last]) :: logicalLines rest := by
  have hnewline : '\n' ∉ pieces.flatMap (· ++ wordGap) ++ last := by
    simp only [List.mem_append, List.mem_flatMap, not_or, not_exists, not_and]
    exact ⟨fun piece hpiece => ⟨h piece hpiece, by decide⟩, hlast.newline⟩
  rw [intercalate_concat, intercalate_concat, List.append_assoc, logicalLines, joined_parts h,
    joined_whole hlast, ← List.append_assoc, splitOnP_newline hnewline, logicalLines]

/-- A line of several pieces that ends with a backslash goes on in the empty line after it. -/
theorem logicalLines_pieces_backslash {pieces : List (List Char)} {last : List Char}
    (h : ∀ piece ∈ pieces, '\n' ∉ piece) (hlast : '\n' ∉ last) (rest : List Char) :
    logicalLines
        (lineContinuation.intercalate (pieces ++ [last ++ ['\\']]) ++ '\n' :: '\n' :: rest) =
      wordGap.intercalate (pieces ++ [last]) :: logicalLines rest := by
  have hnewline : '\n' ∉ pieces.flatMap (· ++ wordGap) ++ last := by
    simp only [List.mem_append, List.mem_flatMap, not_or, not_exists, not_and]
    exact ⟨fun piece hpiece => ⟨h piece hpiece, by decide⟩, hlast⟩
  have hswallow : joined ('\\' :: '\n' :: '\n' :: rest) = '\n' :: joined rest := by
    simp [joined]
  rw [intercalate_concat, intercalate_concat, List.append_assoc, logicalLines, joined_parts h,
    List.append_assoc, List.singleton_append, joined_append hlast (by simp), hswallow,
    ← List.append_assoc, splitOnP_newline hnewline, logicalLines]

/-- Lines are joined to others, whatever stands after them. -/
def Joins (lines : List String) (ls : List (List Char)) : Prop :=
  ∀ rest, logicalLines (withEnds ['\n'] lines ++ rest) = ls ++ logicalLines rest

theorem Joins.append {lines more : List String} {ls ls' : List (List Char)} (h : Joins lines ls)
    (h' : Joins more ls') : Joins (lines ++ more) (ls ++ ls') := by
  intro rest
  rw [withEnds_append, List.append_assoc, h, h', List.append_assoc]

theorem joins_line {s : String} (h : IsWhole s.toList) : Joins [s] [s.toList] := by
  intro rest
  rw [List.singleton_append, withEnds_singleton, List.append_assoc, List.singleton_append,
    logicalLines_whole h]

/-- A line of several pieces, each of which could end it. -/
theorem joins_pieces {pieces : List String} (hne : pieces ≠ [])
    (h : ∀ s ∈ pieces, IsWhole s.toList) :
    Joins [join " \\\n\t" pieces] [wordGap.intercalate (pieces.map String.toList)] := by
  intro rest
  obtain ⟨init, last, rfl⟩ := (List.eq_nil_or_concat' pieces).resolve_left hne
  have htext : withEnds ['\n'] [join " \\\n\t" (init ++ [last])] ++ rest =
      lineContinuation.intercalate (init.map String.toList ++ [last.toList]) ++ '\n' :: rest := by
    simp [withEnds_singleton, join, String.toList_intercalate, lineContinuation]
  rw [htext, logicalLines_pieces _ (h last (by simp)), List.singleton_append, List.map_append,
    List.map_singleton]
  rw [List.forall_mem_map]
  exact fun s hs => (h s (List.mem_append_left _ hs)).newline

/-- What stands before several pieces is part of the first one. -/
theorem append_join (head sep first : String) (more : List String) :
    head ++ join sep (first :: more) = join sep ((head ++ first) :: more) := by
  rw [← String.toList_inj, String.toList_append, join, join, String.toList_intercalate,
    String.toList_intercalate, List.map_cons, List.map_cons, String.toList_append, intercalate_head]

/-! ## Words -/

theorem words_append {c : Char} (hc : isGap c = true) (l rest : List Char) :
    words (l ++ c :: rest) = words l ++ words rest := by
  rw [words, List.splitOnP_append_cons l rest hc, List.filter_append]
  rfl

theorem words_nil : words [] = [] := rfl

/-- A text that is one word. -/
structure IsWord (w : List Char) : Prop where
  ne_nil : w ≠ []
  gap : ∀ c ∈ w, isGap c = false

theorem words_word {w : List Char} (h : IsWord w) : words w = [w] := by
  rw [words, List.splitOnP_eq_singleton h.gap]
  simpa using h.ne_nil

theorem words_parts (parts : List (List Char)) (rest : List Char) :
    words (parts.flatMap (· ++ wordGap) ++ rest) = parts.flatMap words ++ words rest := by
  induction parts with
  | nil => rfl
  | cons part parts ih =>
    have hgap : part ++ wordGap ++ (parts.flatMap (· ++ wordGap) ++ rest) =
        part ++ ' ' :: ([] ++ '\t' :: (parts.flatMap (· ++ wordGap) ++ rest)) := by
      simp [wordGap]
    rw [List.flatMap_cons, List.flatMap_cons, List.append_assoc, hgap, words_append rfl,
      words_append rfl, ih, words_nil, List.nil_append, List.append_assoc]

theorem words_intercalate (parts : List (List Char)) :
    words (wordGap.intercalate parts) = parts.flatMap words := by
  rcases List.eq_nil_or_concat' parts with rfl | ⟨parts, last, rfl⟩
  · rfl
  · rw [intercalate_concat, words_parts, List.flatMap_append, List.flatMap_singleton]

theorem mem_words_intercalate {parts : List (List Char)} {w : List Char} (hw : IsWord w)
    (h : w ∈ parts) : w ∈ words (wordGap.intercalate parts) := by
  rw [words_intercalate, List.mem_flatMap]
  exact ⟨w, h, by rw [words_word hw]; exact List.mem_cons_self⟩

theorem flatMap_words {ws : List (List Char)} (h : ∀ w ∈ ws, IsWord w) : ws.flatMap words = ws := by
  induction ws with
  | nil => rfl
  | cons w ws ih =>
    rw [List.forall_mem_cons] at h
    rw [List.flatMap_cons, words_word h.1, ih h.2, List.singleton_append]

/-! ## Texts made of lines -/

/-- Lines are read as rules, and have words in their commands. -/
def Reads (lines : List String) (rs : List Rule) (ws : List (List Char)) : Prop :=
  ∃ ls, (∀ rest, logicalLines (withEnds ['\n'] lines ++ rest) = ls ++ logicalLines rest) ∧
    ls.filterMap readRule? = rs ∧ ∀ w ∈ ws, ∃ line ∈ ls, isCommand line = true ∧ w ∈ words line

section

variable {lines more : List String} {rs rs' : List Rule} {ws ws' : List (List Char)}

theorem reads_nil : Reads [] [] [] := ⟨[], fun _ => rfl, rfl, by simp⟩

theorem Reads.append (h : Reads lines rs ws) (h' : Reads more rs' ws') :
    Reads (lines ++ more) (rs ++ rs') (ws ++ ws') := by
  obtain ⟨ls, hls, rfl, hws⟩ := h
  obtain ⟨ls', hls', rfl, hws'⟩ := h'
  refine ⟨ls ++ ls', Joins.append hls hls', List.filterMap_append, fun w hw => ?_⟩
  rcases List.mem_append.1 hw with hw | hw
  · obtain ⟨line, hline, h⟩ := hws w hw
    exact ⟨line, List.mem_append_left _ hline, h⟩
  · obtain ⟨line, hline, h⟩ := hws' w hw
    exact ⟨line, List.mem_append_right _ hline, h⟩

theorem Reads.flatMap {α : Type} {l : List α} {f : α → List String} {g : α → List Rule}
    {h : α → List (List Char)} (hreads : ∀ a ∈ l, Reads (f a) (g a) (h a)) :
    Reads (l.flatMap f) (l.flatMap g) (l.flatMap h) := by
  induction l with
  | nil => exact reads_nil
  | cons a l ih =>
    rw [List.forall_mem_cons] at hreads
    exact hreads.1.append (ih hreads.2)

/-- Lines that are joined to one line. -/
theorem reads_joined {line : List Char}
    (h : Joins lines [line])
    (hws : ∀ w ∈ ws, isCommand line = true ∧ w ∈ words line) :
    Reads lines (readRule? line).toList ws := by
  refine ⟨[line], h, ?_, fun w hw => ⟨line, List.mem_cons_self, hws w hw⟩⟩
  rw [List.filterMap_cons]
  cases readRule? line <;> rfl

/-- A line that is not continued. -/
theorem reads_whole {s : String} (h : IsWhole s.toList) :
    Reads [s] (readRule? s.toList).toList [] :=
  reads_joined (joins_line h) (by simp)

theorem reads_blank : Reads [""] [] [] := reads_whole ⟨by simp, by simp⟩

theorem exists_eq_of_isCommand (h : isCommand l = true) : ∃ cs, l = '\t' :: cs := by
  unfold isCommand at h
  split at h
  · exact ⟨_, rfl⟩
  · cases h

/-- Lines after a tab are no rules. -/
theorem reads_commands (h : ∀ s ∈ lines, IsWhole s.toList ∧ isCommand s.toList = true) :
    Reads lines [] [] := by
  induction lines with
  | nil => exact reads_nil
  | cons s lines ih =>
    rw [List.forall_mem_cons] at h
    have hs := reads_whole h.1.1
    rw [readRule?, if_pos h.1.2] at hs
    exact hs.append (ih h.2)

/-- A path that a makefile has as it is. -/
structure IsPath (s : String) : Prop where
  ne_nil : s.toList ≠ []
  chars : ∀ c ∈ s.toList, isGap c = false ∧ c ≠ '\n' ∧ c ≠ '#'
  backslash : s.toList.getLast? ≠ some '\\'

theorem IsPath.isWord {s : String} (h : IsPath s) : IsWord s.toList :=
  ⟨h.ne_nil, fun c hc => (h.chars c hc).1⟩

theorem IsPath.isWhole {s : String} (h : IsPath s) : IsWhole s.toList :=
  ⟨fun hc => (h.chars _ hc).2.1 rfl, h.backslash⟩

/-- What stands behind the colon of a rule once its lines are joined. -/
def afterColon (parts : List String) : List Char :=
  if parts.isEmpty then [] else ' ' :: wordGap.intercalate (parts.map String.toList)

/-- The lines of a rule are joined to one line. -/
theorem joins_rule {target : String} {parts : List String} (htarget : IsWhole target.toList)
    (hparts : ∀ s ∈ parts, IsWhole s.toList) :
    Joins [target ++ ":" ++ if parts.isEmpty then "" else " " ++ join " \\\n\t" parts]
      [target.toList ++ ':' :: afterColon parts] := by
  have hcolon : IsWhole (target ++ ":").toList := by
    rw [String.toList_append]
    exact htarget.append ⟨by decide, by decide⟩
  cases parts with
  | nil =>
    have hjoined := joins_pieces (List.cons_ne_nil (target ++ ":") [])
      (List.forall_mem_singleton.2 hcolon)
    simpa [join, afterColon] using hjoined
  | cons first more =>
    rw [List.forall_mem_cons] at hparts
    -- The target stands in one piece with the first part.
    have hfirst : IsWhole (target ++ ":" ++ (" " ++ first)).toList := by
      rw [String.toList_append, @String.toList_append " "]
      exact hcolon.append (IsWhole.append ⟨by decide, by decide⟩ hparts.1)
    have hjoined := joins_pieces (List.cons_ne_nil _ more)
      (List.forall_mem_cons.2 ⟨hfirst, hparts.2⟩)
    rw [← append_join, ← append_join] at hjoined
    simpa [afterColon, intercalate_head] using hjoined

theorem words_afterColon {parts : List String} (h : ∀ s ∈ parts, IsPath s) :
    (words ((afterColon parts).takeWhile (· != '#'))).map String.ofList = parts := by
  have hcomment : ∀ c ∈ afterColon parts, (c != '#') = true := by
    intro c hmem
    rw [bne_iff_ne]
    rintro rfl
    rw [afterColon] at hmem
    split at hmem
    · cases hmem
    · rcases List.mem_cons.1 hmem with hmem | hmem
      · exact absurd hmem (by decide)
      · rcases mem_of_mem_intercalate hmem with hgap | ⟨part, hpart, hmem⟩
        · exact absurd hgap (by decide)
        · obtain ⟨s, hs, rfl⟩ := List.mem_map.1 hpart
          exact ((h s hs).chars _ hmem).2.2 rfl
  rw [List.takeWhile_eq_self_iff.2 hcomment, afterColon]
  split
  · rename_i hempty
    rw [List.isEmpty_iff.1 hempty]
    rfl
  · rw [← List.nil_append (' ' :: _), words_append rfl, words_nil, words_intercalate,
      flatMap_words (List.forall_mem_map.2 fun s hs => (h s hs).isWord), List.nil_append,
      List.map_map]
    simp [Function.comp_def]

section

variable {target : String} (htarget : IsPath target) (hcolon : ':' ∉ target.toList)
include htarget hcolon

/-- A line that starts with a target. -/
theorem readRule?_target (after : List Char) :
    readRule? (target.toList ++ ':' :: after) =
      some ⟨target, (words (after.takeWhile (· != '#'))).map String.ofList⟩ := by
  have hcommand : isCommand (target.toList ++ ':' :: after) = false := by
    obtain ⟨c, more, hcons⟩ := List.exists_cons_of_ne_nil htarget.ne_nil
    have hc : c ≠ '\t' := by
      rintro rfl
      have hgap := (htarget.chars '\t' (by simp [hcons])).1
      exact absurd hgap (by decide)
    rw [hcons, List.cons_append, isCommand]
    rintro _ ⟨⟩
    exact hc rfl
  have hplain : ∀ c ∈ target.toList, (c != '#') = true := fun c hc => by
    simpa using (htarget.chars c hc).2.2
  have hsaid : (target.toList ++ ':' :: after).takeWhile (· != '#') =
      target.toList ++ ':' :: after.takeWhile (· != '#') := by
    rw [List.takeWhile_append_of_pos hplain, List.takeWhile_cons_of_pos (by decide)]
  have hrun : ∀ c ∈ target.toList, (c != ':') = true := fun c hc => by
    simpa using fun h : c = ':' => hcolon (h ▸ hc)
  have hstop : StopsAt (· != ':') (':' :: after.takeWhile (· != '#')) := stopsAt_cons.2 (by decide)
  rw [readRule?, if_neg (by simp [hcommand])]
  simp only [hsaid, dropWhile_run hrun hstop, takeWhile_run hrun hstop, String.ofList_toList]

/-- A rule on one line or on several ones. -/
theorem reads_rule {parts : List String} (hparts : ∀ s ∈ parts, IsPath s) :
    Reads [target ++ ":" ++ if parts.isEmpty then "" else " " ++ join " \\\n\t" parts]
      [⟨target, parts⟩] [] := by
  have hreads := @reads_joined _ [] _ (joins_rule htarget.isWhole fun s hs =>
    (hparts s hs).isWhole) (by simp)
  rwa [readRule?_target htarget hcolon, words_afterColon hparts] at hreads

end

/-- A command on several lines, before an empty line. -/
theorem reads_command {first last : String} {middle : List String}
    (hfirst : isCommand first.toList = true)
    (hnewline : ∀ piece ∈ first :: (middle ++ [last]), '\n' ∉ piece.toList) {ws : List String}
    (hws : ∀ w ∈ ws, w ∈ middle ++ [last] ∧ IsPath w) :
    Reads [join " \\\n\t" (first :: (middle ++ [last])), ""] [] (ws.map String.toList) := by
  have hpieces : ∀ piece ∈ first.toList :: middle.map String.toList, '\n' ∉ piece := by
    rw [List.forall_mem_cons, List.forall_mem_map]
    exact ⟨hnewline first (by simp), fun s hs => hnewline s (by simp [hs])⟩
  have htext : withEnds ['\n'] [join " \\\n\t" (first :: (middle ++ [last]))] =
      lineContinuation.intercalate ((first.toList :: middle.map String.toList) ++ [last.toList]) ++
        ['\n'] := by
    simp [withEnds_singleton, join, String.toList_intercalate, lineContinuation]
  obtain ⟨cs, hcons⟩ := exists_eq_of_isCommand hfirst
  have hcommand : ∀ tail, isCommand (wordGap.intercalate
      ((first.toList :: middle.map String.toList) ++ [tail])) = true := by
    intro tail
    rw [intercalate_concat, List.flatMap_cons, hcons]
    rfl
  have hnone : ∀ tail, readRule? (wordGap.intercalate
      ((first.toList :: middle.map String.toList) ++ [tail])) = none := fun tail => by
    rw [readRule?, if_pos (hcommand tail)]
  by_cases hlast : last.toList.getLast? = some '\\'
  · -- The backslash is not part of the last word, which is therefore no path.
    obtain ⟨init, hinit⟩ := List.getLast?_eq_some_iff.1 hlast
    have hnew : '\n' ∉ init := fun h => hnewline last (by simp) (by simp [hinit, h])
    have hblank := withEnds_append ['\n'] [join " \\\n\t" (first :: (middle ++ [last]))] [""]
    rw [List.singleton_append] at hblank
    have hjoined : ∀ rest, logicalLines
        (withEnds ['\n'] [join " \\\n\t" (first :: (middle ++ [last])), ""] ++ rest) =
        wordGap.intercalate ((first.toList :: middle.map String.toList) ++ [init]) ::
          logicalLines rest := fun rest => by
      rw [hblank, htext, hinit, List.append_assoc, List.append_assoc]
      exact logicalLines_pieces_backslash hpieces hnew rest
    have hreads := reads_joined hjoined (List.forall_mem_map.2 fun s hs => by
      obtain ⟨hmem, hpath⟩ := hws s hs
      have hmiddle : s ∈ middle := by
        rcases List.mem_append.1 hmem with hmem | hmem
        · exact hmem
        · rw [List.mem_singleton.1 hmem] at hpath
          exact absurd hlast hpath.backslash
      exact ⟨hcommand init, mem_words_intercalate hpath.isWord
        (by simp [List.mem_map_of_mem hmiddle])⟩)
    rwa [hnone] at hreads
  · have hjoined : ∀ rest, logicalLines
        (withEnds ['\n'] [join " \\\n\t" (first :: (middle ++ [last]))] ++ rest) =
        wordGap.intercalate ((first.toList :: middle.map String.toList) ++ [last.toList]) ::
          logicalLines rest := fun rest => by
      rw [htext, List.append_assoc, List.singleton_append]
      exact logicalLines_pieces hpieces ⟨hnewline last (by simp), hlast⟩ rest
    have hreads := reads_joined hjoined (List.forall_mem_map.2 fun s hs => by
      obtain ⟨hmem, hpath⟩ := hws s hs
      have hin : s.toList ∈ (first :: (middle ++ [last])).map String.toList :=
        List.mem_map_of_mem (List.mem_cons_of_mem _ hmem)
      exact ⟨hcommand _, mem_words_intercalate hpath.isWord (by simpa using hin)⟩)
    have hblank := hreads.append reads_blank
    rw [hnone, List.append_nil, List.append_nil] at hblank
    exact hblank

/-- What a makefile of some lines is read as. -/
theorem Reads.rules_eq (h : Reads lines rs ws) :
    rules (String.ofList (withEnds ['\n'] lines)) = rs := by
  obtain ⟨ls, hls, rfl, -⟩ := h
  have hlines := hls []
  rw [List.append_nil] at hlines
  rw [rules, String.toList_ofList, hlines, List.filterMap_append]
  exact List.append_nil _

theorem Reads.mem_commands (h : Reads lines rs ws) {w : List Char} (hw : w ∈ ws) :
    ∃ line ∈ commands (String.ofList (withEnds ['\n'] lines)), w ∈ words line := by
  obtain ⟨ls, hls, -, hws⟩ := h
  obtain ⟨line, hline, hcommand, hmem⟩ := hws w hw
  have hlines := hls []
  rw [List.append_nil] at hlines
  refine ⟨line, ?_, hmem⟩
  rw [commands, String.toList_ofList, hlines]
  exact List.mem_filter.2 ⟨List.mem_append_left _ hline, hcommand⟩

end

end SolutionScript.Makefile
