import SolutionScript.Proofs.Keyed
import SolutionScript.Proofs.Script.NMake

/-!
# Macros of makefiles

The block of macros at the start of an NMAKE script, read with the rule by which a line that ends
with a backslash goes on in the next one. A macro has a line of its own, with its value, if and
only if neither its value nor that of the macro before it ends with a backslash
(`filter_reading`); so the block is read as it is written if and only if no value does
(`macros_read`).
-/

namespace SolutionScript

open Text

namespace Makefile

/-! ## Lines that go on -/

/-- What lines are read as, when one that ends with a backslash goes on in the next. -/
def continued : List (List Char) → List (List Char)
  | [] => []
  | line :: lines =>
    if line.getLast? = some '\\' then
      match continued lines with
      | [] => [line.dropLast]
      | next :: more => (line.dropLast ++ next) :: more
    else line :: continued lines

variable {line : List Char} {lines : List (List Char)}

theorem continued_whole (h : line.getLast? ≠ some '\\') :
    continued (line :: lines) = line :: continued lines := by
  rw [continued, if_neg h]

/-- A line that goes on takes up what the next one is read as. -/
theorem continued_backslash (h : line.getLast? = some '\\') {next : List Char}
    {more : List (List Char)} (hlines : continued lines = next :: more) :
    continued (line :: lines) = (line.dropLast ++ next) :: more := by
  rw [continued, if_pos h, hlines]

theorem length_continued_le (lines : List (List Char)) :
    (continued lines).length ≤ lines.length := by
  induction lines with
  | nil => exact Nat.le_refl _
  | cons line lines ih =>
    rw [continued]
    split
    · split
      · simp
      · rename_i hlines
        rw [hlines] at ih
        simpa using Nat.le_succ_of_le ih
    · simpa using ih

theorem exists_continued (h : lines ≠ []) : ∃ next more, continued lines = next :: more := by
  obtain ⟨line, lines, rfl⟩ := List.exists_cons_of_ne_nil h
  rw [continued]
  split
  · split <;> exact ⟨_, _, rfl⟩
  · exact ⟨_, _, rfl⟩

/-- Lines before a blank one are read as they are if and only if none goes on. -/
theorem continued_eq_self_iff :
    continued (lines ++ [[]]) = lines ++ [[]] ↔ ∀ line ∈ lines, line.getLast? ≠ some '\\' := by
  induction lines with
  | nil => simp [continued]
  | cons line lines ih =>
    rw [List.cons_append, List.forall_mem_cons]
    by_cases h : line.getLast? = some '\\'
    · refine iff_of_false (fun heq => ?_) fun hall => hall.1 h
      obtain ⟨next, more, hlines⟩ := exists_continued (List.concat_ne_nil [] lines)
      have hle := length_continued_le (lines ++ [[]])
      have hlength := congrArg List.length heq
      rw [continued_backslash h hlines] at hlength
      rw [hlines] at hle
      simp only [List.length_cons] at hlength hle
      omega
    · rw [continued_whole h, List.cons.injEq, ih]
      simp [h]

/-! ## Texts that go on -/

theorem splitOnP_append_of_not_mem {first : List Char} (h : '\n' ∉ first) {cs next : List Char}
    {more : List (List Char)} (hcs : cs.splitOnP (· == '\n') = next :: more) :
    (first ++ cs).splitOnP (· == '\n') = (first ++ next) :: more := by
  induction first with
  | nil => exact hcs
  | cons c first ih =>
    rw [List.mem_cons, not_or] at h
    rw [List.cons_append, List.splitOnP_cons_eq_if_modifyHead, if_neg (by simpa using Ne.symm h.1),
      ih h.2]
    rfl

/-- A line that ends with a backslash takes up the first line of what follows. -/
theorem logicalLines_backslash (h : line.getLast? = some '\\') (hnewline : '\n' ∉ line)
    {rest next : List Char} {more : List (List Char)} (hrest : logicalLines rest = next :: more) :
    logicalLines (line ++ '\n' :: rest) = (line.dropLast ++ next) :: more := by
  obtain ⟨init, rfl⟩ := List.getLast?_eq_some_iff.1 h
  have hinit : '\n' ∉ init := fun hmem => hnewline (List.mem_append_left _ hmem)
  have hjoined : joined (init ++ ['\\'] ++ '\n' :: rest) = init ++ joined rest := by
    rw [List.append_assoc, List.singleton_append, joined_append hinit (by simp), joined]
  rw [logicalLines, hjoined, List.dropLast_concat]
  exact splitOnP_append_of_not_mem hinit hrest

/-- Lines before a blank one are read by themselves, whatever follows. -/
theorem logicalLines_continued {lines : List String} (h : ∀ line ∈ lines, '\n' ∉ line.toList)
    (rest : List Char) :
    logicalLines (withEnds ['\n'] (lines ++ [""]) ++ rest) =
      continued (lines.map String.toList ++ [[]]) ++ logicalLines rest := by
  induction lines with
  | nil => exact @logicalLines_whole [] ⟨by simp, by simp⟩ rest
  | cons line lines ih =>
    rw [List.forall_mem_cons] at h
    have htext : withEnds ['\n'] (line :: lines ++ [""]) ++ rest =
        line.toList ++ '\n' :: (withEnds ['\n'] (lines ++ [""]) ++ rest) := by
      simp [withEnds]
    rw [htext, List.map_cons, List.cons_append]
    by_cases hend : line.toList.getLast? = some '\\'
    · obtain ⟨next, more, hlines⟩ :=
        exists_continued (List.concat_ne_nil [] (lines.map String.toList))
      have hrest := ih h.2
      rw [hlines, List.cons_append] at hrest
      rw [logicalLines_backslash hend h.1 hrest, continued_backslash hend hlines, List.cons_append]
    · rw [logicalLines_whole ⟨h.1, hend⟩, ih h.2, continued_whole hend, List.cons_append]

/-- A line end stays where no backslash stands before it. -/
theorem joined_append_newline {cs : List Char} (h : cs.getLast? ≠ some '\\') (rest : List Char) :
    joined (cs ++ '\n' :: rest) = joined cs ++ '\n' :: joined rest := by
  fun_induction joined cs with
  | case1 more ih =>
    rw [List.cons_append, List.cons_append, joined]
    refine ih ?_
    cases more with
    | nil => simp
    | cons c more => simpa using h
  | case2 c more hpair ih =>
    cases more with
    | nil =>
      have hc : c ≠ '\\' := by simpa using h
      simp [joined_cons (.inl hc), joined]
    | cons d more =>
      have hhead : c ≠ '\\' ∨ (d :: more ++ '\n' :: rest).head? ≠ some '\n' := by
        by_contra hboth
        simp only [not_or, not_not, List.cons_append, List.head?_cons, Option.some.injEq] at hboth
        obtain ⟨rfl, rfl⟩ := hboth
        exact hpair more rfl rfl
      rw [List.cons_append, joined_cons hhead, ih (by simpa using h), List.cons_append]
  | case3 => simp [joined]

/-- A text that does not end with a backslash is read by itself. -/
theorem joins_text {s : String} (h : s.toList.getLast? ≠ some '\\') :
    Joins [s] (logicalLines s.toList) := by
  intro rest
  rw [withEnds_singleton, List.append_assoc, List.singleton_append, logicalLines,
    joined_append_newline h, List.splitOnP_append_cons _ _ (by rfl)]
  rfl

end Makefile

namespace NMake

open Makefile

variable {m : Parameters} {ms earlier later : Keyed String} {name value : String}
  {x : String × String}

/-! ## The macros of a script -/

/-- The macros that every script has, unless a parameter replaces their values. -/
def usualMacros : Keyed String :=
  [("CSC", "csc"), ("VBC", "vbc"), ("RESGEN", "resgen"), ("BUILD_BASEDIR", "bin")]

theorem macros_eq (m : Parameters) :
    macros m = m.foldl (fun done x => done.put (macroName x.1) x.2.shown) usualMacros := by
  have husual : Keyed.ofList ([("csc", "csc"), ("vbc", "vbc"), ("resgen", "resgen"),
      (Parameters.baseDirectory, "bin")].map fun x => (macroName x.1, x.2)) = usualMacros := by
    decide
  exact congrArg (m.foldl fun done x => done.put (macroName x.1) x.2.shown) husual

/-- A macro is one of the usual ones, or for a parameter. -/
theorem mem_macros (h : x ∈ macros m) :
    x ∈ usualMacros ∨ ∃ y ∈ m, x = (macroName y.1, y.2.shown) := by
  rw [macros_eq] at h
  generalize usualMacros = done at h ⊢
  induction m generalizing done with
  | nil => exact .inl h
  | cons y m ih =>
    rcases ih _ h with h | ⟨z, hz, rfl⟩
    · rcases Keyed.mem_put h with rfl | h
      · exact .inr ⟨y, List.mem_cons_self, rfl⟩
      · exact .inl h
    · exact .inr ⟨z, List.mem_cons_of_mem _ hz, rfl⟩

theorem nodup_keys_macros (m : Parameters) : (macros m).keys.Nodup := by
  have husual : usualMacros.keys.Nodup := by decide
  rw [macros_eq]
  generalize usualMacros = done at husual ⊢
  induction m generalizing done with
  | nil => exact husual
  | cons y m ih => exact ih _ (Keyed.nodup_keys_put husual _ _)

theorem isAlphanum_eq (c : Char) : c.isAlphanum = (c.isUpper || c.isLower || c.isDigit) := rfl

/-- The capital form of a letter or digit is a capital or a digit. -/
theorem toUpper_of_isAlphanum {c : Char} (h : c.isAlphanum = true) :
    c.toUpper.isUpper = true ∨ c.toUpper.isDigit = true := by
  by_cases hlower : c.val ≥ 'a'.val ∧ c.val ≤ 'z'.val
  · have hle : 97 ≤ c.toNat := UInt32.le_iff_toNat_le.1 hlower.1
    have hge : c.toNat ≤ 122 := UInt32.le_iff_toNat_le.1 hlower.2
    have hcapital : ∀ n < 26, (Char.ofNat (97 + n)).toUpper.isUpper = true := by decide
    have hc := hcapital (c.toNat - 97) (by omega)
    rw [Nat.add_sub_cancel' hle, Char.ofNat_toNat] at hc
    exact .inl hc
  · have hsame : c.toUpper = c := dif_neg hlower
    have hsmall : c.isLower = false := by
      have hrange : c.isLower = (decide (c.val ≥ 'a'.val) && decide (c.val ≤ 'z'.val)) := rfl
      rw [hrange, ← Bool.decide_and, decide_eq_false hlower]
    rwa [isAlphanum_eq, hsmall, Bool.or_false, Bool.or_eq_true, ← hsame] at h

theorem isAlphanum_macroChar (c : Char) :
    (macroChar c).isAlphanum = true ∨ macroChar c = '_' := by
  rw [macroChar]
  split
  · rename_i halnum
    left
    rcases toUpper_of_isAlphanum halnum with hupper | hdigit
    · rw [isAlphanum_eq, hupper, Bool.true_or, Bool.true_or]
    · rw [isAlphanum_eq, hdigit, Bool.or_true]
  · exact .inr rfl

theorem not_mem_macroName {c : Char} (h : c.isAlphanum = false) (hc : c ≠ '_')
    (parameter : String) : c ∉ (macroName parameter).toList := by
  rw [macroName, String.toList_ofList, List.mem_map]
  rintro ⟨d, -, rfl⟩
  exact (isAlphanum_macroChar d).elim (fun halnum => Bool.false_ne_true (h.symm.trans halnum)) hc

/-- The name of a macro has no spaces and no line breaks. -/
theorem not_mem_of_mem_macros (h : x ∈ macros m) : ' ' ∉ x.1.toList ∧ '\n' ∉ x.1.toList := by
  rcases mem_macros h with h | ⟨y, -, rfl⟩
  · exact (by decide : ∀ x ∈ usualMacros, ' ' ∉ x.1.toList ∧ '\n' ∉ x.1.toList) x h
  · exact ⟨not_mem_macroName (by decide) (by decide) y.1,
      not_mem_macroName (by decide) (by decide) y.1⟩

/-- The value of a macro has no line breaks where no parameter has any. -/
theorem not_mem_newline_of_mem_macros (hvalues : ∀ x ∈ m, '\n' ∉ x.2.shown.toList)
    (h : x ∈ macros m) : '\n' ∉ x.2.toList := by
  rcases mem_macros h with h | ⟨y, hy, rfl⟩
  · exact (by decide : ∀ x ∈ usualMacros, '\n' ∉ x.2.toList) x h
  · exact hvalues y hy

/-! ## Lines that define macros -/

/-- The line that defines a macro. -/
def macroLine (x : String × String) : List Char := (x.1 ++ " = " ++ x.2).toList

/-- Whether a line defines the macro with a name. -/
def isDefinition (name : String) (line : List Char) : Bool := (name ++ " = ").toList.isPrefixOf line

theorem map_toList_macroLines (m : Parameters) :
    (macroLines m).map String.toList = (macros m).map macroLine := by
  rw [macroLines, List.map_map]
  rfl

theorem isDefinition_iff {line : List Char} :
    isDefinition name line = true ↔ ∃ rest, line = name.toList ++ ' ' :: '=' :: ' ' :: rest := by
  rw [isDefinition, List.isPrefixOf_iff_prefix]
  simp [List.IsPrefix, eq_comm]

theorem isDefinition_macroLine (x : String × String) : isDefinition x.1 (macroLine x) = true :=
  isDefinition_iff.2 ⟨x.2.toList, by simp [macroLine]⟩

/-- A line defines one macro only. -/
theorem name_eq_of_isDefinition {name' : String} {line : List Char} (hname : ' ' ∉ name.toList)
    (hname' : ' ' ∉ name'.toList) (h : isDefinition name line = true)
    (h' : isDefinition name' line = true) : name = name' := by
  obtain ⟨rest, rfl⟩ := isDefinition_iff.1 h
  obtain ⟨rest', h'⟩ := isDefinition_iff.1 h'
  have hrun {s : String} (hs : ' ' ∉ s.toList) (rest : List Char) :
      (s.toList ++ ' ' :: rest).takeWhile (· != ' ') = s.toList :=
    takeWhile_run (fun c hc => bne_iff_ne.2 fun heq => hs (heq ▸ hc)) (by simp)
  rw [← String.toList_inj, ← hrun hname, h', hrun hname']

/-- The line of a macro goes on if its value ends with a backslash. -/
theorem getLast?_macroLine (x : String × String) :
    (macroLine x).getLast? = some '\\' ↔ x.2.toList.getLast? = some '\\' := by
  by_cases hvalue : x.2.toList = []
  · simp [macroLine, hvalue]
  · rw [macroLine, getLast?_append hvalue]

/-! ## Reading the block -/

/-- What the lines of macros, and the blank one after them, are read as. -/
def reading (ms : Keyed String) : List (List Char) := continued (ms.map macroLine ++ [[]])

/-- A macro whose value does not end with a backslash is read by itself. -/
theorem reading_cons_whole (h : x.2.toList.getLast? ≠ some '\\') :
    reading (x :: ms) = macroLine x :: reading ms :=
  continued_whole (mt (getLast?_macroLine x).1 h)

/-- A macro whose value ends with a backslash takes up the first line of what follows. -/
theorem reading_cons_backslash (h : x.2.toList.getLast? = some '\\') (ms : Keyed String) :
    ∃ next more, reading ms = next :: more ∧
      reading (x :: ms) = ((macroLine x).dropLast ++ next) :: more := by
  obtain ⟨next, more, hlines⟩ := exists_continued (List.concat_ne_nil [] (ms.map macroLine))
  exact ⟨next, more, hlines, continued_backslash ((getLast?_macroLine x).2 h) hlines⟩

/-- The first line that is read defines the first macro; the others are read of the other macros. -/
theorem exists_reading_cons (x : String × String) (ms : Keyed String) :
    ∃ next more, reading (x :: ms) = next :: more ∧ isDefinition x.1 next = true ∧
      ∀ line ∈ more, line ∈ reading ms := by
  by_cases hend : x.2.toList.getLast? = some '\\'
  · obtain ⟨next, more, hms, hcons⟩ := reading_cons_backslash hend ms
    have hvalue : x.2.toList ≠ [] := fun hnil => by simp [hnil] at hend
    refine ⟨_, _, hcons, isDefinition_iff.2 ⟨x.2.toList.dropLast ++ next, ?_⟩, fun line hline => ?_⟩
    · rw [macroLine, String.toList_append, List.dropLast_append_of_ne_nil hvalue]
      simp
    · rw [hms]
      exact List.mem_cons_of_mem _ hline
  · exact ⟨_, _, reading_cons_whole hend, isDefinition_macroLine x, fun _ => id⟩

/-- A line that is read is blank or defines a macro. -/
theorem mem_reading {line : List Char} (h : line ∈ reading ms) :
    line = [] ∨ ∃ x ∈ ms, isDefinition x.1 line = true := by
  induction ms with
  | nil => exact .inl (by simpa [reading, continued] using h)
  | cons x ms ih =>
    obtain ⟨next, more, hreading, hnext, hmore⟩ := exists_reading_cons x ms
    rw [hreading, List.mem_cons] at h
    rcases h with rfl | h
    · exact .inr ⟨x, List.mem_cons_self, hnext⟩
    · rcases ih (hmore line h) with hblank | ⟨y, hy, hline⟩
      · exact .inl hblank
      · exact .inr ⟨y, List.mem_cons_of_mem _ hy, hline⟩

/-- No line that is read is a backslash alone. -/
theorem backslash_not_mem_reading (ms : Keyed String) : ['\\'] ∉ reading ms := by
  intro h
  rcases mem_reading h with h | ⟨x, -, h⟩
  · cases h
  · obtain ⟨rest, h⟩ := isDefinition_iff.1 h
    have hlength := congrArg List.length h
    simp only [List.length_cons, List.length_nil, List.length_append] at hlength
    omega

/-- Macros that are read of lines for others are not defined. -/
theorem filter_reading_of_not_mem (hname : ' ' ∉ name.toList) (hnames : ∀ x ∈ ms, ' ' ∉ x.1.toList)
    (h : name ∉ ms.keys) {lines : List (List Char)} (hlines : ∀ line ∈ lines, line ∈ reading ms) :
    lines.filter (isDefinition name) = [] := by
  rw [List.filter_eq_nil_iff]
  intro line hline hdefines
  rcases mem_reading (hlines line hline) with rfl | ⟨x, hx, hdefined⟩
  · obtain ⟨rest, h⟩ := isDefinition_iff.1 hdefines
    simp at h
  · have heq := name_eq_of_isDefinition hname (hnames x hx) hdefines hdefined
    exact h (heq ▸ List.mem_map_of_mem hx)

/-- A macro whose line goes on takes up what follows. -/
theorem filter_reading_head (hnames : ∀ x ∈ (name, value) :: ms, ' ' ∉ x.1.toList)
    (h : name ∉ ms.keys) :
    (reading ((name, value) :: ms)).filter (isDefinition name) = [macroLine (name, value)] ↔
      value.toList.getLast? ≠ some '\\' := by
  rw [List.forall_mem_cons] at hnames
  by_cases hend : value.toList.getLast? = some '\\'
  · refine iff_of_false (fun hfilter => ?_) (not_not_intro hend)
    have hmem : macroLine (name, value) ∈ reading ((name, value) :: ms) :=
      List.mem_of_mem_filter (hfilter ▸ List.mem_cons_self)
    obtain ⟨next, more, hreading, hcons⟩ := @reading_cons_backslash (name, value) hend ms
    rw [hcons, List.mem_cons] at hmem
    rcases hmem with hmem | hmem
    · -- Then the next line would be the backslash.
      obtain ⟨init, hinit⟩ :=
        List.getLast?_eq_some_iff.1 ((getLast?_macroLine (name, value)).2 hend)
      rw [hinit, List.dropLast_concat, List.append_cancel_left_eq] at hmem
      refine backslash_not_mem_reading ms ?_
      rw [hreading, hmem]
      exact List.mem_cons_self
    · have hnone : more.filter (isDefinition name) = [] :=
        filter_reading_of_not_mem hnames.1 hnames.2 h
          fun line hline => hreading ▸ List.mem_cons_of_mem _ hline
      exact List.filter_eq_nil_iff.1 hnone _ hmem (isDefinition_macroLine (name, value))
  · have hnone := filter_reading_of_not_mem hnames.1 hnames.2 h fun _ => id
    refine iff_of_true ?_ hend
    rw [reading_cons_whole hend, List.filter_cons_of_pos (isDefinition_macroLine (name, value)),
      hnone]

/-- Macros before others: the last one of them must not take up their line. -/
theorem filter_reading_cons (hname : ' ' ∉ name.toList) (hnames : ∀ y ∈ x :: ms, ' ' ∉ y.1.toList)
    (h : name ≠ x.1) :
    (reading (x :: ms)).filter (isDefinition name) =
      if x.2.toList.getLast? = some '\\' then (reading ms).tail.filter (isDefinition name)
      else (reading ms).filter (isDefinition name) := by
  rw [List.forall_mem_cons] at hnames
  have hother : ∀ line, isDefinition x.1 line = true → ¬ isDefinition name line = true :=
    fun line hx hdefines => h (name_eq_of_isDefinition hname hnames.1 hdefines hx)
  split
  · rename_i hend
    obtain ⟨next, more, hms, hcons⟩ := reading_cons_backslash hend ms
    obtain ⟨first, others, hreading, hfirst, -⟩ := exists_reading_cons x ms
    have hothers : others = more := (List.cons.inj (hreading.symm.trans hcons)).2
    rw [hreading, List.filter_cons_of_neg (hother _ hfirst), hothers, hms, List.tail_cons]
  · rename_i hend
    rw [reading_cons_whole hend, List.filter_cons_of_neg (hother _ (isDefinition_macroLine x))]

/-- A macro has one line, with its value, if and only if neither its value nor that of the macro
before it ends with a backslash. -/
theorem filter_reading (hnames : ∀ x ∈ earlier ++ (name, value) :: later, ' ' ∉ x.1.toList)
    (hnodup : Keyed.keys (earlier ++ (name, value) :: later) |>.Nodup) :
    (reading (earlier ++ (name, value) :: later)).filter (isDefinition name) =
        [macroLine (name, value)] ↔
      value.toList.getLast? ≠ some '\\' ∧
        ∀ x ∈ earlier.getLast?, x.2.toList.getLast? ≠ some '\\' := by
  induction earlier with
  | nil =>
    have hlater : name ∉ later.keys := (List.nodup_cons.1 hnodup).1
    rw [List.nil_append, filter_reading_head hnames hlater]
    simp
  | cons x earlier ih =>
    rw [List.cons_append] at hnames hnodup ⊢
    obtain ⟨hx, hnodup⟩ := List.nodup_cons.1 hnodup
    have hmem : (name, value) ∈ earlier ++ (name, value) :: later := by simp
    have hname : ' ' ∉ name.toList := hnames _ (List.mem_cons_of_mem _ hmem)
    have hne : name ≠ x.1 := fun heq => hx (List.mem_map.2 ⟨_, hmem, heq⟩)
    have hrest := ih (fun y hy => hnames y (List.mem_cons_of_mem _ hy)) hnodup
    rw [filter_reading_cons hname hnames hne]
    cases earlier with
    | nil =>
      by_cases hend : x.2.toList.getLast? = some '\\'
      · -- The line of the macro is taken up; the others are not about it.
        have hlater : name ∉ later.keys := (List.nodup_cons.1 hnodup).1
        obtain ⟨next, more, hreading, -, hmore⟩ := exists_reading_cons (name, value) later
        have hnone := filter_reading_of_not_mem hname
          (fun y hy => hnames y (by simp [hy])) hlater hmore
        rw [List.nil_append, hreading, if_pos hend, List.tail_cons, hnone]
        simp [hend]
      · rw [if_neg hend, hrest]
        simp [hend]
    | cons y earlier =>
      have hy : name ≠ y.1 := fun heq =>
        (List.nodup_cons.1 hnodup).1 (List.mem_map.2 ⟨(name, value), by simp, heq⟩)
      obtain ⟨next, more, hreading, hnext, -⟩ :=
        exists_reading_cons y (earlier ++ (name, value) :: later)
      have hfirst : ¬ isDefinition name next = true := fun hdefines =>
        hy (name_eq_of_isDefinition hname (hnames y (by simp)) hdefines hnext)
      have htail : (reading (y :: earlier ++ (name, value) :: later)).tail.filter
          (isDefinition name) =
            (reading (y :: earlier ++ (name, value) :: later)).filter (isDefinition name) := by
        rw [List.cons_append, hreading, List.filter_cons_of_neg hfirst, List.tail_cons]
      rw [htail, ite_self, hrest, List.getLast?_cons_cons]

/-! ## Reading scripts -/

/-- What a script says of its origin is read by itself. -/
theorem joins_origin (solutionName : String) :
    ∃ ls, Joins (origin solutionName) ls := by
  rw [origin]
  split
  · exact ⟨[], fun _ => rfl⟩
  · have hcomment : ("# Generated by slingshot from " ++ solutionName ++ ".sln").toList.getLast? ≠
        some '\\' := by
      rw [getLast?_append (by decide)]
      decide
    exact ⟨_, (joins_text hcomment).append (joins_line (s := "") ⟨by simp, by simp⟩)⟩

/-- The block of macros is read between what the script says of its origin and its rules. -/
theorem exists_logicalLines_script {o : BuildOrder} {solutionName text : String}
    (h : script o m solutionName = .ok text) (hvalues : ∀ x ∈ m, '\n' ∉ x.2.shown.toList) :
    ∃ before rest, text = preamble m solutionName ++ rest ∧ Joins (origin solutionName) before ∧
      logicalLines text.toList = before ++ (reading (macros m) ++ logicalLines rest.toList) := by
  obtain ⟨-, htext⟩ := script_eq_ok.1 h
  obtain ⟨before, hbefore⟩ := joins_origin solutionName
  refine ⟨before, _, htext, hbefore, ?_⟩
  have hlines : ∀ line ∈ macroLines m, '\n' ∉ line.toList := by
    rw [macroLines, List.forall_mem_map]
    intro x hx
    have hname := (not_mem_of_mem_macros hx).2
    have hvalue := not_mem_newline_of_mem_macros hvalues hx
    simp [hname, hvalue]
  rw [htext, String.toList_append, preamble, String.toList_ofList, List.append_assoc,
    withEnds_append, List.append_assoc, hbefore, logicalLines_continued hlines,
    map_toList_macroLines, reading]

/-- The block of macros is read as it is written if and only if no value ends with a backslash. A
macro has one line, with its value, if and only if neither its value nor that of the macro before it
ends with one. -/
theorem macros_read {o : BuildOrder} {solutionName text : String}
    (h : script o m solutionName = .ok text) (hvalues : ∀ x ∈ m, '\n' ∉ x.2.shown.toList) :
    ∃ before rest, text = preamble m solutionName ++ rest ∧ Joins (origin solutionName) before ∧
      logicalLines text.toList = before ++ (reading (macros m) ++ logicalLines rest.toList) ∧
      (reading (macros m) = (macroLines m).map String.toList ++ [[]] ↔
        ∀ x ∈ macros m, x.2.toList.getLast? ≠ some '\\') ∧
      ∀ earlier name value later, macros m = earlier ++ (name, value) :: later →
        ((reading (macros m)).filter (isDefinition name) = [(name ++ " = " ++ value).toList] ↔
          value.toList.getLast? ≠ some '\\' ∧
            ∀ x ∈ earlier.getLast?, x.2.toList.getLast? ≠ some '\\') := by
  obtain ⟨before, rest, htext, hbefore, hread⟩ := exists_logicalLines_script h hvalues
  refine ⟨before, rest, htext, hbefore, hread, ?_, fun earlier name value later hsplit => ?_⟩
  · rw [reading, map_toList_macroLines, continued_eq_self_iff, List.forall_mem_map]
    simp only [getLast?_macroLine, ne_eq]
  · have hnames : ∀ x ∈ macros m, ' ' ∉ x.1.toList := fun x hx => (not_mem_of_mem_macros hx).1
    have hnodup := nodup_keys_macros m
    rw [hsplit] at hnames hnodup ⊢
    exact filter_reading hnames hnodup

/-- A directory that does not end with a backslash. -/
theorem macros_read_directory :
    ∃ text, script ⟨[]⟩ [(Parameters.baseDirectory, .text "C:\\out")] "" = .ok text ∧
      reading (macros [(Parameters.baseDirectory, .text "C:\\out")]) =
        ["CSC = csc", "VBC = vbc", "RESGEN = resgen", "BUILD_BASEDIR = C:\\out", ""].map
          String.toList := by
  obtain ⟨text, htext⟩ : ∃ text, script ⟨[]⟩ [(Parameters.baseDirectory, .text "C:\\out")] "" =
    .ok text := ⟨_, script_eq_ok.2 ⟨by simp, rfl⟩⟩
  obtain ⟨-, -, -, -, -, hwhole, -⟩ := macros_read htext (by decide)
  exact ⟨text, htext, hwhole.2 (by decide)⟩

/-- A directory that ends with a backslash takes up the line of the macro after it. -/
theorem macro_taken_up :
    ∃ m : Parameters, (∀ x ∈ m, '\n' ∉ x.2.shown.toList) ∧
      ("BUILD_CONFIGURATION", "Release") ∈ macros m ∧ ∃ text, script ⟨[]⟩ m "" = .ok text ∧
        ∀ line ∈ logicalLines text.toList, isDefinition "BUILD_CONFIGURATION" line = false := by
  refine ⟨[(Parameters.baseDirectory, .text "C:\\out\\"),
    (Parameters.configuration, .text "Release")], by decide, by decide, _,
    script_eq_ok.2 ⟨by simp, rfl⟩, ?_⟩
  rw [String.toList_append, preamble, String.toList_ofList, String.toList_ofList]
  decide

end NMake

end SolutionScript
