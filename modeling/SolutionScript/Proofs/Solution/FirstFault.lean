import SolutionScript.Proofs.Solution.Account

/-!
# Where reading a text stops

A text can fail in three ways (`Fails`): its first line that is not blank is no header, a line can
not be read, or a block is left open at the end. The first two are found at the line that is named,
and nothing after it has been looked at: every text that starts with the same lines fails in the
same way, and the lines before do not fail for any such reason (`parse_fails_locally`).
-/

namespace SolutionScript.SolutionText

open Text

variable {number : ℕ} {lines before after : List String} {line : String} {p q : Progress}
  {fault : LineFault} {version : List Char}

/-! ## Texts with and without a header -/

/-- What the progress at the end of a text with a version comes to. -/
def Progress.close (p : Progress) (version : List Char) : Except LineFault SolutionText :=
  match p.current with
  | some e => .error (.missingEnd e.name, e.line)
  | none => .ok (p.finish (String.ofList (trimList version)))

theorem parse_of_hasHeader (h : HasHeader lines version) :
    parse lines = (readLines {} 1 lines).bind (·.close version) := by
  obtain ⟨blank, first, rest, rfl, hblank, hfirst⟩ := h
  rw [parse_of_header hblank hfirst, readLines_header hblank hfirst]
  cases readLines {} (blank.length + 2) rest <;> rfl

/-- The first line that is not blank is there and is no header. -/
theorem parse_of_headless {blank rest : List String}
    (hblank : ∀ line ∈ blank, isBlankText line = true)
    (hfirst : ∀ line ∈ rest.head?, isBlankText line = false ∧ ¬ header.toList <+: content line) :
    parse (blank ++ rest) = .error (.notSolution, blank.length + 1) := by
  have htake : (blank ++ rest).takeWhile isBlankText = blank := by
    rw [List.takeWhile_append_of_pos hblank]
    refine (congrArg _ ?_).trans (List.append_nil blank)
    cases rest with
    | nil => rfl
    | cons first rest => rw [List.takeWhile_cons, (hfirst first rfl).1, if_neg Bool.false_ne_true]
  rw [parse, htake, List.drop_left]
  cases rest with
  | nil => rfl
  | cons first rest =>
    have hno : startsWith header (trim first) = false := by
      rw [startsWith, trim, String.toList_ofList, Bool.eq_false_iff, ne_eq,
        List.isPrefixOf_iff_prefix]
      exact (hfirst first rfl).2
    simp [hno]

/-- A text has a header or not. -/
theorem hasHeader_or_headless (lines : List String) :
    (∃ version, HasHeader lines version) ∨ ∃ blank rest, lines = blank ++ rest ∧
      (∀ line ∈ blank, isBlankText line = true) ∧
      ∀ line ∈ rest.head?, isBlankText line = false ∧ ¬ header.toList <+: content line := by
  have hlines : lines.takeWhile isBlankText ++ lines.dropWhile isBlankText = lines :=
    List.takeWhile_append_dropWhile
  have hblank : ∀ line ∈ lines.takeWhile isBlankText, isBlankText line = true := fun _ =>
    List.mem_takeWhile_imp
  have hhead := List.head?_dropWhile_not isBlankText lines
  generalize lines.takeWhile isBlankText = blank, lines.dropWhile isBlankText = rest
    at hlines hblank hhead
  cases rest with
  | nil => exact .inr ⟨blank, [], hlines.symm, hblank, by simp⟩
  | cons first rest =>
    by_cases hfirst : header.toList <+: content first
    · obtain ⟨version, hversion⟩ := hfirst
      exact .inl ⟨version, blank, first, rest, hlines.symm, hblank, hversion.symm⟩
    · refine .inr ⟨blank, first :: rest, hlines.symm, hblank, fun line hline => ?_⟩
      obtain rfl := Option.some.inj hline
      exact ⟨by simpa using hhead, hfirst⟩

/-- A header goes on to be one, whatever lines follow. -/
theorem HasHeader.append (h : HasHeader lines version) (after : List String) :
    HasHeader (lines ++ after) version := by
  obtain ⟨blank, first, rest, rfl, hblank, hfirst⟩ := h
  exact ⟨blank, first, rest ++ after, by simp, hblank, hfirst⟩

/-! ## The three ways to fail -/

/-- All lines are read, and a block is left open that the fault is about. -/
def LeftOpen (lines : List String) (fault : LineFault) : Prop :=
  ∃ p e, readLines {} 1 lines = .ok p ∧ p.current = some e ∧ fault = (.missingEnd e.name, e.line)

/-- How a text fails. -/
inductive Fails : List String → LineFault → Prop
  | headless {blank rest : List String} (isBlank : ∀ line ∈ blank, isBlankText line = true)
      (first : ∀ line ∈ rest.head?, isBlankText line = false ∧ ¬ header.toList <+: content line) :
    Fails (blank ++ rest) (.notSolution, blank.length + 1)
  | refused {before after : List String} {line : String} {version : List Char} {p : Progress}
      {cause : DescriptorCause} (headed : HasHeader before version)
      (read : readLines {} 1 before = .ok p)
      (refuses : readLine p (before.length + 1) (content line) = .error cause) :
    Fails (before ++ line :: after) (cause, before.length + 1)
  | leftOpen {lines : List String} {fault : LineFault} {version : List Char}
      (headed : HasHeader lines version) (left : LeftOpen lines fault) : Fails lines fault

/-- Reading lines stops at the first one that can not be read. -/
theorem readLines_eq_error : readLines p number lines = .error fault ↔
    ∃ before line after r, lines = before ++ line :: after ∧ readLines p number before = .ok r ∧
      readLine r fault.2 (content line) = .error fault.1 ∧ fault.2 = number + before.length := by
  constructor
  · intro h
    induction lines generalizing p number with
    | nil => cases h
    | cons line lines ih =>
      rw [readLines] at h
      split at h
      · rename_i r hline
        obtain ⟨before, refused, after, q, rfl, hread, hrefused, hnumber⟩ := ih h
        refine ⟨line :: before, refused, after, q, rfl, ?_, hrefused, ?_⟩
        · rwa [readLines_cons _ (readLine_eq_ok.1 hline)]
        · rw [hnumber, List.length_cons]
          omega
      · rename_i cause hline
        cases h
        exact ⟨[], line, lines, p, rfl, rfl, hline, rfl⟩
  · rintro ⟨before, line, after, r, rfl, hread, hrefused, hnumber⟩
    rw [content, hnumber] at hrefused
    rw [readLines_append _ hread, readLines, hrefused, ← hnumber]

/-- The header is read. -/
theorem readLine_header {line : String} (h : content line = header.toList ++ version) :
    readLine {} number (content line) = .ok {} :=
  readLine_eq_ok.2 (.pass _ (.inl (by rw [h]; exact lineKind_header version)) (by simp))

/-- Where blank lines come first, the next line is the header. -/
theorem HasHeader.content_eq (h : HasHeader (before ++ line :: after) version)
    (hblank : ∀ line ∈ before, isBlankText line = true) (hline : isBlankText line = false) :
    content line = header.toList ++ version := by
  obtain ⟨blank, first, rest, heq, hblank', hfirst⟩ := h
  have hdrop {blank rest : List String} {first : String}
      (hblank : ∀ line ∈ blank, isBlankText line = true) (hfirst : isBlankText first = false) :
      (blank ++ first :: rest).dropWhile isBlankText = first :: rest := by
    rw [List.dropWhile_append_of_pos hblank, List.dropWhile_cons_of_neg (by simp [hfirst])]
  have hdrops := congrArg (List.dropWhile isBlankText) heq
  rw [hdrop hblank hline, hdrop hblank' (isBlankText_header hfirst)] at hdrops
  rw [(List.cons.inj hdrops).1]
  exact hfirst

/-- A line that can not be read stands after the header. -/
theorem hasHeader_of_refused {cause : DescriptorCause}
    (h : HasHeader (before ++ line :: after) version) (hread : readLines {} 1 before = .ok p)
    (hrefused : readLine p number (content line) = .error cause) : HasHeader before version := by
  by_cases hbegun : ∃ line ∈ before, isBlankText line = false
  · exact (hasHeader_append hbegun).1 h
  · have hblank : ∀ line ∈ before, isBlankText line = true := by simpa using hbegun
    rw [readLines_blank hblank] at hread
    cases hread
    -- Before the header nothing is refused: a blank line is passed over, and so is the header.
    cases hline : isBlankText line with
    | true =>
      rw [content_of_isBlankText hline] at hrefused
      cases hrefused
    | false =>
      rw [readLine_header (h.content_eq hblank hline)] at hrefused
      cases hrefused

theorem parse_eq_error : parse lines = .error fault ↔ Fails lines fault := by
  constructor
  · intro h
    rcases hasHeader_or_headless lines with ⟨version, hheader⟩ | ⟨blank, rest, rfl, hblank, hfirst⟩
    · rw [parse_of_hasHeader hheader] at h
      cases hread : readLines {} 1 lines with
      | error fault' =>
        rw [hread] at h
        cases h
        obtain ⟨before, line, after, p, rfl, hbefore, hrefused, hnumber⟩ :=
          readLines_eq_error.1 hread
        obtain ⟨cause, n⟩ := fault
        obtain rfl : n = before.length + 1 := hnumber.trans (Nat.add_comm ..)
        exact .refused (hasHeader_of_refused hheader hbefore hrefused) hbefore hrefused
      | ok p =>
        rw [hread] at h
        change p.close version = _ at h
        unfold Progress.close at h
        split at h
        · rename_i e hinside
          cases h
          exact .leftOpen hheader ⟨p, e, hread, hinside, rfl⟩
        · cases h
    · rw [parse_of_headless hblank hfirst] at h
      cases h
      exact .headless hblank hfirst
  · intro h
    cases h with
    | headless isBlank first => exact parse_of_headless isBlank first
    | @refused before after line _ _ cause headed read refuses =>
      have hread : readLines {} 1 (before ++ line :: after) = .error (cause, before.length + 1) :=
        readLines_eq_error.2 ⟨before, line, after, _, rfl, read, refuses, Nat.add_comm ..⟩
      rw [parse_of_hasHeader (headed.append _), hread, Except.bind]
    | leftOpen headed left =>
      obtain ⟨p, e, read, inside, rfl⟩ := left
      rw [parse_of_hasHeader headed, read, Except.bind, Progress.close, inside]

/-! ## Faults and lines -/

/-- The line of a block that has been read is one of the lines. -/
theorem line_of_current {e : SolutionEntry} (hread : readLines {} 1 lines = .ok p)
    (hinside : p.current = some e) : 1 ≤ e.line ∧ e.line ≤ lines.length := by
  have haccounted : Accounted lines p := accounted_nil.readLines hread
  have hmem : e.line ∈ p.blocks.map (·.line) :=
    List.mem_map_of_mem (List.mem_append_right _ (by simp [hinside]))
  refine ⟨?_, haccounted.line_le hmem⟩
  rw [map_line_of_declared haccounted.declared] at hmem
  obtain ⟨x, hx, hline⟩ := List.mem_map.1 hmem
  exact hline ▸ (mem_openings hx).1

/-- Lists agree on a start and the element after it. -/
theorem eq_append_of_take_eq {other rest : List String}
    (h : other.take (before.length + 1) = (before ++ rest).take (before.length + 1)) :
    ∃ rest', other = before ++ rest' ∧ rest'.head? = rest.head? := by
  have hstart : other.take before.length = before := by
    have htake := congrArg (List.take before.length) h
    rwa [List.take_take, List.take_take, Nat.min_eq_left (Nat.le_succ _),
      List.take_left] at htake
  have hnext := congrArg (·[before.length]?) h
  simp only [List.getElem?_take, Nat.lt_succ_self, if_true] at hnext
  refine ⟨other.drop before.length, ?_, ?_⟩
  · exact (List.take_append_drop before.length other).symm.trans (congrArg (· ++ _) hstart)
  · rw [List.head?_drop, hnext, List.getElem?_append_right (Nat.le_refl _), Nat.sub_self,
      List.head?_eq_getElem?]

theorem HasHeader.exists_not_blank (h : HasHeader lines version) :
    ∃ line ∈ lines, isBlankText line = false := by
  obtain ⟨blank, first, rest, rfl, -, hfirst⟩ := h
  exact ⟨first, by simp, isBlankText_header hfirst⟩

/-- A fault names a line, or the end of a text without lines that are not blank. -/
theorem Fails.line_le (h : Fails lines fault) :
    1 ≤ fault.2 ∧ fault.2 ≤ lines.length + 1 ∧
      (fault.2 = lines.length + 1 ↔ ∀ line ∈ lines, isBlankText line = true) := by
  have hnot {lines : List String} {version : List Char} (h : HasHeader lines version) :
      ¬ ∀ line ∈ lines, isBlankText line = true := by
    obtain ⟨line, hline, hblank⟩ := h.exists_not_blank
    exact fun hall => absurd (hall line hline) (by simp [hblank])
  cases h with
  | @headless blank rest isBlank first =>
    refine ⟨Nat.le_add_left .., by simp, ?_⟩
    cases rest with
    | nil => simpa using isBlank
    | cons line rest =>
      refine iff_of_false (by simp) fun hall => ?_
      exact absurd (hall line (by simp)) (by simp [(first line rfl).1])
  | @refused before after line _ _ _ headed read refuses =>
    have hbegun := hnot (headed.append (line :: after))
    refine ⟨Nat.le_add_left .., by simp, iff_of_false ?_ hbegun⟩
    simp
  | leftOpen headed left =>
    obtain ⟨p, e, read, inside, rfl⟩ := left
    have hline := line_of_current read inside
    exact ⟨hline.1, Nat.le_succ_of_le hline.2,
      iff_of_false (Nat.ne_of_lt (Nat.lt_succ_of_le hline.2)) (hnot headed)⟩

/-- A fault is local: it names a line, or the end of a text of blank lines. If it is not that the
text ends within a block, every text that goes up to that line in the same way fails in the same
way; and what stands before that line can fail only because it ends within a block, or because it
is blank and has no header yet. -/
theorem parse_fails_locally (h : parse lines = .error fault) :
    (1 ≤ fault.2 ∧ fault.2 ≤ lines.length + 1 ∧
      (fault.2 = lines.length + 1 ↔ ∀ line ∈ lines, isBlankText line = true)) ∧
    (¬ LeftOpen lines fault →
      (∀ other, other.take fault.2 = lines.take fault.2 → parse other = .error fault) ∧
      ∀ earlier, parse (lines.take (fault.2 - 1)) = .error earlier →
        LeftOpen (lines.take (fault.2 - 1)) earlier ∨
          earlier.1 = .notSolution ∧
            ∀ line ∈ lines.take (fault.2 - 1), isBlankText line = true) := by
  have hfails := parse_eq_error.1 h
  refine ⟨hfails.line_le, fun hleft => ?_⟩
  cases hfails with
  | @headless blank rest isBlank first =>
    refine ⟨fun other hother => ?_, fun earlier hearlier => ?_⟩
    · obtain ⟨rest', rfl, hhead⟩ := eq_append_of_take_eq hother
      exact parse_of_headless isBlank (hhead ▸ first)
    · have hblank := @parse_of_headless blank [] isBlank (by simp)
      rw [List.append_nil] at hblank
      rw [Nat.add_sub_cancel, List.take_left] at hearlier ⊢
      rw [hblank] at hearlier
      cases hearlier
      exact .inr ⟨rfl, isBlank⟩
  | @refused before after line version p cause headed read refuses =>
    refine ⟨fun other hother => ?_, fun earlier hearlier => ?_⟩
    · obtain ⟨rest', rfl, hhead⟩ := eq_append_of_take_eq hother
      obtain ⟨after', rfl⟩ := List.head?_eq_some_iff.1 hhead
      exact parse_eq_error.2 (.refused headed read refuses)
    · rw [Nat.add_sub_cancel, List.take_left] at hearlier ⊢
      rw [parse_of_hasHeader headed, read, Except.bind, Progress.close] at hearlier
      split at hearlier
      · rename_i e inside
        cases hearlier
        exact .inl ⟨p, e, read, inside, rfl⟩
      · cases hearlier
  | leftOpen headed left => exact absurd left hleft

/-- Two blocks, the first of which does not end before the second one starts. -/
def nestedLines : List String :=
  ["Microsoft Visual Studio Solution File, Format Version 8.00",
    "Project(\"{T}\") = \"App\", \"App.csproj\", \"{A}\"",
    "Project(\"{T}\") = \"Core\", \"Core.csproj\", \"{C}\"", "EndProject"]

theorem parse_fails_locally_nested :
    parse nestedLines = .error (.missingEnd "App", 3) ∧
      ¬ LeftOpen nestedLines (.missingEnd "App", 3) ∧
      (nestedLines ++ ["EndProject"]).take 3 = nestedLines.take 3 ∧
      parse (nestedLines ++ ["EndProject"]) = .error (.missingEnd "App", 3) ∧
      LeftOpen (nestedLines.take 2) (.missingEnd "App", 2) := by
  have hparse : parse nestedLines = .error (.missingEnd "App", 3) := by decide
  have hopen : parse (nestedLines.take 2) = .error (.missingEnd "App", 2) := by decide
  have hrefused : (readLines {} 1 nestedLines).toOption.isNone = true := by decide
  have hleft : ¬ LeftOpen nestedLines (.missingEnd "App", 3) := by
    rintro ⟨p, e, read, -⟩
    rw [read] at hrefused
    cases hrefused
  obtain ⟨-, hlocal⟩ := parse_fails_locally hparse
  obtain ⟨hsame, hearlier⟩ := hlocal hleft
  have hagree : (nestedLines ++ ["EndProject"]).take 3 = nestedLines.take 3 := rfl
  refine ⟨hparse, hleft, hagree, hsame _ hagree, ?_⟩
  exact (hearlier _ hopen).resolve_right fun h => by cases h.1

end SolutionScript.SolutionText
