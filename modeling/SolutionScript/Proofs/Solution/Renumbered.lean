import SolutionScript.Proofs.Solution.FirstFault
import SolutionScript.Proofs.Solution.Placement
import SolutionScript.Proofs.Text.Layout
import SolutionScript.Proofs.TwoRuns

/-!
# Texts with the same lines

Texts with the same lines, but for blanks around them, blank lines and comments, are read alike
(`parse_aligned`): they say the same, or have the same fault, and the numbers of the lines that
they name are those of lines that belong to each other.
-/

namespace SolutionScript

open Fallible

/-- A block is the same, whatever the number of its line. -/
structure SolutionEntry.Renumbered (M : ℕ → ℕ → Prop) (e e' : SolutionEntry) : Prop where
  same : e' = { e with line := e'.line }
  line : M e.line e'.line

/-- A text says the same, whatever the numbers of its lines. -/
structure SolutionText.Renumbered (M : ℕ → ℕ → Prop) (t t' : SolutionText) : Prop where
  version : t'.version = t.version
  entries : List.Forall₂ (SolutionEntry.Renumbered M) t.entries t'.entries
  dependencies : t'.dependencies = t.dependencies

namespace SolutionText

open Text

variable {M : ℕ → ℕ → Prop} {n n' : ℕ} {p p' : Progress} {lines lines' : List String}
  {line : List Char}

/-- A fault is the same, but for its line. -/
structure FaultMoves (M : ℕ → ℕ → Prop) (fault fault' : LineFault) : Prop where
  cause : fault'.1 = fault.1
  line : M fault.2 fault'.2

structure Progress.Renumbered (M : ℕ → ℕ → Prop) (p p' : Progress) : Prop where
  entries : List.Forall₂ (SolutionEntry.Renumbered M) p.entries p'.entries
  current : Option.Rel (SolutionEntry.Renumbered M) p.current p'.current
  openSection : p'.openSection = p.openSection
  dependencies : p'.dependencies = p.dependencies

theorem Progress.Renumbered.start : Progress.Renumbered M {} {} := ⟨.nil, .none, rfl, rfl⟩

/-! ## Lines -/

/-- The number of a line is noted in the block that it opens. -/
theorem readEntry_renumbered (hkind : lineKind line = .entry) (hn : M n n') :
    Option.Rel (SolutionEntry.Renumbered M) (readEntry n line) (readEntry n' line) := by
  cases hread : readEntry n line with
  | some e =>
    have hline : some { e with line := n } = some e :=
      (readEntry_renumber hkind hread n).symm.trans hread
    rw [readEntry_renumber hkind hread n']
    refine .some ⟨rfl, ?_⟩
    rw [← Option.some.inj hline]
    exact hn
  | none =>
    cases hread' : readEntry n' line with
    | some e => cases (readEntry_renumber hkind hread' n).symm.trans hread
    | none => exact .none

theorem readDependency_renumbered (h : p.Renumbered M p') (line : List Char) :
    Alike Eq (Progress.Renumbered M) (readDependency p line) (readDependency p' line) := by
  obtain ⟨entries, current, openSection, dependencies⟩ := p
  obtain ⟨entries', current', openSection', dependencies'⟩ := p'
  obtain ⟨hentries, hcurrent, rfl : openSection' = openSection,
    rfl : dependencies' = dependencies⟩ := h
  unfold readDependency
  split
  · exact .ok ⟨hentries, hcurrent, rfl, rfl⟩
  cases hcurrent with
  | some he =>
    rename_i e e'
    dsimp only
    split
    · exact .ok ⟨hentries, .some ⟨by rw [he.same], he.line⟩, rfl, rfl⟩
    · exact .error rfl
  | none =>
    dsimp only
    split
    · exact .ok ⟨hentries, .none, rfl, rfl⟩
    · exact .error rfl

theorem readLine_renumbered (h : p.Renumbered M p') (hn : M n n') (line : List Char) :
    Alike Eq (Progress.Renumbered M) (readLine p n line) (readLine p' n' line) := by
  have hdependency := readDependency_renumbered h line
  obtain ⟨entries, current, openSection, dependencies⟩ := p
  obtain ⟨entries', current', openSection', dependencies'⟩ := p'
  obtain ⟨hentries, hcurrent, rfl : openSection' = openSection,
    rfl : dependencies' = dependencies⟩ := h
  unfold readLine
  cases hkind : lineKind line with
  | skipped => exact .ok ⟨hentries, hcurrent, rfl, rfl⟩
  | entry =>
    cases hcurrent with
    | some he => exact .error (by rw [he.same])
    | none =>
      have hread := readEntry_renumbered hkind hn
      generalize readEntry n line = r, readEntry n' line = r' at hread
      cases hread with
      | some he => exact .ok ⟨hentries, .some he, rfl, rfl⟩
      | none => exact .error rfl
  | entryEnd =>
    cases hcurrent with
    | some he =>
      dsimp only
      split
      · exact .error rfl
      · exact .ok ⟨.cons he hentries, .none, rfl, rfl⟩
    | none => exact hdependency
  | sectionStart name => exact .ok ⟨hentries, hcurrent, rfl, rfl⟩
  | sectionEnd => exact .ok ⟨hentries, hcurrent, rfl, rfl⟩
  | other => exact hdependency

/-! ## Runs of lines -/

theorem readLines_cons_of_skipped {line : String} (h : lineKind (content line) = .skipped)
    (p : Progress) (n : ℕ) (rest : List String) :
    readLines p n (line :: rest) = readLines p (n + 1) rest :=
  readLines_cons rest (.skip p h)

theorem lineKind_comment (h : line.head? = some '#') : lineKind line = .skipped := by
  rw [lineKind, if_pos (by simp [h])]

theorem lineKind_blank {line : String} (h : isBlankText line = true) :
    lineKind (content line) = .skipped := by
  rw [content_of_isBlankText h]
  rfl

/-- Once a line that is not blank has been read, the same lines are read alike. -/
theorem readLines_aligned {begun : Bool} (h : Aligned M begun n lines n' lines')
    (hbegun : begun = true) (hp : p.Renumbered M p') :
    Alike (FaultMoves M) (Progress.Renumbered M) (readLines p n lines)
      (readLines p' n' lines') := by
  induction h generalizing p p' with
  | nil => exact .ok hp
  | left blank _ ih =>
    rw [readLines_cons_of_skipped (lineKind_blank blank)]
    exact ih hbegun hp
  | right passed _ ih =>
    have hskipped : lineKind (content _) = .skipped :=
      passed.elim lineKind_blank fun h => lineKind_comment h.2
    rw [readLines_cons_of_skipped hskipped]
    exact ih hbegun hp
  | @both begun n n' line line' rest rest' number same _ ih =>
    have hline := readLine_renumbered hp number (content line)
    rw [readLines, readLines, same, ← content]
    generalize readLine p n (content line) = r, readLine p' n' (content line) = r' at hline
    cases hline with
    | ok hp => exact ih (by rw [hbegun, Bool.true_or]) hp
    | error hcause => exact .error ⟨hcause.symm, number⟩

/-! ## Texts -/

theorem Progress.Renumbered.finish (h : p.Renumbered M p') (version : String) :
    SolutionText.Renumbered M (p.finish version) (p'.finish version) := by
  have hentries := List.rel_reverse h.entries
  refine ⟨rfl, hentries, ?_⟩
  dsimp only [Progress.finish]
  rw [h.dependencies]
  generalize p.entries.reverse = entries, p'.entries.reverse = entries' at hentries
  generalize p.dependencies = dependencies
  induction hentries generalizing dependencies with
  | nil => rfl
  | @cons e e' _ _ he _ ih =>
    rw [List.foldl_cons, List.foldl_cons, ih, he.same]

theorem Progress.Renumbered.close (h : p.Renumbered M p') (version : List Char) :
    Alike (FaultMoves M) (SolutionText.Renumbered M) (p.close version) (p'.close version) := by
  have hcurrent := h.current
  unfold Progress.close
  generalize p.current = current, p'.current = current' at hcurrent
  cases hcurrent with
  | some he => exact .error ⟨by rw [he.same], he.line⟩
  | none => exact .ok (h.finish _)

/-- Texts with the same lines are read alike. -/
theorem parse_aligned (h : Aligned M false 1 lines 1 lines') :
    Alike (FaultMoves M) (SolutionText.Renumbered M) (parse lines) (parse lines') := by
  cases h.starts with
  | blank isBlank isBlank' number =>
    have hnone := @parse_of_headless lines [] isBlank (by simp)
    have hnone' := @parse_of_headless lines' [] isBlank' (by simp)
    rw [List.append_nil] at hnone hnone'
    rw [hnone, hnone']
    exact .error ⟨rfl, number⟩
  | @first blank blank' rest rest' first first' isBlank isBlank' number notBlank same aligned =>
    by_cases hfirst : header.toList <+: content first
    · obtain ⟨version, hversion⟩ := hfirst
      have hversion' : content first' = header.toList ++ version := same.trans hversion.symm
      rw [parse_of_hasHeader ⟨blank, first, rest, rfl, isBlank, hversion.symm⟩,
        parse_of_hasHeader ⟨blank', first', rest', rfl, isBlank', hversion'⟩,
        readLines_header isBlank hversion.symm, readLines_header isBlank' hversion']
      exact (readLines_aligned aligned rfl .start).bind fun p p' hp => hp.close version
    · rw [parse_of_headless isBlank, parse_of_headless isBlank']
      · exact .error ⟨rfl, number⟩
      · rintro line ⟨⟩
        exact ⟨(isBlankText_congr same).trans notBlank, by rwa [content, same]⟩
      · rintro line ⟨⟩
        exact ⟨notBlank, hfirst⟩

end SolutionText

end SolutionScript
