import SolutionScript.Proofs.Solution.Placement

/-!
# Accounts of lines

Where lines are read, none is passed over. Every line that opens a block is read as one entry, with
the number of the line, and its block ends before the next one; every line of a section of
dependencies that is no marker is one dependency, of the open block or of the project that it names.
`Accounted` says so of the lines that have been read, `Accounted.step` that it goes on to hold, and
`parse_account` that it holds of all lines of a text.
-/

namespace SolutionScript.SolutionText

open Text

variable {number : ℕ} {lines : List String} {line : String} {p q : Progress}

/-! ## Opening lines -/

/-- Whether a line opens a block. -/
def opensBlock (line : String) : Bool := entryMark.isPrefixOf (content line)

/-- The lines that open blocks, with their numbers, where the first line has a given number. -/
def openings (number : Nat) (lines : List String) : List (String × Nat) :=
  (lines.zipIdx number).filter fun x => opensBlock x.1

/-- An entry without dependencies has the fields that a line declares, and its number. -/
def DeclaredBy (x : String × Nat) (e : SolutionEntry) : Prop :=
  ∃ typeId name path id, EntryLine (content x.1) typeId name path id ∧
    e = entryOf x.2 typeId name path id

/-- A block ends after its opening line, with no section open and before the next one starts. -/
def EndsAfter (before after : List String) : Prop :=
  ∃ inside ending outside, after = inside ++ ending :: outside ∧
    (∀ line ∈ inside, opensBlock line = false) ∧ content ending = "EndProject".toList ∧
    openSection? (before ++ inside) = none

theorem opensBlock_iff : opensBlock line = true ↔ lineKind (content line) = .entry := by
  rw [opensBlock, List.isPrefixOf_iff_prefix]
  exact ⟨lineKind_of_entryMark, entryMark_of_lineKind⟩

theorem opensBlock_eq_false (h : lineKind (content line) ≠ .entry) : opensBlock line = false := by
  rwa [← Bool.not_eq_true, opensBlock_iff]

theorem eq_of_lineKind_entryEnd {line : List Char} (h : lineKind line = .entryEnd) :
    line = "EndProject".toList := by
  unfold lineKind at h
  repeat' split at h
  all_goals cases h
  assumption

theorem openings_append (number : ℕ) (before after : List String) :
    openings number (before ++ after) =
      openings number before ++ openings (number + before.length) after := by
  rw [openings, List.zipIdx_append, List.filter_append]
  rfl

theorem openings_eq_nil (number : ℕ) (h : ∀ line ∈ lines, opensBlock line = false) :
    openings number lines = [] := by
  rw [openings, List.filter_eq_nil_iff]
  intro x hx
  rw [h x.1 (List.fst_mem_of_mem_zipIdx hx)]
  exact Bool.false_ne_true

theorem mem_openings {x : String × Nat} (hx : x ∈ openings number lines) :
    number ≤ x.2 ∧ x.2 < lines.length + number := by
  have hmem := (List.mem_filter.1 hx).1
  exact ⟨List.le_snd_of_mem_zipIdx hmem, List.snd_lt_of_mem_zipIdx hmem⟩

theorem pairwise_openings (number : ℕ) (lines : List String) :
    ((openings number lines).map (·.2)).Pairwise (· < ·) := by
  have hall : ((lines.zipIdx number).map (·.2)).Pairwise (· < ·) := by
    rw [List.zipIdx_map_snd]
    exact List.pairwise_lt_range'
  exact hall.sublist (List.filter_sublist.map _)

theorem openings_concat (lines : List String) (line : String) :
    openings 1 (lines ++ [line]) =
      openings 1 lines ++ if opensBlock line then [(line, lines.length + 1)] else [] := by
  rw [openings_append, Nat.add_comm 1]
  exact congrArg (openings 1 lines ++ ·) (List.filter_cons ..)

theorem openings_concat_of_not (h : opensBlock line = false) :
    openings 1 (lines ++ [line]) = openings 1 lines := by
  rw [openings_concat, h, if_neg Bool.false_ne_true, List.append_nil]

/-! ## Stated dependencies -/

/-- The number of the line that opens the block that is open after some lines. -/
def blockNumber? (lines : List String) : Option Nat :=
  ((lines.zipIdx 1).reverse.findSome? fun x =>
    (blockMark? x.1).map fun block => block.map fun _ => x.2).join

/-- A line that is blank, a comment or a marker of a block or a section. -/
def IsMark (line : List Char) : Prop :=
  line = [] ∨ line.head? = some '#' ∨ entryMark <+: line ∨ line = "EndProject".toList ∨
    "ProjectSection(".toList <+: line ∨ "GlobalSection(".toList <+: line ∨
    line = "EndProjectSection".toList ∨ line = "EndGlobalSection".toList

/-- After some lines, a line of a section of dependencies that is no mark. -/
def IsStated (before : List String) (line : String) : Prop :=
  (openSection? before).map sectionName = some dependencySection ∧ ¬ IsMark (content line)

instance : DecidablePred IsMark := fun _ => inferInstanceAs (Decidable (_ ∨ _))

instance (before : List String) (line : String) : Decidable (IsStated before line) :=
  inferInstanceAs (Decidable (_ ∧ _))

theorem lineKind_eq_other_iff {line : List Char} : lineKind line = .other ↔ ¬ IsMark line := by
  rw [lineKind, IsMark]
  simp only [Bool.or_eq_true, List.isEmpty_iff, decide_eq_true_eq, List.isPrefixOf_iff_prefix]
  generalize "EndProject".toList = ending, "ProjectSection(".toList = own,
    "GlobalSection(".toList = everywhere, "EndProjectSection".toList = ownEnding,
    "EndGlobalSection".toList = everywhereEnding
  split_ifs <;> simp <;> tauto

/-- The lines of sections of dependencies that are no marks, each with the number of the line that
opens its block, if it stands in one. -/
def statedAfter (before : List String) : List String → List (Option Nat × List Char)
  | [] => []
  | line :: rest =>
    (if IsStated before line then [(blockNumber? before, content line)] else []) ++
      statedAfter (before ++ [line]) rest

/-- Those of these lines that stand in a block, or outside of all. -/
def statedIn (block : Option Nat) (lines : List String) : List (List Char) :=
  ((statedAfter [] lines).filter (·.1 = block)).map (·.2)

theorem blockNumber?_concat (lines : List String) (line : String) :
    blockNumber? (lines ++ [line]) =
      ((blockMark? line).map fun block => block.map fun _ => lines.length + 1).getD
        (blockNumber? lines) := by
  rw [blockNumber?, List.zipIdx_append, List.reverse_append, List.zipIdx_singleton,
    List.reverse_singleton, List.singleton_append, List.findSome?_cons, Nat.add_comm 1]
  cases blockMark? line <;> rfl

theorem statedAfter_concat (before lines : List String) (line : String) :
    statedAfter before (lines ++ [line]) = statedAfter before lines ++
      if IsStated (before ++ lines) line then [(blockNumber? (before ++ lines), content line)]
      else [] := by
  induction lines generalizing before with
  | nil => simp [statedAfter]
  | cons first lines ih =>
    rw [List.cons_append, statedAfter, ih, statedAfter, List.append_assoc, List.append_assoc,
      List.singleton_append]

theorem statedIn_concat (block : Option Nat) (lines : List String) (line : String) :
    statedIn block (lines ++ [line]) = statedIn block lines ++
      if IsStated lines line ∧ blockNumber? lines = block then [content line] else [] := by
  rw [statedIn, statedAfter_concat, List.filter_append, List.map_append, statedIn, List.nil_append]
  by_cases hstated : IsStated lines line <;> by_cases hblock : blockNumber? lines = block <;>
    simp [hstated, hblock]

/-- A line that states nothing changes nothing about what is stated. -/
theorem statedAfter_concat_of_not (h : ¬ IsStated lines line) :
    statedAfter [] (lines ++ [line]) = statedAfter [] lines := by
  rw [statedAfter_concat, List.nil_append, if_neg h, List.append_nil]

theorem statedIn_concat_of_not (h : ¬ IsStated lines line) (block : Option Nat) :
    statedIn block (lines ++ [line]) = statedIn block lines := by
  rw [statedIn, statedAfter_concat_of_not h, statedIn]

/-- What is stated in one block changes nothing about what is stated elsewhere. -/
theorem statedIn_concat_of_ne {block : Option Nat} (h : blockNumber? lines ≠ block) :
    statedIn block (lines ++ [line]) = statedIn block lines := by
  rw [statedIn_concat, if_neg fun hline => h hline.2, List.append_nil]

/-! ## Accounts -/

/-- An entry without its dependencies. -/
def bare (e : SolutionEntry) : SolutionEntry := { e with dependencies := [] }

/-- The blocks that have been read, the open one last. -/
def Progress.blocks (p : Progress) : List SolutionEntry := p.entries.reverse ++ p.current.toList

/-- What has been read accounts for all lines. -/
structure Accounted (lines : List String) (p : Progress) : Prop extends Scanned lines p where
  number : p.current.map (·.line) = blockNumber? lines
  declared : List.Forall₂ DeclaredBy (openings 1 lines) (p.blocks.map bare)
  ended : ∀ before line after, lines = before ++ line :: after → opensBlock line = true →
    EndsAfter (before ++ [line]) after ∨
      p.current ≠ none ∧ ∀ line ∈ after, opensBlock line = false
  own : ∀ e ∈ p.blocks,
    List.Forall₂ OwnDependencyLine (statedIn (some e.line) lines) e.dependencies
  global : ∃ stated : List (String × String),
    List.Forall₂ (fun line x => GlobalDependencyLine line x.1 x.2) (statedIn none lines) stated ∧
      ∀ id, (p.dependencies.get? id).getD [] = (stated.filter (·.1 = id)).map (·.2)
  placed : ∀ x ∈ statedAfter [] lines, ∀ number, x.1 = some number →
    number ∈ p.blocks.map (·.line)

theorem accounted_nil : Accounted [] {} where
  toScanned := scanned_nil
  number := rfl
  declared := .nil
  ended before line after h := by simp at h
  own e he := by cases he
  global := ⟨[], .nil, fun _ => rfl⟩
  placed x hx := by cases hx

/-- Entries have the numbers of the lines that declare them. -/
theorem map_line_of_declared {xs : List (String × Nat)} {es : List SolutionEntry}
    (h : List.Forall₂ DeclaredBy xs (es.map bare)) : es.map (·.line) = xs.map (·.2) := by
  rw [List.forall₂_map_right_iff] at h
  induction h with
  | nil => rfl
  | cons hdeclared _ ih =>
    obtain ⟨typeId, name, path, id, -, heq⟩ := hdeclared
    have hline := congrArg SolutionEntry.line heq
    rw [List.map_cons, List.map_cons, ih]
    exact congrArg (· :: _) hline

theorem map_line_congr {es es' : List SolutionEntry} (h : es'.map bare = es.map bare) :
    es'.map (·.line) = es.map (·.line) := by
  have hline := congrArg (List.map SolutionEntry.line) h
  rwa [List.map_map, List.map_map] at hline

theorem Accounted.pairwise_blocks (h : Accounted lines p) :
    (p.blocks.map (·.line)).Pairwise (· < ·) := by
  rw [map_line_of_declared h.declared]
  exact pairwise_openings 1 lines

theorem Accounted.line_le (h : Accounted lines p) {n : ℕ} (hn : n ∈ p.blocks.map (·.line)) :
    n ≤ lines.length := by
  rw [map_line_of_declared h.declared] at hn
  obtain ⟨x, hx, rfl⟩ := List.mem_map.1 hn
  exact Nat.le_of_lt_succ (mem_openings hx).2

theorem Accounted.isStated_iff (h : Accounted lines p) :
    IsStated lines line ↔
      p.openSection = some dependencySection ∧ lineKind (content line) = .other := by
  rw [IsStated, h.openSection, lineKind_eq_other_iff]

/-- Nothing is stated in blocks that there are not. -/
theorem Accounted.statedIn_eq_nil (h : Accounted lines p) {n : ℕ} (hn : n ∉ p.blocks.map (·.line)) :
    statedIn (some n) lines = [] := by
  rw [statedIn, List.map_eq_nil_iff, List.filter_eq_nil_iff]
  intro x hx heq
  exact hn (h.placed x hx n (of_decide_eq_true heq))

/-! ## Steps -/

/-- Blocks that have been opened have ended or are open. -/
theorem Accounted.ended_concat (h : Accounted lines p)
    (hopens : opensBlock line = true → p.current = none ∧ q.current ≠ none)
    (hgoes : opensBlock line = false → p.current ≠ none →
      q.current ≠ none ∨ content line = "EndProject".toList ∧ openSection? lines = none) :
    ∀ before opening after, lines ++ [line] = before ++ opening :: after →
      opensBlock opening = true → EndsAfter (before ++ [opening]) after ∨
        q.current ≠ none ∧ ∀ line ∈ after, opensBlock line = false := by
  intro before opening after hsplit hopening
  -- The new line is the opening one, or stands behind it.
  rcases List.eq_nil_or_concat' after with rfl | ⟨after, last, rfl⟩
  · obtain ⟨-, heq⟩ := List.append_inj' hsplit rfl
    cases heq
    exact .inr ⟨(hopens hopening).2, by simp⟩
  · rw [← List.cons_append, ← List.append_assoc] at hsplit
    obtain ⟨rfl, heq⟩ := List.append_inj' hsplit rfl
    cases heq
    rcases h.ended before opening after rfl hopening with hends | ⟨hcurrent, hafter⟩
    · obtain ⟨inside, ending, outside, rfl, hends⟩ := hends
      exact .inl ⟨inside, ending, outside ++ [line], by simp, hends⟩
    · cases hline : opensBlock line with
      | true => exact absurd (hopens hline).1 hcurrent
      | false =>
        rcases hgoes hline hcurrent with hcurrent | ⟨hending, hclosed⟩
        · refine .inr ⟨hcurrent, List.forall_mem_append.2 ⟨hafter, ?_⟩⟩
          exact List.forall_mem_singleton.2 hline
        · refine .inl ⟨after, line, [], rfl, hafter, hending, ?_⟩
          rwa [List.append_assoc, List.singleton_append]

/-- A line that opens no block and states no dependency. -/
theorem Accounted.of_idle (h : Accounted lines p) (hscanned : Scanned (lines ++ [line]) q)
    (hblocks : q.blocks = p.blocks) (hdependencies : q.dependencies = p.dependencies)
    (hopens : opensBlock line = false) (hstated : ¬ IsStated lines line)
    (hnumber : q.current.map (·.line) = blockNumber? (lines ++ [line]))
    (hgoes : p.current ≠ none →
      q.current ≠ none ∨ content line = "EndProject".toList ∧ openSection? lines = none) :
    Accounted (lines ++ [line]) q := by
  have hsame := statedAfter_concat_of_not hstated
  have hin := statedIn_concat_of_not hstated
  refine ⟨hscanned, hnumber, ?_, h.ended_concat (fun hline => ?_) fun _ => hgoes, ?_, ?_, ?_⟩
  · rw [openings_concat_of_not hopens, hblocks]
    exact h.declared
  · exact absurd (hopens.symm.trans hline) Bool.false_ne_true
  · simp only [hblocks, hin]
    exact h.own
  · simp only [hdependencies, hin]
    exact h.global
  · simp only [hblocks, hsame]
    exact h.placed

/-- A line that opens a block. -/
theorem Accounted.startBlock (h : Accounted lines p) {e : SolutionEntry}
    (hkind : lineKind (content line) = .entry) (houtside : p.current = none)
    (hread : readEntry (lines.length + 1) (content line) = some e)
    (hscanned : Scanned (lines ++ [line]) { p with current := some e }) :
    Accounted (lines ++ [line]) { p with current := some e } := by
  have hopens : opensBlock line = true := opensBlock_iff.2 hkind
  have hstated : ¬ IsStated lines line := fun hline => by
    have hother := lineKind_eq_other_iff.2 hline.2
    rw [hkind] at hother
    cases hother
  obtain ⟨typeId, name, path, id, hline, rfl⟩ :=
    (readEntry_eq_some (entryMark_of_lineKind hkind)).1 hread
  have hblocks : Progress.blocks { p with current := some (entryOf (lines.length + 1) typeId name
      path id) } = p.blocks ++ [entryOf (lines.length + 1) typeId name path id] := by
    simp [Progress.blocks, houtside]
  have hsame := statedAfter_concat_of_not hstated
  have hin := statedIn_concat_of_not hstated
  refine ⟨hscanned, ?_, ?_, h.ended_concat (fun _ => ⟨houtside, by simp⟩) fun hno => ?_, ?_, ?_, ?_⟩
  · simp [blockNumber?_concat, blockMark?, hkind, entryOf]
  · rw [openings_concat, hopens, if_pos rfl, hblocks, List.map_append]
    exact List.rel_append h.declared (.cons ⟨typeId, name, path, id, hline, rfl⟩ .nil)
  · exact absurd (hno.symm.trans hopens) Bool.false_ne_true
  · rw [hblocks, List.forall_mem_append, List.forall_mem_singleton]
    simp only [hin]
    refine ⟨h.own, ?_⟩
    have hnew : lines.length + 1 ∉ p.blocks.map (·.line) := fun hmem =>
      absurd (h.line_le hmem) (Nat.not_succ_le_self _)
    rw [show (entryOf (lines.length + 1) typeId name path id).line = lines.length + 1 from rfl,
      h.statedIn_eq_nil hnew]
    exact .nil
  · simp only [hin]
    exact h.global
  · simp only [hsame, hblocks, List.map_append, List.mem_append]
    exact fun x hx n hn => .inl (h.placed x hx n hn)

/-- A line that states a dependency of the open block. -/
theorem Accounted.own_dependency (h : Accounted lines p) {e : SolutionEntry} {target : String}
    (hopened : p.openSection = some dependencySection) (hinside : p.current = some e)
    (hread : OwnDependencyLine (content line) target)
    (hscanned : Scanned (lines ++ [line])
      { p with current := some { e with dependencies := e.dependencies ++ [target] } }) :
    Accounted (lines ++ [line])
      { p with current := some { e with dependencies := e.dependencies ++ [target] } } := by
  have hkind := hread.lineKind_eq
  have hopens : opensBlock line = false := opensBlock_eq_false (by simp [hkind])
  have hstated : IsStated lines line := h.isStated_iff.2 ⟨hopened, hkind⟩
  have hnumber : blockNumber? lines = some e.line := by rw [← h.number, hinside, Option.map_some]
  have hold : p.blocks = p.entries.reverse ++ [e] := by simp [Progress.blocks, hinside]
  have hblocks : Progress.blocks
      { p with current := some { e with dependencies := e.dependencies ++ [target] } } =
        p.entries.reverse ++ [{ e with dependencies := e.dependencies ++ [target] }] := rfl
  have hbare : (Progress.blocks
      { p with current := some { e with dependencies := e.dependencies ++ [target] } }).map bare =
        p.blocks.map bare := by
    rw [hblocks, hold, List.map_append, List.map_append]
    rfl
  have hlines := map_line_congr hbare
  refine ⟨hscanned, ?_, ?_, h.ended_concat (fun hline => ?_) fun _ _ => .inl (by simp), ?_, ?_, ?_⟩
  · simp [blockNumber?_concat, blockMark?, hkind, hnumber]
  · rw [openings_concat_of_not hopens, hbare]
    exact h.declared
  · exact absurd (hopens.symm.trans hline) Bool.false_ne_true
  · have hown := h.own
    have hpairwise := h.pairwise_blocks
    rw [hold, List.forall_mem_append, List.forall_mem_singleton] at hown
    rw [hold, List.map_append, List.pairwise_append] at hpairwise
    rw [hblocks, List.forall_mem_append, List.forall_mem_singleton]
    refine ⟨fun f hf => ?_, ?_⟩
    · have hlt := hpairwise.2.2 f.line (List.mem_map_of_mem hf) e.line (by simp)
      rw [statedIn_concat_of_ne (by simp [hnumber, hlt.ne'])]
      exact hown.1 f hf
    · rw [statedIn_concat, if_pos ⟨hstated, hnumber⟩]
      exact List.rel_append hown.2 (.cons hread .nil)
  · rw [statedIn_concat_of_ne (by simp [hnumber])]
    exact h.global
  · rw [hlines, statedAfter_concat, List.nil_append, if_pos hstated, List.forall_mem_append,
      List.forall_mem_singleton]
    refine ⟨h.placed, fun n hn => ?_⟩
    rw [hold]
    rw [hnumber] at hn
    simp [← Option.some.inj hn]

/-- A line that states a dependency of the project that it names. -/
theorem Accounted.global_dependency (h : Accounted lines p) {source target : String}
    (hopened : p.openSection = some dependencySection) (houtside : p.current = none)
    (hread : GlobalDependencyLine (content line) source target)
    (hscanned : Scanned (lines ++ [line])
      { p with dependencies := addDependencies p.dependencies source [target] }) :
    Accounted (lines ++ [line])
      { p with dependencies := addDependencies p.dependencies source [target] } := by
  have hkind := hread.lineKind_eq
  have hopens : opensBlock line = false := opensBlock_eq_false (by simp [hkind])
  have hstated : IsStated lines line := h.isStated_iff.2 ⟨hopened, hkind⟩
  have hnumber : blockNumber? lines = none := by rw [← h.number, houtside, Option.map_none]
  refine ⟨hscanned, ?_, ?_, h.ended_concat (fun hline => ?_) fun _ hne => .inl hne, ?_, ?_, ?_⟩
  · simp [blockNumber?_concat, blockMark?, hkind, hnumber, houtside]
  · rw [openings_concat_of_not hopens]
    exact h.declared
  · exact absurd (hopens.symm.trans hline) Bool.false_ne_true
  · intro e he
    rw [statedIn_concat_of_ne (by simp [hnumber])]
    exact h.own e he
  · obtain ⟨stated, hall, hget⟩ := h.global
    rw [statedIn_concat, if_pos ⟨hstated, hnumber⟩]
    refine ⟨stated ++ [(source, target)], List.rel_append hall (.cons hread .nil), fun id => ?_⟩
    rw [getD_get?_addDependencies, hget, List.filter_append, List.map_append]
    by_cases hid : source = id <;> simp [hid]
  · rw [statedAfter_concat, List.nil_append, if_pos hstated, List.forall_mem_append,
      List.forall_mem_singleton]
    exact ⟨h.placed, fun n hn => absurd (hnumber.symm.trans hn) (by simp)⟩

/-- What has been read goes on to account for all lines. -/
theorem Accounted.step (h : Accounted lines p)
    (hstep : Step (lines.length + 1) (content line) p q) : Accounted (lines ++ [line]) q := by
  have hscanned := h.toScanned.step hstep
  have hstated (hkind : lineKind (content line) ≠ .other) : ¬ IsStated lines line :=
    fun hline => hkind (lineKind_eq_other_iff.2 hline.2)
  have hnumber := blockNumber?_concat lines line
  cases hstep with
  | skip kind =>
    refine h.of_idle hscanned rfl rfl (opensBlock_eq_false (by simp [kind]))
      (hstated (by simp [kind])) ?_ .inl
    rw [hnumber, blockMark?, kind, h.number]
    rfl
  | startBlock e kind outside read => exact h.startBlock kind outside read hscanned
  | endBlock e kind inside closed =>
    refine h.of_idle hscanned ?_ rfl (opensBlock_eq_false (by simp [kind]))
      (hstated (by simp [kind])) ?_ fun _ => .inr ⟨?_, ?_⟩
    · simp [Progress.blocks, inside]
    · rw [hnumber, blockMark?, kind]
      rfl
    · exact eq_of_lineKind_entryEnd kind
    · have hopened := h.openSection
      rw [closed] at hopened
      exact Option.map_eq_none_iff.1 hopened.symm
  | startSection name kind =>
    refine h.of_idle hscanned rfl rfl (opensBlock_eq_false (by simp [kind]))
      (hstated (by simp [kind])) ?_ .inl
    rw [hnumber, blockMark?, kind, h.number]
    rfl
  | endSection kind =>
    refine h.of_idle hscanned rfl rfl (opensBlock_eq_false (by simp [kind]))
      (hstated (by simp [kind])) ?_ .inl
    rw [hnumber, blockMark?, kind, h.number]
    rfl
  | pass kind elsewhere =>
    refine h.of_idle hscanned rfl rfl (opensBlock_eq_false ?_) (fun hline => ?_) ?_ .inl
    · rcases kind with kind | ⟨kind, -⟩ <;> simp [kind]
    · exact elsewhere (h.isStated_iff.1 hline).1
    · rw [hnumber, ← h.number, blockMark?]
      rcases kind with kind | ⟨kind, outside⟩
      · rw [kind]
        rfl
      · rw [kind, outside]
        rfl
  | own e target opened inside read => exact h.own_dependency opened inside read hscanned
  | global source target opened outside read =>
    exact h.global_dependency opened outside read hscanned

/-! ## Texts -/

theorem Accounted.readLines {rest : List String} (h : Accounted lines p)
    (hread : readLines p (lines.length + 1) rest = .ok q) : Accounted (lines ++ rest) q := by
  induction rest generalizing lines p with
  | nil =>
    cases hread
    rwa [List.append_nil]
  | cons line rest ih =>
    obtain ⟨r, hstep, hrest⟩ := readLines_cons_eq_ok.1 hread
    rw [← List.singleton_append, ← List.append_assoc]
    refine ih (h.step hstep) ?_
    rwa [List.length_append, List.length_singleton]

theorem opensBlock_of_blank (h : isBlankText line = true) : opensBlock line = false := by
  rw [opensBlock, content_of_isBlankText h]
  rfl

theorem opensBlock_header {version : List Char} (h : content line = header.toList ++ version) :
    opensBlock line = false := by
  refine opensBlock_eq_false ?_
  rw [h, lineKind_header]
  simp

/-- What is read of a text accounts for all of its lines. The entries are declared by the lines that
open blocks, which are numbered from the header on; each block ends before the next one. The lines
of sections of dependencies that are no marks are, one by one, the dependencies of the blocks that
they stand in, or else of the projects that they name. -/
theorem parse_account {text : SolutionText} (h : parse lines = .ok text) :
    ∃ blank first rest version, lines = blank ++ first :: rest ∧
      (∀ line ∈ blank, isBlankText line = true) ∧ content first = header.toList ++ version ∧
      text.entries.map (·.line) = (openings (blank.length + 2) rest).map (·.2) ∧
      (text.entries.map (·.line)).Pairwise (· < ·) ∧
      List.Forall₂ DeclaredBy (openings (blank.length + 2) rest) (text.entries.map bare) ∧
      (∀ before opening after, lines = before ++ opening :: after → opensBlock opening = true →
        EndsAfter (before ++ [opening]) after) ∧
      (∀ e ∈ text.entries,
        List.Forall₂ OwnDependencyLine (statedIn (some e.line) lines) e.dependencies) ∧
      (∃ stated : List (String × String),
        List.Forall₂ (fun line x => GlobalDependencyLine line x.1 x.2) (statedIn none lines)
            stated ∧
          ∀ id, (text.dependencies.get? id).getD [] = (stated.filter (·.1 = id)).map (·.2) ++
            (text.entries.filter (·.projectId = id)).flatMap (·.dependencies)) ∧
      ∀ x ∈ statedAfter [] lines, ∀ n, x.1 = some n → n ∈ text.entries.map (·.line) := by
  obtain ⟨version, p, ⟨blank, first, rest, rfl, hblank, hfirst⟩, hread, hclosed, rfl⟩ :=
    parse_eq_ok_iff.1 h
  have haccounted : Accounted (blank ++ first :: rest) p := accounted_nil.readLines hread
  have hentries : (p.finish (String.ofList (trimList version))).entries = p.blocks := by
    rw [Progress.blocks, hclosed]
    exact (List.append_nil _).symm
  have hopenings : openings 1 (blank ++ first :: rest) = openings (blank.length + 2) rest := by
    have hno : ∀ line ∈ blank ++ [first], opensBlock line = false :=
      List.forall_mem_append.2 ⟨fun line hline => opensBlock_of_blank (hblank line hline),
        List.forall_mem_singleton.2 (opensBlock_header hfirst)⟩
    rw [← List.singleton_append, ← List.append_assoc, openings_append, openings_eq_nil 1 hno,
      List.length_append, List.length_singleton, List.nil_append, Nat.add_comm 1]
  have hdeclared := haccounted.declared
  rw [hopenings] at hdeclared
  rw [hentries]
  refine ⟨blank, first, rest, version, rfl, hblank, hfirst, map_line_of_declared hdeclared,
    haccounted.pairwise_blocks, hdeclared, fun before opening after hsplit hopening => ?_,
    haccounted.own, ?_, haccounted.placed⟩
  · exact (haccounted.ended before opening after hsplit hopening).resolve_right
      fun hopen => hopen.1 hclosed
  · obtain ⟨stated, hall, hget⟩ := haccounted.global
    refine ⟨stated, hall, fun id => ?_⟩
    rw [getD_get?_finish, hget, ← hentries]
    rfl

/-- Blocks with dependencies in and out of sections, and a section that is left open. -/
def accountLines : List String :=
  ["", "Microsoft Visual Studio Solution File, Format Version 8.00", "# Two projects",
    "Project(\"{T}\") = \"App\", \"App.csproj\", \"{A}\"",
    "ProjectSection(ProjectDependencies) = postProject", "{B} = {B}", "EndProjectSection",
    "EndProject", "Project(\"{T}\") = \"Base\", \"Base.csproj\", \"{B}\"", "EndProject",
    "GlobalSection(ProjectDependencies) = postSolution", "{A}.0 = {C}"]

/-- The entries that they declare. -/
def accountEntries : List SolutionEntry :=
  [⟨"{T}", "App", "App.csproj", "{A}", 4, ["{B}"]⟩, ⟨"{T}", "Base", "Base.csproj", "{B}", 9, []⟩]

theorem parse_account_open :
    ∃ text, parse accountLines = .ok text ∧ text.entries = accountEntries ∧
      text.entries.map (·.line) = [4, 9] ∧
      List.Forall₂ OwnDependencyLine ["{B} = {B}".toList] ["{B}"] ∧
      EndsAfter (accountLines.take 4) (accountLines.drop 4) := by
  have hparse : parse accountLines =
      .ok ⟨"8.00", accountEntries, [("{A}", ["{C}", "{B}"])]⟩ := by
    decide
  have hfirst : statedIn (some 4) accountLines = ["{B} = {B}".toList] := by decide
  obtain ⟨-, -, -, -, -, -, -, -, -, -, hends, hown, -⟩ := parse_account hparse
  exact ⟨_, hparse, rfl, rfl, hfirst ▸ hown _ List.mem_cons_self,
    hends (accountLines.take 3) accountLines[3] (accountLines.drop 4) rfl (by decide)⟩

end SolutionScript.SolutionText
