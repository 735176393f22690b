import SolutionScript.Proofs.Script.Targets

/-!
# Words for assemblies

The words on a line of a makefile: texts between quotes and runs without blanks. An NMAKE script
puts the path of an assembly that has spaces in quotes where other projects need it, and never where
it is made. So an assembly is one and the same word throughout if and only if the name of its file
has no blanks (`mentions_artifact`).
-/

namespace SolutionScript

open Text

namespace Makefile

/-! ## Tokens -/

/-- Whether a character ends a token. -/
def isBreak (c : Char) : Bool := isGap c || c == '\n'

/-- The tokens in the rest of a text, after the start of one. -/
def tokensFrom (isQuoted : Bool) (token : List Char) : List Char → List (List Char)
  | [] => if token.isEmpty then [] else [token]
  | c :: cs =>
    if isQuoted then
      if c = '"' then (token ++ [c]) :: tokensFrom false [] cs
      else tokensFrom true (token ++ [c]) cs
    else if isBreak c then (if token.isEmpty then [] else [token]) ++ tokensFrom false [] cs
    else tokensFrom (token.isEmpty && c == '"') (token ++ [c]) cs

/-- The tokens of a text: texts between quotes, with these, and runs without breaks. -/
def tokens (cs : List Char) : List (List Char) := tokensFrom false [] cs

variable {c : Char} {run piece token rest : List Char}

/-- A character that is no break goes on with the token that it follows. -/
theorem tokensFrom_cons (htoken : token ≠ []) (hc : isBreak c = false) (rest : List Char) :
    tokensFrom false token (c :: rest) = tokensFrom false (token ++ [c]) rest := by
  have hempty : token.isEmpty = false := by simpa using htoken
  rw [tokensFrom, if_neg Bool.false_ne_true, hc, if_neg Bool.false_ne_true, hempty, Bool.false_and]

/-- A break ends the token that it follows. -/
theorem tokensFrom_break (hc : isBreak c = true) (token rest : List Char) :
    tokensFrom false token (c :: rest) = tokensFrom false token [] ++ tokens rest := by
  simp only [tokensFrom, tokens, hc, Bool.false_eq_true, if_false, if_true]

theorem tokens_cons_break (hc : isBreak c = true) (rest : List Char) :
    tokens (c :: rest) = tokens rest :=
  tokensFrom_break hc [] rest

theorem tokensFrom_run (hrun : ∀ c ∈ run, isBreak c = false) (htoken : token ≠ []) :
    tokensFrom false token run = [token ++ run] := by
  induction run generalizing token with
  | nil => rw [List.append_nil, tokensFrom, if_neg (by simpa using htoken)]
  | cons c run ih =>
    rw [List.forall_mem_cons] at hrun
    rw [tokensFrom_cons htoken hrun.1, ih hrun.2 (by simp), List.append_assoc,
      List.singleton_append]

theorem tokensFrom_quoted (hquote : '"' ∉ run) (token rest : List Char) :
    tokensFrom true token (run ++ '"' :: rest) = (token ++ run ++ ['"']) :: tokens rest := by
  induction run generalizing token with
  | nil => rw [List.nil_append, List.append_nil, tokensFrom, if_pos rfl, if_pos rfl, tokens]
  | cons c run ih =>
    rw [List.mem_cons, not_or] at hquote
    rw [List.cons_append, tokensFrom, if_pos rfl, if_neg (Ne.symm hquote.1), ih hquote.2,
      List.append_assoc token, List.singleton_append]

/-- Only breaks give no tokens. -/
theorem eq_nil_of_tokensFrom {isQuoted : Bool} {cs : List Char}
    (h : tokensFrom isQuoted token cs = []) : token = [] ∧ ∀ c ∈ cs, isBreak c = true := by
  induction cs generalizing isQuoted token with
  | nil => exact ⟨by_contra fun htoken => by simp [tokensFrom, htoken] at h, by simp⟩
  | cons c cs ih =>
    rw [tokensFrom] at h
    split_ifs at h with _ _ hc hempty
    · exact absurd (ih h).1 (by simp)
    · exact ⟨List.isEmpty_iff.1 hempty, List.forall_mem_cons.2 ⟨hc, (ih h).2⟩⟩
    · exact absurd h (by simp)
    · exact absurd (ih h).1 (by simp)

/-- A text that does not end with a break is part of one token if and only if it has no breaks. -/
theorem tokensFrom_eq_singleton (htoken : token ≠ [])
    (hlast : ∀ c ∈ rest.getLast?, isBreak c = false) :
    (∃ t, tokensFrom false token rest = [t]) ↔ ∀ c ∈ rest, isBreak c = false := by
  refine ⟨fun h => ?_, fun h => ⟨_, tokensFrom_run h htoken⟩⟩
  induction rest generalizing token with
  | nil => simp
  | cons c rest ih =>
    obtain ⟨t, ht⟩ := h
    cases hc : isBreak c with
    | true =>
      -- The rest has no tokens, so it is all breaks, up to the end.
      rw [tokensFrom_break hc, tokensFrom, if_neg (by simpa using htoken), List.singleton_append,
        List.cons.injEq] at ht
      obtain ⟨-, hrest⟩ := eq_nil_of_tokensFrom ht.2
      have hbreaks : ∀ d ∈ c :: rest, isBreak d = true := List.forall_mem_cons.2 ⟨hc, hrest⟩
      have hbreak := hbreaks _ (List.getLast_mem (List.cons_ne_nil c rest))
      have hend := hlast _ (List.getLast?_eq_some_getLast (List.cons_ne_nil c rest))
      exact absurd (hend.symm.trans hbreak) Bool.false_ne_true
    | false =>
      rw [tokensFrom_cons htoken hc] at ht
      refine List.forall_mem_cons.2 ⟨hc, ih (by simp) (fun d hd => hlast d ?_) ⟨t, ht⟩⟩
      cases rest with
      | nil => cases hd
      | cons => rwa [List.getLast?_cons_cons]

/-! ## Pieces -/

/-- A piece of a text whose tokens end before any break. -/
def Closed (piece : List Char) : Prop :=
  ∀ c rest, isBreak c = true → tokens (piece ++ c :: rest) = tokens piece ++ tokens rest

theorem closed_bare (h : '"' ∉ piece) : Closed piece := by
  intro c rest hc
  suffices ∀ token, tokensFrom false token (piece ++ c :: rest) =
      tokensFrom false token piece ++ tokens rest from this []
  induction piece with
  | nil => exact fun token => tokensFrom_break hc token rest
  | cons d piece ih =>
    intro token
    rw [List.mem_cons, not_or] at h
    have hquote : (d == '"') = false := by simpa using Ne.symm h.1
    cases hd : isBreak d with
    | true =>
      rw [List.cons_append, tokensFrom_break hd, tokensFrom_break hd, tokens, tokens, ih h.2,
        List.append_assoc]
    | false =>
      simp only [List.cons_append, tokensFrom, hd, hquote, Bool.and_false, Bool.false_eq_true,
        if_false, ih h.2]

theorem tokensFrom_quote (h : '"' ∉ piece) (rest : List Char) :
    tokens ('"' :: (piece ++ '"' :: rest)) = ('"' :: (piece ++ ['"'])) :: tokens rest := by
  rw [tokens, tokensFrom, if_neg Bool.false_ne_true, if_neg (by decide)]
  exact tokensFrom_quoted h ['"'] rest

theorem closed_quoted (h : '"' ∉ piece) : Closed ('"' :: (piece ++ ['"'])) := by
  intro c rest hc
  rw [List.cons_append, List.append_assoc, List.singleton_append, tokensFrom_quote h,
    tokensFrom_quote h, tokens_cons_break hc]
  rfl

theorem tokens_pieces {pieces : List (List Char)} (h : ∀ piece ∈ pieces, Closed piece)
    (rest : List Char) :
    tokens (pieces.flatMap (· ++ wordGap) ++ rest) = pieces.flatMap tokens ++ tokens rest := by
  induction pieces with
  | nil => rfl
  | cons piece pieces ih =>
    rw [List.forall_mem_cons] at h
    have hgap : piece ++ wordGap ++ pieces.flatMap (· ++ wordGap) ++ rest =
        piece ++ ' ' :: '\t' :: (pieces.flatMap (· ++ wordGap) ++ rest) := by
      simp [wordGap]
    rw [List.flatMap_cons, hgap, h.1 _ _ (by decide), tokens_cons_break (by decide), ih h.2,
      List.flatMap_cons, List.append_assoc]

end Makefile

namespace NMake

open Makefile

/-! ## Words of rules -/

/-- The words that the line of a rule has after the colon. -/
def wordsOf (r : Rule) : List (List Char) :=
  tokens (joined ((ruleLine r).toList.drop (r.target.toList.length + 1)))

theorem wordsOf_eq (r : Rule) :
    wordsOf r =
      tokens (joined (lineContinuation.intercalate (r.prerequisites.map String.toList))) := by
  have hdrop (more : List Char) :
      (r.target.toList ++ ':' :: more).drop (r.target.toList.length + 1) = more := by
    rw [← List.drop_drop, List.drop_left, List.drop_succ_cons, List.drop_zero]
  cases hempty : r.prerequisites with
  | nil =>
    have hline : (ruleLine r).toList = r.target.toList ++ [':'] := by
      simp [ruleLine, dependencyLine, hempty]
    rw [wordsOf, hline, hdrop]
    rfl
  | cons first more =>
    have hline : (ruleLine r).toList = r.target.toList ++ ':' :: ' ' ::
        lineContinuation.intercalate ((first :: more).map String.toList) := by
      simp [ruleLine, dependencyLine, hempty, Text.join, String.toList_intercalate, continuation,
        lineContinuation]
    rw [wordsOf, hline, hdrop, joined_cons (.inl (by decide)), tokens_cons_break (by decide)]

/-- The words of a rule are read one after the other. -/
theorem wordsOf_append {r : Rule} {first more : List String} (hr : r.prerequisites = first ++ more)
    (h : ∀ s ∈ first, Closed s.toList ∧ '\n' ∉ s.toList) :
    wordsOf r = first.flatMap (fun s => tokens s.toList) ++
      tokens (joined (lineContinuation.intercalate (more.map String.toList))) := by
  have hnewline : ∀ piece ∈ first.map String.toList, '\n' ∉ piece := by
    simpa using fun s hs => (h s hs).2
  have hclosed : ∀ piece ∈ first.map String.toList, Closed piece := by
    simpa using fun s hs => (h s hs).1
  rw [wordsOf_eq, hr, List.map_append, ← List.flatMap_map (f := String.toList) (g := tokens)]
  generalize first.map String.toList = pieces at hnewline hclosed ⊢
  cases more with
  | nil =>
    rcases List.eq_nil_or_concat' pieces with rfl | ⟨init, last, rfl⟩
    · rfl
    · rw [List.forall_mem_append, List.forall_mem_singleton] at hnewline hclosed
      have hlast : joined last = last := by
        simpa [joined] using @joined_append last [] hnewline.2 (by simp)
      rw [List.map_nil, List.append_nil, intercalate_concat, joined_parts hnewline.1,
        tokens_pieces hclosed.1, hlast, List.flatMap_append, List.flatMap_singleton]
      exact (List.append_nil _).symm
  | cons next more =>
    rw [List.map_cons, intercalate_append_cons, joined_parts hnewline, tokens_pieces hclosed]

/-! ## Mentions of assemblies -/

/-- The words for the assembly of a project in the rules of a script: where all assemblies are made,
where this one is made, and where it is needed. -/
inductive Mentions (o : BuildOrder) (p : Project) : Rule → String → Prop
  | all : Mentions o p (allRule o) (artifact p)
  | own : Mentions o p (assemblyRule (o.needed p) p) (artifact p)
  | needed {q : Project} (hq : q ∈ o.projects) (hp : p ∈ o.needed q) :
    Mentions o p (assemblyRule (o.needed q) q) (quote (artifact p))

section

variable {o : BuildOrder} {p : Project}

theorem assemblyRule_mem_writtenRules (hp : p ∈ o.projects) :
    assemblyRule (o.needed p) p ∈ writtenRules o :=
  List.mem_cons_of_mem _ (List.mem_append_left _ (List.mem_flatMap.2 ⟨p, hp, List.mem_cons_self⟩))

/-- A mention is a word of a rule of the script. -/
theorem Mentions.mem {r : Rule} {w : String} (h : Mentions o p r w) (hp : p ∈ o.projects) :
    r ∈ writtenRules o ∧ w ∈ r.target :: r.prerequisites := by
  cases h with
  | all => exact ⟨List.mem_cons_self, List.mem_cons_of_mem _ (List.mem_map_of_mem hp)⟩
  | own => exact ⟨assemblyRule_mem_writtenRules hp, List.mem_cons_self⟩
  | @needed q hq hneeded =>
    have hmem : artifact p ∈ prerequisites (o.needed q) q :=
      List.mem_append_left _ (List.mem_append_left _ (List.mem_map_of_mem hneeded))
    exact ⟨assemblyRule_mem_writtenRules hq, List.mem_cons_of_mem _ (List.mem_map_of_mem hmem)⟩

/-- What stands before the name of a file in the path of an assembly has neither breaks nor
quotes. -/
theorem exists_toList_artifact (p : Project) :
    ∃ start, (artifact p).toList = '$' :: (start ++ p.outputFile.toList) ∧
      ∀ c ∈ start, isBreak c = false ∧ c ≠ '"' :=
  ⟨"(BUILD_BASEDIR)\\".toList, by simp [artifact, baseReference], by decide⟩

theorem tokens_artifact (p : Project) :
    (∃ t, tokens (artifact p).toList = [t]) ↔ ∀ c ∈ p.outputFile.toList, isBreak c = false := by
  obtain ⟨start, htext, hstart⟩ := exists_toList_artifact p
  have hend := getLast?_artifact_mem p
  have hlast : ∀ c ∈ (start ++ p.outputFile.toList).getLast?, isBreak c = false := by
    intro c hc
    rw [htext, List.getLast?_cons, Option.mem_def.1 hc] at hend
    simp at hend
    rcases hend with rfl | rfl <;> decide
  have hread : tokens (artifact p).toList =
      tokensFrom false ['$'] (start ++ p.outputFile.toList) := by
    rw [htext]
    rfl
  rw [hread, tokensFrom_eq_singleton (by simp) hlast, List.forall_mem_append, and_iff_right]
  exact fun c hc => (hstart c hc).1

/-- A path without spaces has no quotes. -/
theorem quote_artifact (h : ∀ c ∈ p.outputFile.toList, isBreak c = false) :
    quote (artifact p) = artifact p := by
  have hspace : ' ' ∉ p.outputFile.toList := fun hmem => absurd (h _ hmem) (by decide)
  rw [quote, if_neg]
  simpa [artifact, baseReference] using hspace

/-- A path with spaces is one word between quotes. -/
theorem tokens_quote_artifact (hspace : ' ' ∈ p.outputFile.toList)
    (hquote : '"' ∉ p.outputFile.toList) :
    tokens (quote (artifact p)).toList = [(quote (artifact p)).toList] := by
  have hcontains : (artifact p).toList.contains ' ' = true := by simp [artifact, hspace]
  have hartifact : '"' ∉ (artifact p).toList := by
    simpa [artifact, baseReference] using hquote
  have htext : (quote (artifact p)).toList = '"' :: ((artifact p).toList ++ ['"']) := by
    rw [quote, if_pos hcontains]
    simp
  rw [htext]
  exact tokensFrom_quote hartifact []

/-- A path between quotes or not, of a file whose name has no quotes, ends before any break. -/
theorem closed_artifact (h : '"' ∉ p.outputFile.toList ∧ '\n' ∉ p.outputFile.toList) :
    ∀ s ∈ [artifact p, quote (artifact p)], Closed s.toList ∧ '\n' ∉ s.toList := by
  have hartifact : '"' ∉ (artifact p).toList ∧ '\n' ∉ (artifact p).toList := by
    simpa [artifact, baseReference] using h
  have hbare : Closed (artifact p).toList ∧ '\n' ∉ (artifact p).toList :=
    ⟨closed_bare hartifact.1, hartifact.2⟩
  refine List.forall_mem_cons.2 ⟨hbare, List.forall_mem_singleton.2 ?_⟩
  rw [quote]
  split
  · have htext : ("\"" ++ artifact p ++ "\"").toList = '"' :: ((artifact p).toList ++ ['"']) := by
      simp
    rw [htext]
    exact ⟨closed_quoted hartifact.1, by simpa using hartifact.2⟩
  · exact hbare

/-- An assembly is one word throughout if and only if the name of its file has no breaks. -/
theorem mentions_iff :
    (∃ t, ∀ r w, Mentions o p r w → tokens w.toList = [t]) ↔
      ∀ c ∈ p.outputFile.toList, isBreak c = false := by
  refine ⟨fun ⟨t, ht⟩ => (tokens_artifact p).1 ⟨t, ht _ _ .own⟩, fun h => ?_⟩
  obtain ⟨t, ht⟩ := (tokens_artifact p).2 h
  refine ⟨t, fun r w hmention => ?_⟩
  cases hmention with
  | all => exact ht
  | own => exact ht
  | needed => rwa [quote_artifact h]

end

/-- The words of the rule for all assemblies are those of their paths. -/
theorem wordsOf_allRule {o : BuildOrder}
    (h : ∀ p ∈ o.projects, '"' ∉ p.outputFile.toList ∧ '\n' ∉ p.outputFile.toList) :
    wordsOf (allRule o) = o.projects.flatMap fun p => tokens (artifact p).toList := by
  have hclosed : ∀ s ∈ o.projects.map artifact, Closed s.toList ∧ '\n' ∉ s.toList :=
    List.forall_mem_map.2 fun p hp => closed_artifact (h p hp) _ (by simp)
  have hsplit : (allRule o).prerequisites = o.projects.map artifact ++ [] :=
    (List.append_nil _).symm
  rw [wordsOf_append hsplit hclosed, List.flatMap_map]
  exact List.append_nil _

/-- The words of the rule for an assembly start with those for the others that it needs. -/
theorem prefix_wordsOf_assemblyRule {needed : List Project} (p : Project)
    (h : ∀ q ∈ needed, '"' ∉ q.outputFile.toList ∧ '\n' ∉ q.outputFile.toList) :
    needed.flatMap (fun q => tokens (quote (artifact q)).toList) <+:
      wordsOf (assemblyRule needed p) := by
  have hclosed : ∀ s ∈ needed.map fun q => quote (artifact q), Closed s.toList ∧ '\n' ∉ s.toList :=
    List.forall_mem_map.2 fun q hq => closed_artifact (h q hq) _ (by simp)
  have hsplit : (assemblyRule needed p).prerequisites = needed.map (fun q => quote (artifact q)) ++
      (sources p ++ (embedded p).map (·.1)).map quote := by
    simp [assemblyRule, prerequisites, List.map_append, List.append_assoc, Function.comp_def]
  rw [wordsOf_append hsplit hclosed, List.flatMap_map]
  exact List.prefix_append _ _

/-- The lines of a script that start rules are written for these rules. An assembly is one and the
same word in all of them if and only if the name of its file has no breaks. With a space in the
name it is one word where it is needed, but not where it is made. -/
theorem mentions_artifact {o : BuildOrder} {m : Parameters} {solutionName text : String}
    (h : script o m solutionName = .ok text) :
    ∃ rest, text = preamble m solutionName ++ rest ∧
      rest = String.ofList (withEnds ['\n'] (ruleLines o m.configurationName)) ∧
      WritesRules (ruleLines o m.configurationName) (writtenRules o) ∧
      (∀ p ∈ o.projects,
        (∀ r w, Mentions o p r w → r ∈ writtenRules o ∧ w ∈ r.target :: r.prerequisites) ∧
        ((∃ t, ∀ r w, Mentions o p r w → tokens w.toList = [t]) ↔
          ∀ c ∈ p.outputFile.toList, isBreak c = false) ∧
        (' ' ∈ p.outputFile.toList → '"' ∉ p.outputFile.toList →
          tokens (quote (artifact p)).toList = [(quote (artifact p)).toList] ∧
            ¬ ∃ t, tokens (artifact p).toList = [t])) ∧
      ((∀ p ∈ o.projects, '"' ∉ p.outputFile.toList ∧ '\n' ∉ p.outputFile.toList) →
        wordsOf (allRule o) = o.projects.flatMap (fun p => tokens (artifact p).toList) ∧
        ∀ p ∈ o.projects, (o.needed p).flatMap (fun q => tokens (quote (artifact q)).toList) <+:
          wordsOf (assemblyRule (o.needed p) p)) := by
  obtain ⟨hneeded, rfl⟩ := script_eq_ok.1 h
  refine ⟨_, rfl, rfl, writesRules_ruleLines o _,
    fun p hp => ⟨fun r w hmention => hmention.mem hp, mentions_iff, fun hspace hquote =>
      ⟨tokens_quote_artifact hspace hquote, ?_⟩⟩,
    fun hfiles => ⟨wordsOf_allRule hfiles, fun p hp => prefix_wordsOf_assemblyRule p fun q hq =>
      hfiles q ((BuildOrder.needs_of_dependencies (hneeded p hp)).mem hq)⟩⟩
  rw [tokens_artifact]
  exact fun hbreaks => absurd (hbreaks _ hspace) (by decide)

theorem mentions_artifact_pair :
    ∃ text, script ⟨[resourceLibrary, libraryProgram]⟩ [] "Pair" = .ok text ∧
      (∃ t, ∀ r w, Mentions ⟨[resourceLibrary, libraryProgram]⟩ resourceLibrary r w →
        tokens w.toList = [t]) ∧
      wordsOf (allRule ⟨[resourceLibrary, libraryProgram]⟩) =
        ["$(BUILD_BASEDIR)\\Library.dll".toList, "$(BUILD_BASEDIR)\\App.exe".toList] := by
  have horder : BuildOrder.ofProjects [libraryProgram, resourceLibrary] =
      .ok ⟨[resourceLibrary, libraryProgram]⟩ := by
    rw [BuildOrder.ofProjects_eq_arrange (by decide) (by cbv)]
    decide
  have hneeded := fun p hp => BuildOrder.dependencies_needed
    (BuildOrder.exists_dependencies (p := p) (by decide) horder hp)
  obtain ⟨text, htext⟩ : ∃ text, script ⟨[resourceLibrary, libraryProgram]⟩ [] "Pair" = .ok text :=
    ⟨_, script_eq_ok.2 ⟨hneeded, rfl⟩⟩
  obtain ⟨-, -, -, -, hmentions, hwords⟩ := mentions_artifact htext
  refine ⟨text, htext, ((hmentions resourceLibrary List.mem_cons_self).2.1).2 (by decide), ?_⟩
  rw [(hwords (by decide)).1]
  decide

/-- A library with a space in its name. -/
def myLibrary : Project := { id := "L", name := "My Lib", path := "Lib.csproj" }

/-- A program that needs it. -/
def myProgram : Project :=
  ["L"].foldl .addDependency { id := "P", name := "App", path := "App.csproj", index := 1 }

/-- A library with a space in its name is one word for the program that needs it, and two where it
is made. -/
theorem mentions_differ :
    ∃ o text r w r' w', BuildOrder.ofProjects [myLibrary, myProgram] = .ok o ∧
      script o [] "" = .ok text ∧ myLibrary ∈ o.projects ∧
      Mentions o myLibrary r w ∧ r ∈ writtenRules o ∧
      Mentions o myLibrary r' w' ∧ r' ∈ writtenRules o ∧
      tokens w.toList = ["$(BUILD_BASEDIR)\\My".toList, "Lib.dll".toList] ∧
      tokens w'.toList = ["\"$(BUILD_BASEDIR)\\My Lib.dll\"".toList] := by
  have horder : BuildOrder.ofProjects [myLibrary, myProgram] = .ok ⟨[myLibrary, myProgram]⟩ := by
    rw [BuildOrder.ofProjects_eq_arrange (by decide) (by cbv)]
    decide
  have hlibrary : BuildOrder.dependencies ⟨[myLibrary, myProgram]⟩ myLibrary = .ok [] := by cbv
  have hprogram : BuildOrder.dependencies ⟨[myLibrary, myProgram]⟩ myProgram = .ok [myLibrary] := by
    cbv
  have hneeded : ∀ p ∈ [myLibrary, myProgram], BuildOrder.dependencies ⟨[myLibrary, myProgram]⟩ p =
      .ok (BuildOrder.needed ⟨[myLibrary, myProgram]⟩ p) := by
    rw [List.forall_mem_cons, List.forall_mem_singleton]
    exact ⟨BuildOrder.dependencies_needed ⟨_, hlibrary⟩,
      BuildOrder.dependencies_needed ⟨_, hprogram⟩⟩
  have hmention : myLibrary ∈ BuildOrder.needed ⟨[myLibrary, myProgram]⟩ myProgram := by
    rw [BuildOrder.needed_eq hprogram]
    exact List.mem_singleton_self _
  exact ⟨_, _, _, _, _, _, horder, script_eq_ok.2 ⟨hneeded, rfl⟩, List.mem_cons_self, .own,
    assemblyRule_mem_writtenRules List.mem_cons_self, .needed (by simp) hmention,
    assemblyRule_mem_writtenRules (by simp), by decide, by decide⟩

end NMake

end SolutionScript
