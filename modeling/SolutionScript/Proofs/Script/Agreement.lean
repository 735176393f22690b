import SolutionScript.Proofs.Script.CommandLine
import SolutionScript.Proofs.Script.Task

/-!
# Agreement of the formats

The NMAKE script for projects is read as their compilations, in build order
(`compilations_ruleLines`), where nothing in a command that has no quotes is split. So it compiles
what the NAnt script compiles (`scripts_agree`).
-/

namespace SolutionScript.NMake

open Text Makefile Xml

/-! ## Lines -/

/-- Joined lines are read as compilations, whatever was made before. -/
def Yields (ls : List (List Char)) (cs : List Compilation) : Prop :=
  ∀ made, ∃ made', ∀ more, readLines made (ls ++ more) = cs ++ readLines made' more

/-- Lines are joined to lines that are read as compilations. -/
def Compiles (lines : List String) (cs : List Compilation) : Prop :=
  ∃ ls, Joins lines ls ∧ Yields ls cs

section

variable {ls ls' : List (List Char)} {cs cs' : List Compilation} {lines more : List String}

theorem yields_nil : Yields [] [] := fun made => ⟨made, fun _ => rfl⟩

theorem Yields.append (h : Yields ls cs) (h' : Yields ls' cs') :
    Yields (ls ++ ls') (cs ++ cs') := by
  intro made
  obtain ⟨between, hbetween⟩ := h made
  obtain ⟨made', hmade'⟩ := h' between
  refine ⟨made', fun more => ?_⟩
  rw [List.append_assoc, hbetween, hmade', List.append_assoc]

/-- A rule says what the commands after it make. -/
theorem readLines_rule {line : List Char} {rule : Rule} (h : readRule? line = some rule)
    (made : String) (more : List (List Char)) :
    readLines made (line :: more) = readLines (firstTarget rule) more := by
  have hcommand : isCommand line ≠ true := fun hcommand => by
    rw [readRule?, if_pos hcommand] at h
    cases h
  rw [readLines, if_neg hcommand, h]

/-- A line that calls no compiler. -/
theorem yields_other {line : List Char}
    (h : isCommand line = true → ∀ made, readCommand? made line = none) : Yields [line] [] := by
  intro made
  by_cases hcommand : isCommand line = true
  · refine ⟨made, fun more => ?_⟩
    rw [List.singleton_append, readLines, if_pos hcommand, h hcommand]
    rfl
  · cases hrule : readRule? line with
    | none =>
      refine ⟨made, fun more => ?_⟩
      rw [List.singleton_append, readLines, if_neg hcommand, hrule, List.nil_append]
    | some rule =>
      refine ⟨firstTarget rule, fun more => ?_⟩
      rw [List.singleton_append, readLines_rule hrule, List.nil_append]

theorem compiles_nil : Compiles [] [] := ⟨[], fun _ => rfl, yields_nil⟩

theorem Compiles.append (h : Compiles lines cs) (h' : Compiles more cs') :
    Compiles (lines ++ more) (cs ++ cs') := by
  obtain ⟨ls, hls, hyields⟩ := h
  obtain ⟨ls', hls', hyields'⟩ := h'
  exact ⟨ls ++ ls', hls.append hls', hyields.append hyields'⟩

theorem Compiles.flatMap {α : Type} {l : List α} {f : α → List String} {g : α → List Compilation}
    (h : ∀ a ∈ l, Compiles (f a) (g a)) : Compiles (l.flatMap f) (l.flatMap g) := by
  induction l with
  | nil => exact compiles_nil
  | cons a l ih =>
    rw [List.forall_mem_cons] at h
    exact h.1.append (ih h.2)

/-- A line that calls no compiler. -/
theorem compiles_line {s : String} (h : IsWhole s.toList)
    (hother : isCommand s.toList = true → ∀ made, readCommand? made s.toList = none) :
    Compiles [s] [] :=
  ⟨[s.toList], joins_line h, yields_other hother⟩

theorem compiles_lines (h : ∀ s ∈ lines, Compiles [s] []) : Compiles lines [] := by
  have hall := Compiles.flatMap h
  rwa [List.flatMap_singleton', List.flatMap_eq_nil_iff.2 fun _ _ => rfl] at hall

theorem compiles_blank : Compiles [""] [] :=
  compiles_line ⟨by simp, by simp⟩ fun h => absurd h (by decide)

/-- A command that starts with a word for no compiler. -/
theorem readCommand?_other {start : String} (word more : String)
    (h : start.toList = '\t' :: (word.toList ++ ' ' :: more.toList) ∧ word.toList ≠ [] ∧
      (∀ c ∈ word.toList, c ≠ '"' ∧ isGap c = false) ∧ compilerLanguage? word.toList = none)
    (made rest : String) : readCommand? made (start ++ rest).toList = none := by
  obtain ⟨hstart, hne, hword, hnone⟩ := h
  have harguments : arguments (start ++ rest).toList =
      word.toList :: arguments (more.toList ++ rest.toList) := by
    rw [String.toList_append, hstart, List.cons_append, List.append_assoc, List.cons_append,
      arguments, argumentsFrom_nil_gap (by decide), says_plain hword, List.nil_append,
      argumentsFrom_gap hne (by decide), arguments]
  rw [readCommand?, harguments]
  simp only [hnone, Option.map_none]

/-- The compilations of a makefile of some lines. -/
theorem Compiles.compilations_eq (h : Compiles lines cs) :
    compilations (String.ofList (withEnds ['\n'] lines)) = cs := by
  obtain ⟨ls, hls, hyields⟩ := h
  obtain ⟨made', hmade'⟩ := hyields ""
  have hlines := hls []
  have hblank := hmade' (logicalLines [])
  have hnil (made : String) : readLines made (logicalLines []) = [] := by
    have hlogical : logicalLines [] = [[]] := by decide
    rw [hlogical]
    rfl
  rw [List.append_nil] at hlines
  rw [compilations, String.toList_ofList, hlines, hblank, hnil, List.append_nil]

end

/-! ## What ends no line before its end -/

section

variable {s : String}

theorem over_ne_newline (h : Over (isQuotable · = true) s) : Over (· ≠ '\n') s :=
  fun c hc heq => absurd (heq ▸ h c hc) (by decide)

theorem isWhole_of (h : Over (isQuotable · = true) s) (hend : s.toList.getLast? ≠ some '\\') :
    IsWhole s.toList := ⟨fun hmem => over_ne_newline h _ hmem rfl, hend⟩

theorem isWhole_quote (h : Over (isQuotable · = true) s)
    (hend : (quote s).toList.getLast? ≠ some '\\') : IsWhole (quote s).toList :=
  ⟨fun hmem => over_quote (over_ne_newline h) (by decide) _ hmem rfl, hend⟩

theorem getLast?_quote (h : s.toList.getLast? ≠ some '\\') :
    (quote s).toList.getLast? ≠ some '\\' := by
  rw [quote]
  split
  · rw [getLast?_append (by decide)]
    decide
  · exact h

theorem getLast?_append_ne {t : String} (hs : s.toList.getLast? ≠ some '\\')
    (ht : t.toList.getLast? ≠ some '\\') : (s ++ t).toList.getLast? ≠ some '\\' := by
  rw [String.toList_append, List.getLast?_append]
  cases hend : t.toList.getLast? with
  | none => exact hs
  | some c =>
    rw [Option.some_or, ← hend]
    exact ht

/-- A name under which a file is embedded has no backslash at its end. -/
theorem getLast?_resourceName (p : Project) (f : ProjectFile) :
    (p.resourceName f).toList.getLast? ≠ some '\\' := by
  have hreplaced (path : String) : Over (· ≠ '\\') (replace '\\' '.' path) := by
    rw [replace, over_ofList, replaceList]
    intro c hc
    obtain ⟨d, -, rfl⟩ := List.mem_map.1 hc
    split
    · decide
    · assumption
  have hdotted : (if f.isResx then DescriptorPath.stem f.relativePath ++ ".resources"
      else replace '/' '.' (replace '\\' '.' f.relativePath)).toList.getLast? ≠ some '\\' := by
    split
    · rw [getLast?_append (by decide)]
      decide
    · exact fun hend => (hreplaced _).replace _ (by decide) _ (List.mem_of_getLast? hend) rfl
  rw [Project.resourceName]
  split
  · exact hdotted
  · refine getLast?_append_ne ?_ hdotted
    rw [getLast?_append (by decide)]
    decide

end

/-! ## Rules -/

/-- The command for a project once its lines are joined. -/
def compilerCommand (needed : List Project) (p : Project) (c : Configuration) : List Char :=
  wordGap.intercalate ((("\t" ++ compilerMacro p.kind ++ " " ++ "/nologo") ::
    (flags needed p c ++ (sources p).map quote).tail).map String.toList)

theorem isCommand_compilerCommand (needed : List Project) (p : Project) (c : Configuration) :
    isCommand (compilerCommand needed p c) = true := by
  rw [compilerCommand, List.map_cons, intercalate_cons, String.toList_append, String.toList_append,
    String.toList_append]
  rfl

theorem readCommand?_makeFolder (made folder : String) :
    readCommand? made (makeFolder folder).toList = none := by
  unfold makeFolder
  simp only [String.append_assoc]
  exact readCommand?_other "@if" "not exist \"" (by decide) made _

/-- A path that is not empty starts no command. -/
theorem isCommand_quote_append {s : String} (h : Over (isQuotable · = true) s) (hne : s.toList ≠ [])
    (t : String) : isCommand (quote s ++ t).toList = false := by
  obtain ⟨c, cs, hcons⟩ := List.exists_cons_of_ne_nil hne
  have hc : c ≠ '\t' := by
    rintro rfl
    exact absurd (h '\t' (by simp [hcons])) (by decide)
  obtain ⟨d, ds, hquote, hd⟩ : ∃ d ds, (quote s).toList = d :: ds ∧ d ≠ '\t' := by
    rw [quote]
    split
    · exact ⟨'"', _, by simp; rfl, by decide⟩
    · exact ⟨c, cs, hcons, hc⟩
  rw [String.toList_append, hquote, List.cons_append, isCommand]
  rintro _ ⟨⟩
  exact hd rfl

section

variable {p : Project} (h : p.TextsOver (isQuotable · = true))
include h

theorem compiles_resourceRule {f : ProjectFile} (hf : f ∈ p.resxFiles)
    (hend : (quote (p.resolve f.relativePath)).toList.getLast? ≠ some '\\') :
    Compiles (resourceRule p f) [] := by
  have hown := isQuotable_of_isOwnChar
  have hover : Over (isQuotable · = true) (compiledResource p f) :=
    (over_embedded hown h (compiledResource p f, p.resourceName f)
      (List.mem_append_left _ (List.mem_map_of_mem hf))).1
  have htarget := isWhole_quote hover (getLast?_quote (getLast?_compiledResource hf))
  have hsource := isWhole_quote (over_resolve hown h
    (List.mem_filter.1 (List.mem_filter.1 hf).1).1) hend
  have hfolder := over_ne_newline (over_resourceFolder hown h)
  have hline : Compiles [quote (compiledResource p f) ++ ": " ++ quote (p.resolve f.relativePath)]
      [] := by
    refine compiles_line ?_ fun hcommand => ?_
    · rw [String.toList_append, String.toList_append]
      exact (htarget.append ⟨by decide, by decide⟩).append hsource
    · rw [String.append_assoc, isCommand_quote_append hover
        (by simp [compiledResource, resourceFolder, baseReference])] at hcommand
      cases hcommand
  have hcommand : Compiles ["\t$(RESGEN) /nologo " ++ quote (p.resolve f.relativePath) ++ " " ++
      quote (compiledResource p f)] [] := by
    refine compiles_line ?_ fun _ made => ?_
    · rw [String.toList_append, String.toList_append, String.toList_append]
      exact ((IsWhole.append ⟨by decide, by decide⟩ hsource).append ⟨by decide, by decide⟩).append
        htarget
    · rw [String.append_assoc, String.append_assoc]
      exact readCommand?_other "$(RESGEN)" "/nologo " (by decide) made _
  exact hline.append ((compiles_line (isWhole_makeFolder hfolder) fun _ made =>
    readCommand?_makeFolder made _).append (hcommand.append compiles_blank))

variable {needed : List Project} {configuration : String}
  (hneeded : ∀ q ∈ needed, q.TextsOver (isQuotable · = true))
  (hspoken : IsSpoken p (p.configuration configuration))
include hspoken

theorem isWhole_source {s : String} (hs : s ∈ sources p) : IsWhole (quote s).toList := by
  obtain ⟨f, hf, rfl⟩ := List.mem_map.1 hs
  have hmem := (List.mem_filter.1 hf).1
  exact isWhole_quote (over_resolve isQuotable_of_isOwnChar h hmem) (hspoken.files_end f hmem)

theorem isWhole_embedded {a : String × String} (ha : a ∈ embedded p) :
    IsWhole (quote a.1).toList ∧ IsWhole a.2.toList := by
  obtain ⟨hpath, hname⟩ := over_embedded isQuotable_of_isOwnChar h a ha
  rcases List.mem_append.1 ha with ha | ha
  · obtain ⟨f, hf, rfl⟩ := List.mem_map.1 ha
    exact ⟨isWhole_quote hpath (getLast?_quote (getLast?_compiledResource hf)),
      isWhole_of hname (getLast?_resourceName p f)⟩
  · obtain ⟨f, hf, rfl⟩ := List.mem_map.1 ha
    exact ⟨isWhole_quote hpath (hspoken.files_end f (List.mem_filter.1 (List.mem_filter.1 hf).1).1),
      isWhole_of hname (getLast?_resourceName p f)⟩

include hneeded

theorem isWhole_reference {path : String} (hpath : path ∈ referencePaths needed p) :
    IsWhole (quote path).toList := by
  have hover := over_referencePaths isQuotable_of_isOwnChar h hneeded path hpath
  rcases List.mem_append.1 hpath with hpath | hpath
  · obtain ⟨r, hr, rfl⟩ := List.mem_map.1 hpath
    exact isWhole_quote hover (hspoken.references_end r hr)
  · obtain ⟨q, -, rfl⟩ := List.mem_map.1 hpath
    exact isWhole_quote hover (getLast?_quote (getLast?_artifact q))

theorem isWhole_prerequisite {s : String} (hs : s ∈ prerequisites needed p) :
    IsWhole (quote s).toList := by
  rw [prerequisites, List.mem_append, List.mem_append] at hs
  rcases hs with (hs | hs) | hs
  · exact isWhole_reference h hneeded hspoken (List.mem_append_right _ hs)
  · exact isWhole_source h hspoken hs
  · obtain ⟨a, ha, rfl⟩ := List.mem_map.1 hs
    exact (isWhole_embedded h hspoken ha).1

theorem isWhole_piece {s : String}
    (hs : s ∈ (flags needed p (p.configuration configuration) ++ (sources p).map quote).tail) :
    IsWhole s.toList := by
  rw [flags_sources, List.tail_cons, List.mem_append, List.mem_append, List.mem_append] at hs
  rcases hs with ((hs | hs) | hs) | hs
  · exact isWhole_of (over_options isQuotable_of_isOwnChar h configuration s hs)
      (hspoken.options_end s hs)
  · obtain ⟨path, hpath, rfl⟩ := List.mem_map.1 hs
    rw [String.toList_append]
    exact IsWhole.append ⟨by decide, by decide⟩ (isWhole_reference h hneeded hspoken hpath)
  · obtain ⟨a, ha, rfl⟩ := List.mem_map.1 hs
    obtain ⟨hpath, hname⟩ := isWhole_embedded h hspoken ha
    rw [String.toList_append, String.toList_append, String.toList_append]
    exact ((IsWhole.append ⟨by decide, by decide⟩ hpath).append ⟨by decide, by decide⟩).append hname
  · obtain ⟨t, ht, rfl⟩ := List.mem_map.1 hs
    exact isWhole_source h hspoken ht

/-- The command for a project is read as its compilation. -/
theorem readCommand?_compiler :
    readCommand? (artifact p) (compilerCommand needed p (p.configuration configuration)) =
      some (compilationOf baseReference needed p (p.configuration configuration)) := by
  have hcompiler : ∀ k : Language, ("\t" ++ compilerMacro k ++ " " ++ "/nologo").toList =
      '\t' :: ((compilerMacro k).toList ++ ' ' :: "/nologo".toList) ∧
      (compilerMacro k).toList ≠ [] ∧
      (∀ c ∈ (compilerMacro k).toList, c ≠ '"' ∧ isGap c = false) ∧
      compilerLanguage? (compilerMacro k).toList = some k := by
    intro k
    cases k <;> decide
  obtain ⟨hfirst, hne, hplain, hlanguage⟩ := hcompiler p.kind
  have hnologo : ∀ c ∈ "/nologo".toList, c ≠ '"' ∧ isGap c = false := by decide
  have harguments := argumentsFrom_pieces (forall₂_told h hneeded hspoken)
    (by decide : "/nologo".toList ≠ [])
  have hoption : readArgument (artifact p) { language := p.kind } "/nologo".toList =
      { language := p.kind } := readArgument_switch "/nologo" (by decide)
  rw [compilerCommand, List.map_cons, intercalate_cons, hfirst, readCommand?, arguments,
    List.cons_append, List.append_assoc, List.cons_append, argumentsFrom_nil_gap (by decide),
    says_plain hplain, List.nil_append, argumentsFrom_gap hne (by decide), says_plain hnologo,
    List.nil_append, harguments]
  simp only [hlanguage, Option.map_some, readArguments, List.foldl_cons, hoption]
  exact congrArg some (readArguments_told needed _ fun s hs => (hspoken.sources_start s hs).2)

omit hneeded in
/-- The rule of a project has its assembly as its target. -/
theorem readRule?_artifact (after : List Char) :
    ∃ rule, readRule? ((artifact p).toList ++ ':' :: after) = some rule ∧
      firstTarget rule = artifact p := by
  have hbase : ∀ c ∈ (baseReference ++ "\\").toList, c ∉ [' ', ':', '#'] := by decide
  have hchars : ∀ c ∈ (artifact p).toList, c ∉ [' ', ':', '#'] := fun c hc => by
    rw [artifact, String.toList_append, List.mem_append] at hc
    exact hc.elim (hbase c) (hspoken.outputFile c)
  have hpath : IsPath (artifact p) := by
    refine ⟨by simp [artifact, baseReference], fun c hc => ?_, getLast?_artifact p⟩
    have hquotable := over_artifact isQuotable_of_isOwnChar h c hc
    have hother := hchars c hc
    simp only [isQuotable, Bool.and_eq_true, bne_iff_ne] at hquotable
    simp only [List.mem_cons, List.not_mem_nil, or_false, not_or] at hother
    exact ⟨by simp [isGap, hother.1, hquotable.2], hquotable.1.2, hother.2.2⟩
  refine ⟨_, readRule?_target hpath (fun hc => hchars _ hc (by simp)) after, ?_⟩
  rw [firstTarget, words_word hpath.isWord]
  exact String.ofList_toList

/-- The rule of a project and its command are read as its compilation. -/
theorem compiles_compiler :
    Compiles [dependencyLine (artifact p) ((prerequisites needed p).map quote),
        makeFolder baseReference, "\t" ++ compilerMacro p.kind ++ " " ++ Text.join continuation
          (flags needed p (p.configuration configuration) ++ (sources p).map quote)]
      [compilationOf baseReference needed p (p.configuration configuration)] := by
  have htarget : IsWhole (artifact p).toList :=
    isWhole_of (over_artifact isQuotable_of_isOwnChar h) (getLast?_artifact p)
  have hheader : Joins [dependencyLine (artifact p) ((prerequisites needed p).map quote)]
      [(artifact p).toList ++ ':' :: afterColon ((prerequisites needed p).map quote)] :=
    joins_rule htarget
      (List.forall_mem_map.2 fun s hs => isWhole_prerequisite h hneeded hspoken hs)
  have hfolder : Joins [makeFolder baseReference] [(makeFolder baseReference).toList] :=
    joins_line (isWhole_makeFolder (by decide))
  have hcommand : Joins ["\t" ++ compilerMacro p.kind ++ " " ++ Text.join continuation
      (flags needed p (p.configuration configuration) ++ (sources p).map quote)]
      [compilerCommand needed p (p.configuration configuration)] := by
    rw [flags_sources, append_join]
    exact joins_pieces (List.cons_ne_nil _ _)
      (List.forall_mem_cons.2 ⟨by cases p.kind <;> exact ⟨by decide, by decide⟩,
        fun s hs => isWhole_piece h hneeded hspoken hs⟩)
  obtain ⟨rule, hrule, hmade⟩ := readRule?_artifact h hspoken
    (afterColon ((prerequisites needed p).map quote))
  -- The three lines are read at once, since the command has its target from the rule.
  refine ⟨_, hheader.append (hfolder.append hcommand), fun made => ⟨artifact p, fun more => ?_⟩⟩
  rw [List.append_assoc, List.singleton_append, readLines_rule hrule, hmade, List.append_assoc,
    List.singleton_append, readLines, if_pos (isCommand_makeFolder baseReference),
    readCommand?_makeFolder, List.singleton_append, readLines,
    if_pos (isCommand_compilerCommand _ _ _), readCommand?_compiler h hneeded hspoken]
  rfl

/-- The rules of a project are read as its compilation. -/
theorem compiles_projectRules : Compiles (projectRules configuration p needed)
    [compilationOf baseReference needed p (p.configuration configuration)] := by
  have hcomment : Compiles ["# " ++ p.name] [] := by
    have hname := isWhole_of h.name hspoken.name_end
    refine compiles_line ?_ fun hcommand => ?_
    · rw [String.toList_append]
      exact IsWhole.append ⟨by decide, by decide⟩ hname
    · rw [String.toList_append] at hcommand
      cases hcommand
  have hresources : Compiles (p.resxFiles.flatMap (resourceRule p)) [] := by
    have hall := Compiles.flatMap fun f hf => compiles_resourceRule h (f := f) hf
      (hspoken.files_end f (List.mem_filter.1 (List.mem_filter.1 hf).1).1)
    rwa [List.flatMap_eq_nil_iff.2 fun _ _ => rfl] at hall
  exact hcomment.append ((compiles_compiler h hneeded hspoken).append
    (compiles_blank.append hresources))

end

/-! ## Scripts -/

theorem compiles_cleanRule {o : BuildOrder}
    (h : ∀ p ∈ o.projects, p.TextsOver (isQuotable · = true)) : Compiles (cleanRule o) [] := by
  have hown := isQuotable_of_isOwnChar
  have hcommand {middle s : String} (hs : Over (isQuotable · = true) s)
      (hmiddle : Over (· ≠ '\n') middle) :
      Compiles ["\t-@if exist \"" ++ s ++ middle ++ s ++ "\""] [] := by
    have hnewline := over_ne_newline hs
    refine compiles_line (isWhole_quoted ((((by decide : Over (· ≠ '\n') "\t-@if exist \"").append
      hnewline).append hmiddle).append hnewline)) fun _ made => ?_
    simp only [String.append_assoc]
    exact readCommand?_other "-@if" "exist \"" (by decide) made _
  rw [cleanRule]
  refine compiles_lines ?_
  rw [List.cons_append, List.forall_mem_cons, List.forall_mem_append, List.forall_mem_map,
    List.forall_mem_map, List.forall_mem_map]
  refine ⟨?_, fun p hp => ?_, fun p hp => ?_⟩
  · exact compiles_line ⟨by decide, by decide⟩ fun hcommand => absurd hcommand (by decide)
  · exact hcommand (over_artifact hown (h p hp)) (by decide)
  · exact hcommand (over_resourceFolder hown (h p (List.mem_filter.1 hp).1)) (by decide)

/-- The rules of a script are read as the compilations of its projects, in build order. -/
theorem compilations_ruleLines {o : BuildOrder} {configuration : String}
    (h : ∀ p ∈ o.projects, p.TextsOver (isQuotable · = true))
    (hneeds : ∀ p ∈ o.projects, o.Needs p (o.needed p))
    (hspoken : ∀ p ∈ o.projects, IsSpoken p (p.configuration configuration)) :
    compilations (String.ofList (withEnds ['\n'] (ruleLines o configuration))) =
      orderCompilations baseReference o configuration := by
  have hall : Compiles [dependencyLine "all" (o.projects.map artifact)] [] := by
    have hjoins : Joins [dependencyLine "all" (o.projects.map artifact)]
        ["all".toList ++ ':' :: afterColon (o.projects.map artifact)] :=
      joins_rule ⟨by decide, by decide⟩ (List.forall_mem_map.2 fun p hp =>
        isWhole_of (over_artifact isQuotable_of_isOwnChar (h p hp)) (getLast?_artifact p))
    exact ⟨_, hjoins, yields_other fun hcommand => by cases hcommand⟩
  have hprojects := Compiles.flatMap fun p hp => compiles_projectRules (h p hp)
    (fun q hq => h q ((hneeds p hp).mem hq)) (hspoken p hp)
  have hlines := (hall.append compiles_blank).append (hprojects.append (compiles_cleanRule h))
  have hcompilations := hlines.compilations_eq
  rw [← List.map_eq_flatMap, List.append_nil, List.append_nil, List.nil_append] at hcompilations
  rw [ruleLines, List.append_assoc, orderCompilations, ← hcompilations]
  rfl

end SolutionScript.NMake

namespace SolutionScript

open Text Xml

/-! ## Both formats -/

/-- What the two scripts for a build order compile is the same, in build order, where the texts of
projects can stand between quotes and nothing is split that has none. The NAnt script is read as
XML where its texts are legal. -/
theorem scripts_agree {ps : List Project} {o : BuildOrder} {m : Parameters}
    {solutionName xml make : String} (horder : BuildOrder.ofProjects ps = .ok o)
    (htexts : ∀ p ∈ ps, p.TextsOver (NMake.isQuotable · = true))
    (hspoken : ∀ p ∈ ps, NMake.IsSpoken p (p.configuration m.configurationName))
    (hxml : NAnt.script o m solutionName = .ok xml)
    (hmake : NMake.script o m solutionName = .ok make) :
    (∀ p ∈ o.projects, o.Needs p (o.needed p)) ∧
      ∃ e rest, xml = NAnt.documentText e.toNode ∧ make = NMake.preamble m solutionName ++ rest ∧
        NAnt.compilations e = orderCompilations NAnt.baseReference o m.configurationName ∧
        NMake.compilations rest = orderCompilations NMake.baseReference o m.configurationName ∧
        (NAnt.compilations e).map (·.mapTexts identified) =
          (NMake.compilations rest).map (·.mapTexts identified) ∧
        ((∀ p ∈ ps, p.TextsOver (isXmlChar · = true)) →
          (∀ a ∈ m, IsText a.1 ∧ IsText a.2.shown) → IsText solutionName →
          ¬ ['-', '-'] <:+: solutionName.toList →
            ∃ read, Document.parse (encode xml) = .ok read ∧
              NAnt.compilations read = NAnt.compilations e) := by
  have hmem : ∀ p ∈ o.projects, p ∈ ps := fun p hp => BuildOrder.mem_of_ofProjects horder hp
  obtain ⟨texts, rfl, -, hneeded, rfl⟩ := NAnt.script_eq_ok_iff.1 hxml
  obtain ⟨-, rfl⟩ := NMake.script_eq_ok.1 hmake
  have hneeds : ∀ p ∈ o.projects, o.Needs p (o.needed p) := fun p hp =>
    BuildOrder.needs_of_dependencies (hneeded p hp)
  have hnant := NAnt.compilations_scriptElement o texts solutionName
  have hnmake := NMake.compilations_ruleLines (fun p hp => htexts p (hmem p hp)) hneeds
    fun p hp => hspoken p (hmem p hp)
  refine ⟨hneeds, _, _, rfl, rfl, hnant, hnmake, ?_, fun hlegal hgiven hname hhyphens => ?_⟩
  · rw [hnant, hnmake, orderCompilations, orderCompilations, List.map_map, List.map_map]
    exact List.map_congr_left fun p _ => (identified_compilationOf _ _ _).symm
  · obtain ⟨read, hread, houtlined⟩ := NAnt.parse_scriptElement
      (fun p hp => hlegal p (hmem p hp)) (List.forall_mem_map.1 hgiven) hname hhyphens hxml
    refine ⟨read, hread, ?_⟩
    rw [← NAnt.compilations_outlined, houtlined, NAnt.compilations_outlined]

/-- A library in a folder whose name has a blank. -/
def spacedLibrary : Project :=
  { id := "L", name := "Core", path := "my lib\\Core.csproj", files := [⟨"Tool.cs", .compile⟩]
    references := [{ name := "Scripting", kind := .com },
      { name := "Log", hintPath := "..\\bin\\Log.dll" }]
    configurations := Keyed.ofList [("Debug",
      { name := "Debug", documentationFile := "doc\\Core.xml", debugSymbols := true
        checkOverflow := true, defineConstants := "TRACE;DEBUG" })] }

/-- A program that needs this library. -/
def spacedProgram : Project :=
  ["L"].foldl .addDependency
    { id := "P", name := "App", path := "App.vbproj", kind := .vb, outputType := "Exe", index := 1
      rootNamespace := "Acme", files := [⟨"Main Form.vb", .compile⟩], imports := ["System"] }

theorem scripts_agree_spaced :
    ∃ o xml make e rest, BuildOrder.ofProjects [spacedProgram, spacedLibrary] = .ok o ∧
      (∀ p ∈ [spacedProgram, spacedLibrary], p.TextsOver (NMake.isQuotable · = true) ∧
        NMake.IsSpoken p (p.configuration (Parameters.configurationName []))) ∧
      NAnt.script o [] "" = .ok xml ∧ NMake.script o [] "" = .ok make ∧
      xml = NAnt.documentText e.toNode ∧ make = NMake.preamble [] "" ++ rest ∧
      NAnt.compilations e = orderCompilations NAnt.baseReference o "" ∧
      (NMake.compilations rest).map
        (fun c => (c.artifact, c.documentation, c.sources, c.references)) =
        [("$(BUILD_BASEDIR)\\Core.dll", "$(BUILD_BASEDIR)\\Core.xml", ["my lib\\Tool.cs"],
            ["$(BUILD_BASEDIR)\\Scripting.dll", "my lib\\..\\bin\\Log.dll"]),
          ("$(BUILD_BASEDIR)\\App.exe", "", ["Main Form.vb"], ["$(BUILD_BASEDIR)\\Core.dll"])] ∧
      ∃ read, Document.parse (encode xml) = .ok read ∧
        NAnt.compilations read = NAnt.compilations e := by
  have horder : BuildOrder.ofProjects [spacedProgram, spacedLibrary] =
      .ok ⟨[spacedLibrary, spacedProgram]⟩ := by
    rw [BuildOrder.ofProjects_eq_arrange (by decide) (by cbv)]
    decide
  have htexts : ∀ p ∈ [spacedProgram, spacedLibrary], p.TextsOver (NMake.isQuotable · = true) := by
    decide
  have hspoken : ∀ p ∈ [spacedProgram, spacedLibrary],
      NMake.IsSpoken p (p.configuration (Parameters.configurationName [])) := by
    decide
  have hlibrary : BuildOrder.dependencies ⟨[spacedLibrary, spacedProgram]⟩ spacedLibrary =
      .ok [] := by
    cbv
  have hprogram : BuildOrder.dependencies ⟨[spacedLibrary, spacedProgram]⟩ spacedProgram =
      .ok [spacedLibrary] := by
    cbv
  have hneeded : ∀ p ∈ [spacedLibrary, spacedProgram],
      BuildOrder.dependencies ⟨[spacedLibrary, spacedProgram]⟩ p =
        .ok (BuildOrder.needed ⟨[spacedLibrary, spacedProgram]⟩ p) := by
    rw [List.forall_mem_cons, List.forall_mem_singleton]
    exact ⟨BuildOrder.dependencies_needed ⟨_, hlibrary⟩,
      BuildOrder.dependencies_needed ⟨_, hprogram⟩⟩
  obtain ⟨xml, hxml⟩ := NAnt.exists_script (o := ⟨[spacedLibrary, spacedProgram]⟩) (by decide)
    hneeded [] ""
  obtain ⟨make, hmake⟩ : ∃ make, NMake.script ⟨[spacedLibrary, spacedProgram]⟩ [] "" = .ok make :=
    ⟨_, NMake.script_eq_ok.2 ⟨hneeded, rfl⟩⟩
  obtain ⟨-, e, rest, he, hrest, hnant, hnmake, -, hread⟩ :=
    scripts_agree horder htexts hspoken hxml hmake
  refine ⟨_, xml, make, e, rest, horder, fun p hp => ⟨htexts p hp, hspoken p hp⟩, hxml, hmake, he,
    hrest, hnant, ?_, hread (by decide) (by simp) (by decide) (by decide)⟩
  rw [hnmake, orderCompilations, List.map_cons, List.map_singleton, BuildOrder.needed_eq hlibrary,
    BuildOrder.needed_eq hprogram]
  decide

/-- A project whose documentation goes to a file whose name has a blank. -/
def documentedProject : Project :=
  { id := "\x7bA\x7d", name := "App", path := "App.csproj", files := [⟨"Main.cs", .compile⟩]
    configurations := Keyed.ofList
      [("Debug", { name := "Debug", documentationFile := "Read Me.xml" })] }

/-- The option for documentation has no quotes, so it is split at a blank: what stands behind is a
source for NMAKE, and part of the name for NAnt. -/
theorem scripts_differ_documented :
    ∃ o xml make e rest, BuildOrder.ofProjects [documentedProject] = .ok o ∧
      documentedProject.TextsOver (NMake.isQuotable · = true) ∧
      NAnt.script o [] "" = .ok xml ∧ NMake.script o [] "" = .ok make ∧
      xml = NAnt.documentText e.toNode ∧ make = NMake.preamble [] "" ++ rest ∧
      (NAnt.compilations e).map (fun c => (c.documentation, c.sources)) =
        [(NAnt.baseReference ++ "\\Read Me.xml", ["Main.cs"])] ∧
      (NMake.compilations rest).map (fun c => (c.documentation, c.sources)) =
        [(NMake.baseReference ++ "\\Read", ["Me.xml", "Main.cs"])] := by
  have horder : BuildOrder.ofProjects [documentedProject] = .ok ⟨[documentedProject]⟩ := by
    rw [BuildOrder.ofProjects_eq_arrange (by decide) (by cbv)]
    decide
  have hdependencies : BuildOrder.dependencies ⟨[documentedProject]⟩ documentedProject =
      .ok [] := by
    cbv
  have hneeded : ∀ p ∈ [documentedProject], BuildOrder.dependencies ⟨[documentedProject]⟩ p =
      .ok (BuildOrder.needed ⟨[documentedProject]⟩ p) :=
    List.forall_mem_singleton.2 (BuildOrder.dependencies_needed ⟨_, hdependencies⟩)
  have hxml : NAnt.script ⟨[documentedProject]⟩ [] "" = .ok _ :=
    NAnt.script_eq_ok_iff.2 ⟨[], rfl, by decide, hneeded, rfl⟩
  have hmake : NMake.script ⟨[documentedProject]⟩ [] "" = .ok _ :=
    NMake.script_eq_ok.2 ⟨hneeded, rfl⟩
  refine ⟨_, _, _, _, _, horder, by decide, hxml, hmake, rfl, rfl, ?_, ?_⟩
  · rw [NAnt.compilations_scriptElement, orderCompilations, List.map_singleton,
      BuildOrder.needed_eq hdependencies]
    decide
  · rw [NMake.compilations, String.toList_ofList, NMake.ruleLines, List.flatMap_singleton,
      BuildOrder.needed_eq hdependencies]
    decide +kernel

end SolutionScript
