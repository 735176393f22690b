import SolutionScript.Proofs.Script.Compilation
import SolutionScript.Proofs.Script.NMake

/-!
# Compilations in makefiles

A command of a makefile is split into arguments at the blanks that are not between quotes. The
compilations of a makefile are the commands that call a compiler. The command for a project is read
as its compilation where nothing that the script leaves without quotes has a blank
(`readCommand?_compiler`).
-/

namespace SolutionScript

open Text

namespace Makefile

/-! ## Arguments -/

/-- The arguments in the rest of a command, after the start of one. Quotes are left out. -/
def argumentsFrom (isQuoted : Bool) (argument : List Char) : List Char → List (List Char)
  | [] => if argument.isEmpty then [] else [argument]
  | c :: cs =>
    if c = '"' then argumentsFrom (!isQuoted) argument cs
    else if isGap c && !isQuoted then
      (if argument.isEmpty then [] else [argument]) ++ argumentsFrom false [] cs
    else argumentsFrom isQuoted (argument ++ [c]) cs

/-- The arguments of a command. -/
def arguments (command : List Char) : List (List Char) := argumentsFrom false [] command

/-- A piece of a command that adds a text to an argument. -/
def Says (piece value : List Char) : Prop :=
  ∀ argument rest, argumentsFrom false argument (piece ++ rest) =
    argumentsFrom false (argument ++ value) rest

theorem says_plain {l : List Char} (h : ∀ c ∈ l, c ≠ '"' ∧ isGap c = false) : Says l l := by
  intro argument rest
  induction l generalizing argument with
  | nil => rw [List.append_nil, List.nil_append]
  | cons c l ih =>
    rw [List.forall_mem_cons] at h
    rw [List.cons_append, argumentsFrom, if_neg h.1.1, if_neg (by simp [h.1.2]), ih h.2,
      List.append_assoc, List.singleton_append]

theorem argumentsFrom_quoted {l : List Char} (h : '"' ∉ l) (argument rest : List Char) :
    argumentsFrom true argument (l ++ '"' :: rest) = argumentsFrom false (argument ++ l) rest := by
  induction l generalizing argument with
  | nil => rw [List.nil_append, List.append_nil, argumentsFrom, if_pos rfl, Bool.not_true]
  | cons c l ih =>
    rw [List.mem_cons, not_or] at h
    rw [List.cons_append, argumentsFrom, if_neg (Ne.symm h.1), if_neg (by simp), ih h.2,
      List.append_assoc, List.singleton_append]

theorem says_quoted {l : List Char} (h : '"' ∉ l) : Says ('"' :: (l ++ ['"'])) l := by
  intro argument rest
  rw [List.cons_append, List.append_assoc, List.singleton_append, argumentsFrom, if_pos rfl,
    Bool.not_false, argumentsFrom_quoted h]

theorem Says.append {piece value more moreValue : List Char} (h : Says piece value)
    (hmore : Says more moreValue) : Says (piece ++ more) (value ++ moreValue) := by
  intro argument rest
  rw [List.append_assoc, h, hmore, List.append_assoc]

theorem argumentsFrom_gap {argument : List Char} (h : argument ≠ []) {c : Char}
    (hc : isGap c = true) (rest : List Char) :
    argumentsFrom false argument (c :: rest) = argument :: argumentsFrom false [] rest := by
  have hquote : c ≠ '"' := by
    rintro rfl
    exact absurd hc (by decide)
  rw [argumentsFrom, if_neg hquote, if_pos (by simp [hc]), if_neg (by simpa using h),
    List.singleton_append]

theorem argumentsFrom_nil_gap {c : Char} (hc : isGap c = true) (rest : List Char) :
    argumentsFrom false [] (c :: rest) = argumentsFrom false [] rest := by
  have hquote : c ≠ '"' := by
    rintro rfl
    exact absurd hc (by decide)
  rw [argumentsFrom, if_neg hquote, if_pos (by simp [hc])]
  rfl

/-- Pieces after gaps are arguments of their own. -/
theorem argumentsFrom_pieces {pieces values : List (List Char)}
    (h : List.Forall₂ (fun piece value => Says piece value ∧ value ≠ []) pieces values)
    {argument : List Char} (hargument : argument ≠ []) :
    argumentsFrom false argument (pieces.flatMap (wordGap ++ ·)) = argument :: values := by
  induction h generalizing argument with
  | nil => rw [List.flatMap_nil, argumentsFrom, if_neg (by simpa using hargument)]
  | @cons piece value pieces values hpiece _ ih =>
    have hgap : wordGap ++ piece ++ pieces.flatMap (wordGap ++ ·) =
        ' ' :: '\t' :: (piece ++ pieces.flatMap (wordGap ++ ·)) := by
      rw [List.append_assoc]
      rfl
    rw [List.flatMap_cons, hgap, argumentsFrom_gap hargument (by decide),
      argumentsFrom_nil_gap (by decide), hpiece.1, List.nil_append, ih hpiece.2]

theorem intercalate_cons (sep first : List Char) (parts : List (List Char)) :
    sep.intercalate (first :: parts) = first ++ parts.flatMap (sep ++ ·) := by
  induction parts generalizing first with
  | nil => simp
  | cons part parts ih => rw [List.intercalate_cons_cons, ih, List.flatMap_cons]; simp

end Makefile

namespace NMake

open Makefile

/-! ## Reading a makefile -/

/-- The compilation with one more option. -/
def readOption (made : String) (c : Compilation) (name value : String) : Compilation :=
  match name with
  | "/target" => { c with target := value }
  | "/out" => { c with artifact := if value = "$@" then made else value }
  | "/debug+" => { c with debug := true }
  | "/define" => { c with defines := value }
  | "/unsafe" => { c with allowUnsafe := true }
  | "/checked+" => { c with checked := true }
  | "/doc" => { c with documentation := value }
  | "/rootnamespace" => { c with rootNamespace := value }
  | "/imports" => { c with imports := value }
  | "/r" => { c with references := c.references ++ [value] }
  | _ => c

/-- The compilation with one more argument, which is an option after a slash and a source
otherwise. `made` is what the rule makes. -/
def readArgument (made : String) (c : Compilation) (argument : List Char) : Compilation :=
  if argument.head? = some '/' then
    readOption made c (String.ofList (argument.takeWhile (· != ':')))
      (String.ofList ((argument.dropWhile (· != ':')).drop 1))
  else { c with sources := c.sources ++ [String.ofList argument] }

/-- The compilation with more arguments. -/
def readArguments (made : String) (c : Compilation) (arguments : List (List Char)) : Compilation :=
  arguments.foldl (readArgument made) c

/-- The language of a compiler. -/
def compilerLanguage? (compiler : List Char) : Option Language :=
  if compiler = "$(CSC)".toList then some .csharp
  else if compiler = "$(VBC)".toList then some .vb
  else none

/-- The compilation that a command does. -/
def readCommand? (made : String) (command : List Char) : Option Compilation :=
  match arguments command with
  | [] => none
  | compiler :: more =>
    (compilerLanguage? compiler).map fun language => readArguments made { language } more

/-- The first of the targets that a rule has between blanks. -/
def firstTarget (rule : Rule) : String :=
  ((words rule.target.toList).head?.map String.ofList).getD ""

/-- The compilations that lines do. `made` is what the last rule makes. -/
def readLines (made : String) : List (List Char) → List Compilation
  | [] => []
  | line :: lines =>
    if isCommand line then (readCommand? made line).toList ++ readLines made lines
    else
      match readRule? line with
      | some rule => readLines (firstTarget rule) lines
      | none => readLines made lines

/-- The compilations of a makefile. -/
def compilations (s : String) : List Compilation := readLines "" (logicalLines s.toList)

/-! ## Arguments -/

section

variable {made : String} {d : Compilation}

theorem readArguments_append (arguments more : List (List Char)) :
    readArguments made d (arguments ++ more) =
      readArguments made (readArguments made d arguments) more := List.foldl_append

theorem readArgument_option {flag : String} (name : String)
    (h : flag.toList = name.toList ++ [':'] ∧ ':' ∉ name.toList ∧ name.toList.head? = some '/')
    (value : String) :
    readArgument made d (flag ++ value).toList = readOption made d name value := by
  obtain ⟨hflag, hname, hslash⟩ := h
  have htext : (flag ++ value).toList = name.toList ++ ':' :: value.toList := by
    rw [String.toList_append, hflag, List.append_assoc, List.singleton_append]
  have hrun : ∀ c ∈ name.toList, (c != ':') = true := fun c hc =>
    bne_iff_ne.2 fun h => hname (h ▸ hc)
  have hstop : StopsAt (· != ':') (':' :: value.toList) := stopsAt_cons.2 (by decide)
  have hhead : (name.toList ++ ':' :: value.toList).head? = some '/' := by
    rw [List.head?_append, hslash]
    rfl
  rw [htext, readArgument, if_pos hhead, takeWhile_run hrun hstop, dropWhile_run hrun hstop,
    List.drop_succ_cons, List.drop_zero, String.ofList_toList, String.ofList_toList]

theorem readArgument_switch (name : String) (h : ':' ∉ name.toList ∧ name.toList.head? = some '/') :
    readArgument made d name.toList = readOption made d name "" := by
  have hrun : ∀ c ∈ name.toList, (c != ':') = true := fun c hc =>
    bne_iff_ne.2 fun heq => h.1 (heq ▸ hc)
  rw [readArgument, if_pos h.2, List.takeWhile_eq_self_iff.2 hrun,
    List.dropWhile_eq_nil_iff.2 hrun, String.ofList_toList, List.drop_nil]

theorem readArgument_source {s : String} (h : s.toList.head? ≠ some '/') :
    readArgument made d s.toList = { d with sources := d.sources ++ [s] } := by
  rw [readArgument, if_neg h, String.ofList_toList]

theorem readArguments_sources {sources : List String}
    (h : ∀ s ∈ sources, s.toList.head? ≠ some '/') :
    readArguments made d (sources.map String.toList) =
      { d with sources := d.sources ++ sources } := by
  induction sources generalizing d with
  | nil => rw [List.append_nil]; rfl
  | cons s sources ih =>
    rw [List.forall_mem_cons] at h
    rw [List.map_cons, readArguments, List.foldl_cons, readArgument_source h.1]
    refine (ih h.2).trans ?_
    rw [List.append_assoc, List.singleton_append]

theorem readArguments_references (paths : List String) :
    readArguments made d ((paths.map ("/r:" ++ ·)).map String.toList) =
      { d with references := d.references ++ paths } := by
  induction paths generalizing d with
  | nil => rw [List.append_nil]; rfl
  | cons path paths ih =>
    have hpath : readArgument made d ("/r:" ++ path).toList =
        { d with references := d.references ++ [path] } :=
      readArgument_option "/r" (by decide) path
    rw [List.map_cons, List.map_cons, readArguments, List.foldl_cons, hpath]
    refine ih.trans ?_
    rw [List.append_assoc, List.singleton_append]

theorem readArguments_resources (resources : List String) :
    readArguments made d ((resources.map ("/res:" ++ ·)).map String.toList) = d := by
  induction resources with
  | nil => rfl
  | cons resource resources ih =>
    have hresource : readArgument made d ("/res:" ++ resource).toList = d :=
      readArgument_option "/res" (by decide) resource
    rw [List.map_cons, List.map_cons, readArguments, List.foldl_cons, hresource]
    exact ih

end

/-! ## The command for a project -/

/-- The arguments of the command for a project, after the compiler and its first option. -/
def told (needed : List Project) (p : Project) (c : Configuration) : List String :=
  options p c ++ (referencePaths needed p).map ("/r:" ++ ·) ++
    ((embedded p).map fun (path, name) => path ++ "," ++ name).map ("/res:" ++ ·) ++ sources p

theorem flags_sources (needed : List Project) (p : Project) (c : Configuration) :
    flags needed p c ++ (sources p).map quote = "/nologo" :: (options p c ++
      (referencePaths needed p).map (fun path => "/r:" ++ quote path) ++
        ((embedded p).map fun (path, name) => "/res:" ++ quote path ++ "," ++ name) ++
          (sources p).map quote) := rfl

theorem artifact_eq (p : Project) : artifact p = builtPath baseReference p.outputFile :=
  String.append_assoc

theorem referencePaths_eq (needed : List Project) (p : Project) : referencePaths needed p =
    p.references.map (referencePathIn baseReference p) ++
      needed.map fun q => builtPath baseReference q.outputFile := by
  have hreference : referencePath p = referencePathIn baseReference p := funext fun r => by
    rw [referencePath, referencePathIn, builtPath, String.append_assoc]
  rw [referencePaths, hreference, funext artifact_eq]

section

variable {made : String} {d : Compilation}

/-- An option without a value that is given if a setting is on. -/
theorem readArguments_setting (name : String)
    (hname : ':' ∉ name.toList ∧ name.toList.head? = some '/') (isOn : Bool)
    (set : Bool → Compilation) (hon : readOption made d name "" = set true) (hoff : d = set false) :
    readArguments made d ((if isOn then [name] else []).map String.toList) = set isOn := by
  cases isOn with
  | true => exact (readArgument_switch name hname).trans hon
  | false => exact hoff

/-- An option with a value that is given if the value says something. -/
theorem readArguments_given {P : Prop} [Decidable P] {flag value : String} (name : String)
    (hname : flag.toList = name.toList ++ [':'] ∧ ':' ∉ name.toList ∧
      name.toList.head? = some '/') (set : String → Compilation) {said : String}
    (hgiven : ¬ P → readOption made d name value = set said) (hnone : P → d = set said) :
    readArguments made d ((if P then [] else [flag ++ value]).map String.toList) = set said := by
  split
  · exact hnone ‹_›
  · exact (readArgument_option name hname value).trans (hgiven ‹_›)

theorem readArguments_options (needed : List Project) (p : Project) (c : Configuration) :
    readArguments made { language := p.kind } ((options p c).map String.toList) =
      { compilationOf baseReference needed p c with
        artifact := made, sources := [], references := [] } := by
  have hfirst (d : Compilation) : readArguments made d
      (["/target:" ++ p.compilerTarget, "/out:$@"].map String.toList) =
        { d with target := p.compilerTarget, artifact := made } := by
    have htarget : readArgument made d ("/target:" ++ p.compilerTarget).toList =
        { d with target := p.compilerTarget } :=
      readArgument_option "/target" (by decide) p.compilerTarget
    have hout (d : Compilation) : readArgument made d "/out:$@".toList =
        { d with artifact := made } :=
      @readArgument_option _ d "/out:" "/out" (by decide) "$@"
    simp only [readArguments, List.map_cons, List.map_nil, List.foldl_cons, List.foldl_nil, htarget,
      hout]
  have hdebug (d : Compilation) (h : d.debug = false) : readArguments made d
      ([if c.debugSymbols then "/debug+" else "/debug-"].map String.toList) =
        { d with debug := c.debugSymbols } := by
    obtain ⟨⟩ := d
    cases h
    cases c.debugSymbols with
    | true => exact @readArgument_switch made _ "/debug+" (by decide)
    | false => exact @readArgument_switch made _ "/debug-" (by decide)
  have hdefine (d : Compilation) (h : d.defines = "") : readArguments made d
      ((if c.defines.isEmpty then [] else ["/define:" ++ Text.join "," c.defines]).map
        String.toList) = { d with defines := Text.join "," c.defines } :=
    readArguments_given "/define" (by decide) (fun said => { d with defines := said })
      (fun _ => rfl) fun hnone => by
        obtain ⟨⟩ := d
        cases h
        rw [List.isEmpty_iff.1 hnone]
        rfl
  have hunsafe (d : Compilation) (h : d.allowUnsafe = false) : readArguments made d
      ((if c.allowUnsafeBlocks then ["/unsafe"] else []).map String.toList) =
        { d with allowUnsafe := c.allowUnsafeBlocks } :=
    readArguments_setting "/unsafe" (by decide) _
      (fun isOn => { d with allowUnsafe := isOn }) rfl (by rw [← h])
  have hchecked (d : Compilation) (h : d.checked = false) : readArguments made d
      ((if c.checkOverflow then ["/checked+"] else []).map String.toList) =
        { d with checked := c.checkOverflow } :=
    readArguments_setting "/checked+" (by decide) _ (fun isOn => { d with checked := isOn }) rfl
      (by rw [← h])
  have hdocumentation (d : Compilation) (h : d.documentation = "") : readArguments made d
      ((if c.documentationFile = "" then []
        else ["/doc:" ++ baseReference ++ "\\" ++ DescriptorPath.fileName c.documentationFile]).map
        String.toList) =
        { d with documentation := if c.documentationFile = "" then ""
          else builtPath baseReference (DescriptorPath.fileName c.documentationFile) } := by
    rw [String.append_assoc, String.append_assoc]
    exact readArguments_given "/doc" (by decide)
      (fun said => { d with documentation := said })
      (fun hgiven => by rw [if_neg hgiven]; rfl) fun hnone => by rw [if_pos hnone, ← h]
  have hrootNamespace (d : Compilation) (h : d.rootNamespace = "") : readArguments made d
      ((if p.rootNamespace = "" then [] else ["/rootnamespace:" ++ p.rootNamespace]).map
        String.toList) = { d with rootNamespace := p.rootNamespace } :=
    readArguments_given "/rootnamespace" (by decide)
      (fun said => { d with rootNamespace := said }) (fun _ => rfl)
      fun hnone => by rw [hnone, ← h]
  have himports (d : Compilation) (h : d.imports = "") : readArguments made d
      ((if p.imports.isEmpty then [] else ["/imports:" ++ Text.join "," p.imports]).map
        String.toList) = { d with imports := Text.join "," p.imports } :=
    readArguments_given "/imports" (by decide) (fun said => { d with imports := said })
      (fun _ => rfl) fun hnone => by
        obtain ⟨⟩ := d
        cases h
        rw [List.isEmpty_iff.1 hnone]
        rfl
  rw [compilationOf, options, languageFlags]
  simp only [List.map_append, readArguments_append, hfirst, hdebug, hdefine]
  cases p.kind with
  | csharp =>
    simp only [List.map_append, readArguments_append, hunsafe, hchecked, hdocumentation]
  | vb =>
    simp only [List.map_append, readArguments_append, hrootNamespace, himports]

/-- The arguments of the command for a project are read as its compilation. -/
theorem readArguments_told (needed : List Project) {p : Project} (c : Configuration)
    (h : ∀ s ∈ sources p, s.toList.head? ≠ some '/') :
    readArguments (artifact p) { language := p.kind } ((told needed p c).map String.toList) =
      compilationOf baseReference needed p c := by
  simp only [told, List.map_append, readArguments_append, readArguments_options needed,
    readArguments_references, readArguments_resources, readArguments_sources h, List.nil_append,
    referencePaths_eq, artifact_eq]
  rw [compilationOf]
  cases p.kind with
  | csharp => simp only [sources]
  | vb => simp only [sources]

end

/-! ## Arguments without quotes -/

/-- Whether a character can stand between quotes. -/
def isQuotable (c : Char) : Bool := c != '"' && c != '\n' && c != '\t'

theorem says_quote {s : String} (h : Over (isQuotable · = true) s) :
    Says (quote s).toList s.toList := by
  rw [quote]
  split
  · have htext : ("\"" ++ s ++ "\"").toList = '"' :: (s.toList ++ ['"']) := by simp
    rw [htext]
    exact says_quoted fun hmem => absurd (h _ hmem) (by decide)
  · rename_i hspace
    refine says_plain fun c hc => ?_
    have hquotable := h c hc
    have hne : c ≠ ' ' := fun heq => hspace (by simpa using heq ▸ hc)
    simp only [isQuotable, Bool.and_eq_true, bne_iff_ne] at hquotable
    simp [isGap, hquotable.1.1, hquotable.2, hne]

theorem says_bare {s : String} (h : Over (isQuotable · = true) s) (hspace : ' ' ∉ s.toList) :
    Says s.toList s.toList := by
  have hsays := says_quote h
  rwa [quote, if_neg (by simpa using hspace)] at hsays

/-- A project for which nothing that a command does not have in quotes is split or taken for
anything else. -/
@[mk_iff]
structure IsSpoken (p : Project) (c : Configuration) : Prop where
  name_end : p.name.toList.getLast? ≠ some '\\'
  outputFile : ∀ ch ∈ p.outputFile.toList, ch ∉ [' ', ':', '#']
  options_blank : ∀ s ∈ options p c, ' ' ∉ s.toList
  options_end : ∀ s ∈ options p c, s.toList.getLast? ≠ some '\\'
  resources_blank : ∀ a ∈ embedded p, ' ' ∉ a.2.toList
  sources_start : ∀ s ∈ sources p, s ≠ "" ∧ s.toList.head? ≠ some '/'
  files_end : ∀ f ∈ p.files, (quote (p.resolve f.relativePath)).toList.getLast? ≠ some '\\'
  references_end : ∀ r ∈ p.references, (quote (referencePath p r)).toList.getLast? ≠ some '\\'

instance (p : Project) (c : Configuration) : Decidable (IsSpoken p c) :=
  decidable_of_iff' _ (isSpoken_iff p c)

theorem isQuotable_of_isOwnChar (c : Char) (h : isOwnChar c = true) : isQuotable c = true := by
  by_contra hnot
  have hc : c = '"' ∨ c = '\n' ∨ c = '\t' := by
    simp only [isQuotable, Bool.and_eq_true, bne_iff_ne, not_and_or, not_not] at hnot
    exact or_assoc.1 hnot
  rcases hc with rfl | rfl | rfl <;> exact absurd h (by decide)

theorem forall_options_ne_nil (p : Project) (c : Configuration) :
    ∀ s ∈ options p c, s.toList ≠ [] := by
  have hflag (flag value : String) (h : flag.toList ≠ []) : (flag ++ value).toList ≠ [] := by
    rw [String.toList_append]
    exact List.append_ne_nil_of_left_ne_nil h _
  have hif {Q : Prop} [Decidable Q] {s : String} (hs : s.toList ≠ []) :
      (∀ t ∈ if Q then [s] else [], t.toList ≠ []) ∧
        ∀ t ∈ if Q then [] else [s], t.toList ≠ [] := by
    split <;> simp_all
  have hlanguage : ∀ s ∈ languageFlags p c, s.toList ≠ [] := by
    rw [languageFlags]
    split
    · rw [List.forall_mem_append, List.forall_mem_append, String.append_assoc, String.append_assoc]
      exact ⟨⟨(hif (by decide)).1, (hif (by decide)).1⟩, (hif (hflag _ _ (by decide))).2⟩
    · rw [List.forall_mem_append]
      exact ⟨(hif (hflag _ _ (by decide))).2, (hif (hflag _ _ (by decide))).2⟩
  rw [options, List.forall_mem_append, List.forall_mem_append, List.forall_mem_append,
    List.forall_mem_cons, List.forall_mem_singleton, List.forall_mem_singleton]
  refine ⟨⟨⟨⟨hflag _ _ (by decide), by decide⟩, ?_⟩, (hif (hflag _ _ (by decide))).2⟩, hlanguage⟩
  split <;> decide

section

variable {p : Project} {needed : List Project} {configuration : String}
  (h : p.TextsOver (isQuotable · = true))
  (hneeded : ∀ q ∈ needed, q.TextsOver (isQuotable · = true))
  (hspoken : IsSpoken p (p.configuration configuration))
include h hneeded hspoken

/-- The pieces of the command for a project and its arguments. -/
theorem forall₂_told : List.Forall₂ (fun piece value => Says piece value ∧ value ≠ [])
    ((flags needed p (p.configuration configuration) ++ (sources p).map quote).tail.map
      String.toList)
    ((told needed p (p.configuration configuration)).map String.toList) := by
  have hown := isQuotable_of_isOwnChar
  have hflag {flag : String} (hover : Over (isQuotable · = true) flag)
      (hspace : ' ' ∉ flag.toList) : Says flag.toList flag.toList := says_bare hover hspace
  rw [flags_sources, List.tail_cons, told]
  simp only [List.map_append, List.map_map]
  refine List.rel_append (List.rel_append (List.rel_append ?_ ?_) ?_) ?_
  · rw [List.forall₂_map_left_iff, List.forall₂_map_right_iff, List.forall₂_same]
    intro s hs
    exact ⟨says_bare (over_options hown h configuration s hs) (hspoken.options_blank s hs),
      forall_options_ne_nil p _ s hs⟩
  · rw [List.forall₂_map_left_iff, List.forall₂_map_right_iff, List.forall₂_same]
    intro path hpath
    simp only [Function.comp_def, String.toList_append]
    exact ⟨(hflag (by decide) (by decide)).append
      (says_quote (over_referencePaths hown h hneeded path hpath)), by simp⟩
  · rw [List.forall₂_map_left_iff, List.forall₂_map_right_iff, List.forall₂_same]
    rintro ⟨path, name⟩ ha
    obtain ⟨hpath, hname⟩ := over_embedded hown h _ ha
    simp only [Function.comp_def, String.toList_append, List.append_assoc]
    exact ⟨(hflag (by decide) (by decide)).append ((says_quote hpath).append
      ((hflag (by decide) (by decide)).append (says_bare hname (hspoken.resources_blank _ ha)))),
      by simp⟩
  · rw [List.forall₂_map_left_iff, List.forall₂_map_right_iff, List.forall₂_same]
    intro s hs
    obtain ⟨f, hf, rfl⟩ := List.mem_map.1 hs
    exact ⟨says_quote (over_resolve hown h (List.mem_filter.1 hf).1),
      mt String.toList_eq_nil_iff.1 (hspoken.sources_start _ hs).1⟩

end

end NMake

end SolutionScript
