import Mathlib.Data.List.TakeWhile
import SolutionScript.Cli.Arguments
import SolutionScript.Proofs.Fallible

/-!
# Parts of command lines

A command line is put together from choices, each an option with its values, and
words. However the words stand between the options, the first reading takes all
choices in order and leaves all words (`readOnce_parts`); the second one takes the
words (`parse_commandLine`). Of an option that is given more than once the last
value counts (`chooseAll_last`), but mappings add up (`chooseAll_mappings`).
-/

namespace SolutionScript.Cli

open Fallible

/-- The name of an option. -/
def CliOption.name (o : CliOption) : String := o.names.headD ""

/-- What an option chooses. -/
inductive Choice where
  | format (f : Format)
  | solution (path : String)
  | mapping (source target : String)
  | output (path : String)
  deriving DecidableEq, Repr

namespace Choice

/-- The option that makes a choice. -/
def option : Choice → CliOption
  | format f => .format f
  | solution _ => .solution
  | mapping _ _ => .mapping
  | output _ => .output

/-- The values of the option. -/
def values : Choice → List String
  | format _ => []
  | solution path => [path]
  | mapping source target => [source, target]
  | output path => [path]

/-- The choice of a format. -/
def format? : Choice → Option Format
  | format f => some f
  | _ => none

/-- The choice of a solution. -/
def solution? : Choice → Option String
  | solution path => some path
  | _ => none

/-- The choice of a mapping. -/
def mapping? : Choice → Option (List String)
  | mapping source target => some [source, target]
  | _ => none

/-- The choice of an output file. -/
def output? : Choice → Option String
  | output path => some path
  | _ => none

theorem length_values (c : Choice) : c.values.length = c.option.arity := by
  cases c <;> rfl

end Choice

/-- A part of a command line. -/
inductive Part where
  | choice (c : Choice)
  | word (s : String)
  deriving DecidableEq, Repr

namespace Part

/-- The words of a part. -/
def words : Part → List String
  | choice c => c.option.name :: c.values
  | word s => [s]

/-- What the words of a part are. -/
def classified : Part → List Word
  | choice c => .known ⟨c.option, c.option.name, none⟩ :: c.values.map .plain
  | word s => [.plain s]

/-- The choice that a part is. -/
def choice? : Part → Option Choice
  | choice c => some c
  | word _ => none

/-- The word that a part is. -/
def word? : Part → Option String
  | choice _ => none
  | word s => some s

end Part

/-- A word does not look like an option. -/
def IsBare (s : String) : Prop := s.toList.head? ≠ some '-'

instance (s : String) : Decidable (IsBare s) := by
  unfold IsBare
  infer_instance

/-- No value and no word of a part looks like an option. -/
def Part.IsBare : Part → Prop
  | choice c => ∀ s ∈ c.values, Cli.IsBare s
  | word s => Cli.IsBare s

instance (p : Part) : Decidable p.IsBare := by
  cases p <;> (unfold Part.IsBare; infer_instance)

/-- The words of a command line. -/
def commandLine (parts : List Part) : List String := parts.flatMap Part.words

/-- The choices of a command line, in order. -/
def choices (parts : List Part) : List Choice := parts.filterMap Part.choice?

/-- The words between the options, in order. -/
def bareWords (parts : List Part) : List String := parts.filterMap Part.word?

/-- What choices ask for after what has been asked for before. -/
def Arguments.chooseAll (a : Arguments) (cs : List Choice) : Arguments :=
  cs.foldl (fun a c => a.choose c.option c.values) a

/-! ## What the words are -/

theorem classify_bare {s : String} (h : IsBare s) : Word.classify s = .ok (.plain s) := by
  unfold IsBare at h
  rw [Word.classify, if_pos h]

theorem classify_name (o : CliOption) : Word.classify o.name = .ok (.known ⟨o, o.name, none⟩) := by
  cases o with
  | format f => cases f <;> decide
  | _ => decide

theorem bare_ne_doubleHyphen {s : String} (h : IsBare s) : s ≠ "--" := by
  rintro rfl
  exact h (by decide)

theorem name_ne_doubleHyphen (o : CliOption) : o.name ≠ "--" := by
  cases o with
  | format f => cases f <;> decide
  | _ => decide

theorem classifyAll_cons {s : String} {word : Word} {rest : List String}
    (hs : s ≠ "--") (hword : Word.classify s = .ok word) :
    classifyAll (s :: rest) = (classifyAll rest).map (word :: ·) := by
  rw [classifyAll]
  · rw [hword]
  · exact hs

theorem classifyAll_bare {ss : List String} (h : ∀ s ∈ ss, IsBare s) (rest : List String) :
    classifyAll (ss ++ rest) = (classifyAll rest).map (ss.map .plain ++ ·) := by
  induction ss with
  | nil => cases hrest : classifyAll rest <;> simp [hrest, Except.map]
  | cons s ss ih =>
    rw [List.forall_mem_cons] at h
    rw [List.cons_append, classifyAll_cons (bare_ne_doubleHyphen h.1) (classify_bare h.1), ih h.2]
    cases classifyAll rest <;> rfl

/-- The words of a command line are options with their values, and plain words. -/
theorem classifyAll_commandLine {parts : List Part} (h : ∀ p ∈ parts, p.IsBare) :
    classifyAll (commandLine parts) = .ok (parts.flatMap Part.classified) := by
  induction parts with
  | nil => rfl
  | cons p parts ih =>
    rw [List.forall_mem_cons] at h
    have hrest := ih h.2
    rw [commandLine] at hrest
    rw [commandLine, List.flatMap_cons, List.flatMap_cons]
    cases p with
    | word s =>
      rw [Part.words, classifyAll_bare (List.forall_mem_singleton.2 h.1), hrest]
      rfl
    | choice c =>
      rw [Part.words, List.cons_append, classifyAll_cons (name_ne_doubleHyphen c.option)
        (classify_name c.option), classifyAll_bare h.1, hrest]
      rfl

/-! ## Steps of the first reading -/

section Steps

variable {takesWords : Bool} {limit : Nat} {p q : Progress} {words : List Word}

theorem plainWords_append (ss : List String) (words : List Word) :
    plainWords ss.length (ss.map .plain ++ words) = some ss := by
  induction ss with
  | nil => rfl
  | cons s ss ih => simp [plainWords, ih]

theorem any_isOption_plain (ss : List String) : (ss.map Word.plain).any Word.isOption = false := by
  rw [List.any_map, List.any_eq_false]
  intro s _
  simp [Word.isOption]

/-- Where there is no option, reading ends. -/
theorem readOptions_plain (ss : List String) :
    readOptions takesWords limit p (ss.map .plain) = .ok (p, ss.map .plain) := by
  cases limit with
  | zero => rfl
  | succ limit =>
    unfold readOptions
    rw [any_isOption_plain]
    rfl

/-- An option is taken with its values. -/
theorem readOptions_choice {c : Choice} (htake : p.take c.option c.values = .ok q) :
    readOptions takesWords (limit + 1) p ((Part.choice c).classified ++ words) =
      readOptions takesWords limit q words := by
  have hvalues : plainWords c.option.arity (c.values.map .plain ++ words) = some c.values := by
    rw [← c.length_values]
    exact plainWords_append _ _
  have hdrop : (c.values.map Word.plain ++ words).drop c.option.arity = words := by
    rw [← c.length_values]
    exact List.drop_left' (by simp)
  rw [Part.classified, List.cons_append, readOptions]
  simp [Word.isOption, takeOption, hvalues, htake, hdrop, Except.map]

/-- The first reading takes no words. -/
theorem takeWords_plain (h : ∀ w ∈ words.head?, ∃ s, w = .plain s) :
    takeWords false p words = ({ p with tookWords := true }, words) := by
  obtain ⟨a, formats, leftOver, took⟩ := p
  cases took with
  | true => rfl
  | false =>
    cases words with
    | nil => rfl
    | cons w words =>
      obtain ⟨s, rfl⟩ := h w rfl
      rfl

/-- The first reading passes over the words before an option. -/
theorem readOptions_words {ss : List String} (hss : ss ≠ []) (c : Choice) :
    readOptions false (limit + 1) p (ss.map .plain ++ ((Part.choice c).classified ++ words)) =
      readOptions false limit { p with leftOver := p.leftOver ++ ss, tookWords := true }
        ((Part.choice c).classified ++ words) := by
  have hany :
      (ss.map Word.plain ++ ((Part.choice c).classified ++ words)).any Word.isOption = true := by
    simp [Part.classified, Word.isOption]
  have htexts : (ss.map Word.plain).map Word.text = ss := by
    rw [List.map_map]
    exact List.map_id ss
  have hplain : ∀ w ∈ ss.map Word.plain, (!w.isOption) = true := by
    simp [Word.isOption]
  have htake :
      (ss.map Word.plain ++ ((Part.choice c).classified ++ words)).takeWhile (!·.isOption) =
        ss.map .plain := by
    rw [List.takeWhile_append_of_pos hplain, Part.classified, List.cons_append, List.takeWhile_cons]
    simp [Word.isOption]
  have hdrop :
      (ss.map Word.plain ++ ((Part.choice c).classified ++ words)).dropWhile (!·.isOption) =
        (Part.choice c).classified ++ words := by
    rw [List.dropWhile_append_of_pos hplain, Part.classified, List.cons_append, List.dropWhile_cons]
    simp [Word.isOption]
  obtain ⟨s, ss, rfl⟩ := List.exists_cons_of_ne_nil hss
  conv_lhs => unfold readOptions
  simp only [List.map_cons, List.cons_append] at hany htake hdrop htexts ⊢
  rw [takeWords_plain (by simp)]
  simp only [hany, Bool.not_true, Bool.false_eq_true, if_false, Nat.lt_irrefl, htake, hdrop,
    List.map_cons, htexts]

/-- A choice can be taken unless another format has been chosen before. -/
theorem take_choice {f : Format} {c : Choice} (hp : ∀ g ∈ p.formats, g = f)
    (hc : ∀ g ∈ c.format?, g = f) :
    ∃ q, p.take c.option c.values = .ok q ∧ (∀ g ∈ q.formats, g = f) ∧
      q.arguments = p.arguments.choose c.option c.values ∧ q.leftOver = p.leftOver := by
  cases c with
  | format g =>
    obtain rfl : g = f := hc g rfl
    have hfind : p.formats.find? (· ≠ g) = none := by
      rw [List.find?_eq_none]
      intro g' hg'
      simpa using hp g' hg'
    have htake : p.take (.format g) [] = .ok
        { p with arguments := p.arguments.choose (.format g) [], formats := g :: p.formats } := by
      rw [Progress.take, hfind]
    exact ⟨_, htake, List.forall_mem_cons.2 ⟨rfl, hp⟩, rfl, rfl⟩
  | _ => exact ⟨_, rfl, hp, rfl, rfl⟩

end Steps

/-! ## Readings -/

/-- Words come before an option, or there is no option. -/
theorem exists_words (parts : List Part) :
    ∃ ss : List String, parts = ss.map .word ∨
      ∃ c rest, parts = ss.map .word ++ .choice c :: rest := by
  induction parts with
  | nil => exact ⟨[], .inl rfl⟩
  | cons p parts ih =>
    cases p with
    | choice c => exact ⟨[], .inr ⟨c, parts, rfl⟩⟩
    | word s =>
      obtain ⟨ss, hss⟩ := ih
      refine ⟨s :: ss, ?_⟩
      rcases hss with rfl | ⟨c, rest, rfl⟩
      · exact .inl rfl
      · exact .inr ⟨c, rest, rfl⟩

theorem classified_words (ss : List String) :
    (ss.map Part.word).flatMap Part.classified = ss.map .plain := by
  rw [List.flatMap_map, List.map_eq_flatMap]
  rfl

theorem choices_words (ss : List String) : choices (ss.map .word) = [] := by
  simp [choices, List.filterMap_map, Part.choice?]

theorem bareWords_words (ss : List String) : bareWords (ss.map .word) = ss := by
  rw [bareWords, List.filterMap_map]
  exact List.filterMap_some

/-- The first reading takes all choices in order, and leaves all words. Each of its steps passes
over the words before an option, or takes an option. -/
theorem readOptions_parts {f : Format} (parts : List Part) {p : Progress} {limit : Nat}
    (hp : ∀ g ∈ p.formats, g = f) (hparts : ∀ c ∈ choices parts, ∀ g ∈ c.format?, g = f)
    (hlimit : (parts.flatMap Part.classified).length < limit) :
    ∃ q rest, readOptions false limit p (parts.flatMap Part.classified) = .ok (q, rest.map .plain) ∧
      q.arguments = p.arguments.chooseAll (choices parts) ∧
      q.leftOver ++ rest = p.leftOver ++ bareWords parts := by
  induction hn : parts.length using Nat.strong_induction_on generalizing parts p limit with
  | _ n ih =>
  obtain ⟨ss, rfl | ⟨c, more, rfl⟩⟩ := exists_words parts
  · rw [classified_words, choices_words, bareWords_words]
    exact ⟨p, ss, readOptions_plain ss, rfl, rfl⟩
  have hchoices : choices (ss.map .word ++ .choice c :: more) = c :: choices more := by
    rw [choices, List.filterMap_append, ← choices, choices_words]
    rfl
  have hwords : bareWords (ss.map .word ++ .choice c :: more) = ss ++ bareWords more := by
    rw [bareWords, List.filterMap_append, ← bareWords, bareWords_words]
    rfl
  rw [List.flatMap_append, classified_words, List.flatMap_cons] at hlimit ⊢
  rw [hchoices, List.forall_mem_cons] at hparts
  rw [hchoices, hwords]
  -- the option is reached in the next step, or in the one after it
  have hreach : ∃ limit' p', (more.flatMap Part.classified).length < limit' ∧
      readOptions false limit p
          (ss.map .plain ++ ((Part.choice c).classified ++ more.flatMap Part.classified)) =
        readOptions false (limit' + 1) p'
          ((Part.choice c).classified ++ more.flatMap Part.classified) ∧
      p'.arguments = p.arguments ∧ p'.formats = p.formats ∧ p'.leftOver = p.leftOver ++ ss := by
    have hlength : 0 < (Part.choice c).classified.length := by simp [Part.classified]
    simp only [List.length_append, List.length_map] at hlimit
    by_cases hss : ss = []
    · obtain ⟨limit', rfl⟩ : ∃ limit', limit = limit' + 1 := ⟨limit - 1, by omega⟩
      subst hss
      exact ⟨limit', p, by omega, rfl, rfl, rfl, by simp⟩
    · have hpos : 0 < ss.length := List.length_pos_iff.2 hss
      obtain ⟨limit', rfl⟩ : ∃ limit', limit = limit' + 1 + 1 := ⟨limit - 2, by omega⟩
      exact ⟨limit', _, by omega, readOptions_words hss c, rfl, rfl, rfl⟩
  obtain ⟨limit', p', hlimit', hread, harguments, hformats, hleft⟩ := hreach
  obtain ⟨q, htake, hq, hchosen, hkept⟩ := take_choice (p := p') (hformats ▸ hp) hparts.1
  obtain ⟨q', rest, hrest, hall, hleftOver⟩ :=
    ih more.length (by simp at hn; omega) more hq hparts.2 hlimit' rfl
  refine ⟨q', rest, ?_, ?_, ?_⟩
  · rw [hread, readOptions_choice htake, hrest]
  · rw [hall, hchosen, harguments]
    rfl
  · rw [hleftOver, hkept, hleft, List.append_assoc]

/-- The first reading of a command line. -/
theorem readOnce_parts {f : Format} {parts : List Part} (hbare : ∀ p ∈ parts, p.IsBare)
    (hparts : ∀ c ∈ choices parts, ∀ g ∈ c.format?, g = f) :
    readOnce false {} (commandLine parts) =
      .ok (Arguments.chooseAll {} (choices parts), bareWords parts) := by
  obtain ⟨q, rest, hread, harguments, hleft⟩ :=
    readOptions_parts parts (p := { arguments := {} }) (by simp) hparts (Nat.lt_succ_self _)
  have hplain : ∀ w ∈ (rest.map Word.plain).head?, ∃ s, w = .plain s := by
    intro w hw
    obtain ⟨s, -, rfl⟩ := List.mem_map.1 (List.mem_of_mem_head? hw)
    exact ⟨s, rfl⟩
  have htexts : (rest.map Word.plain).map Word.text = rest := by
    rw [List.map_map]
    exact List.map_id rest
  rw [readOnce, classifyAll_commandLine hbare]
  simp only [bind, Except.bind, hread, takeWords_plain hplain, harguments, htexts, hleft]
  rfl

/-- The second reading takes all words. -/
theorem readOnce_words {a : Arguments} {ss : List String} (hbare : ∀ s ∈ ss, IsBare s) :
    readOnce true a ss = .ok ({ a with parameters := ss }, []) := by
  have hclassify : classifyAll ss = .ok (ss.map .plain) := by
    have h := classifyAll_bare hbare []
    rw [List.append_nil] at h
    rw [h]
    simp [classifyAll, Except.map]
  have htaken : ∀ w ∈ ss.map Word.plain, isTaken true w = true := by
    simp [isTaken]
  have htexts : (ss.map Word.plain).map Word.text = ss := by
    rw [List.map_map]
    exact List.map_id ss
  have herase : ss.erase "--" = ss :=
    List.erase_of_not_mem fun h => bare_ne_doubleHyphen (hbare _ h) rfl
  rw [readOnce, hclassify]
  simp only [bind, Except.bind, readOptions_plain, takeWords, Bool.false_eq_true, if_false, if_true,
    List.takeWhile_eq_self_iff.2 htaken, List.dropWhile_eq_nil_iff.2 htaken, htexts, herase]
  rfl

/-- However words and options are mixed, the choices are taken in order and the words are the
parameters. -/
theorem parse_commandLine {f : Format} {parts : List Part} (hbare : ∀ p ∈ parts, p.IsBare)
    (hparts : ∀ c ∈ choices parts, ∀ g ∈ c.format?, g = f) :
    parse (commandLine parts) =
      .ok { Arguments.chooseAll {} (choices parts) with parameters := bareWords parts } := by
  have hwords : ∀ s ∈ bareWords parts, IsBare s := by
    intro s hs
    obtain ⟨p, hp, hword⟩ := List.mem_filterMap.1 hs
    cases p with
    | choice c => cases hword
    | word s' =>
      cases hword
      exact hbare _ hp
  rw [parse, readOnce_parts hbare hparts]
  simp only [bind, Except.bind, readOnce_words hwords]
  rfl

/-! ## What is chosen -/

/-- Of choices between values the last one counts. -/
theorem chooseAll_last {α : Type} (get : Arguments → α) (value? : Choice → Option α)
    (h : ∀ a c, get (a.choose c.option c.values) = (value? c).getD (get a)) (a : Arguments)
    (cs : List Choice) :
    get (a.chooseAll cs) = ((cs.filterMap value?).getLast?).getD (get a) := by
  induction cs generalizing a with
  | nil => rfl
  | cons c cs ih =>
    rw [Arguments.chooseAll, List.foldl_cons, ← Arguments.chooseAll, ih, h, List.filterMap_cons]
    cases value? c with
    | none => rfl
    | some value =>
      rw [List.getLast?_cons]
      cases (cs.filterMap value?).getLast? <;> rfl

theorem chooseAll_format (a : Arguments) (cs : List Choice) :
    (a.chooseAll cs).format = ((cs.filterMap Choice.format?).getLast?).or a.format := by
  rw [chooseAll_last (·.format) (fun c => c.format?.map some) fun a c => by cases c <;> rfl,
    ← List.map_filterMap, List.getLast?_map]
  cases (cs.filterMap Choice.format?).getLast? <;> rfl

theorem chooseAll_solution (a : Arguments) (cs : List Choice) :
    (a.chooseAll cs).solution =
      (((cs.filterMap Choice.solution?).getLast?).map Value.ofWord).getD a.solution := by
  rw [chooseAll_last (·.solution) (fun c => c.solution?.map Value.ofWord)
      fun a c => by cases c <;> rfl,
    ← List.map_filterMap, List.getLast?_map]

theorem chooseAll_output (a : Arguments) (cs : List Choice) :
    (a.chooseAll cs).output =
      (((cs.filterMap Choice.output?).getLast?).map Value.ofWord).getD a.output := by
  rw [chooseAll_last (·.output) (fun c => c.output?.map Value.ofWord) fun a c => by cases c <;> rfl,
    ← List.map_filterMap, List.getLast?_map]

/-- No choice asks for the server. -/
theorem chooseAll_serve (a : Arguments) (cs : List Choice) : (a.chooseAll cs).serve = a.serve := by
  rw [chooseAll_last (·.serve) (fun _ => none) fun a c => by cases c <;> rfl]
  simp

/-- Mappings add up in order. -/
theorem chooseAll_mappings (a : Arguments) (cs : List Choice) :
    (a.chooseAll cs).mappings = a.mappings ++ cs.filterMap Choice.mapping? := by
  induction cs generalizing a with
  | nil => simp [Arguments.chooseAll]
  | cons c cs ih =>
    rw [Arguments.chooseAll, List.foldl_cons, ← Arguments.chooseAll, ih]
    cases c <;>
      simp [Arguments.choose, Choice.option, Choice.values, Choice.mapping?, List.filterMap_cons]

theorem ofWord_bare {s : String} (h : IsBare s) : Value.ofWord s = .text s := by
  rw [Value.ofWord, if_neg (bare_ne_doubleHyphen h)]

/-! ## Parameters -/

/-- The word that gives a parameter its value. -/
def parameterWord (parameter : String × String) : String := parameter.1 ++ "=" ++ parameter.2

/-- Names and values are split at the first equals sign. -/
theorem splitParameter_parameterWord {parameter : String × String} (hne : parameter.1 ≠ "")
    (h : '=' ∉ parameter.1.toList) : splitParameter (parameterWord parameter) = .ok parameter := by
  obtain ⟨name, value⟩ := parameter
  have hsplit : Text.splitAtWord ['='] (parameterWord (name, value)).toList =
      some (name.toList, value.toList) := by
    have hword : (parameterWord (name, value)).toList = name.toList ++ '=' :: value.toList := by
      simp [parameterWord, String.toList_append]
    rw [hword, Text.splitAtWord_append h]
  rw [splitParameter, hsplit]
  cases hname : name.toList with
  | nil => exact absurd (String.toList_eq_nil_iff.1 hname) hne
  | cons c cs => simp [← hname]

/-- The last value of each name counts, in the place of the first. -/
theorem readParameters_parameterWord {ps : List (String × String)}
    (h : ∀ p ∈ ps, p.1 ≠ "" ∧ '=' ∉ p.1.toList) :
    readParameters (ps.map parameterWord) =
      .ok (Keyed.ofList (ps.map fun p => (p.1, .text p.2))) := by
  have hsplit : (ps.map parameterWord).mapM splitParameter = .ok ps := by
    rw [mapM_eq_ok, List.forall₂_map_left_iff, List.forall₂_same]
    exact fun p hp => splitParameter_parameterWord (h p hp).1 (h p hp).2
  rw [readParameters, hsplit]
  rfl

end SolutionScript.Cli
