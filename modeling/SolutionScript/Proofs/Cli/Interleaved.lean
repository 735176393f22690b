import SolutionScript.Cli.Run
import SolutionScript.Proofs.Cli.Parts
import SolutionScript.Proofs.Keyed
import SolutionScript.Proofs.Solution.PlainFile

/-!
# Words between options

Options with their values, and words, can be put together in many ways that keep the order of both
(`Interleaves`). Each of them asks for the same (`parse_interleaved`), so a run does not show which
one it was given (`run_interleaved`).

* `ofPairs_mappings`: the rules for prefixes are in the order of their options;
* `readParameters_words`: the last value of each name counts, in the place of the first.
-/

namespace SolutionScript.Cli

open FileSystem

variable {groups : List Choice} {words : List String} {parts : List Part}

/-! ## Interleavings -/

/-- The parts of a command line are options with their values, and words, each in order. -/
inductive Interleaves : List Choice → List String → List Part → Prop
  | nil : Interleaves [] [] []
  | choice (c : Choice) {groups : List Choice} {words : List String} {parts : List Part} :
    Interleaves groups words parts → Interleaves (c :: groups) words (.choice c :: parts)
  | word (s : String) {groups : List Choice} {words : List String} {parts : List Part} :
    Interleaves groups words parts → Interleaves groups (s :: words) (.word s :: parts)

theorem Interleaves.choices_eq (h : Interleaves groups words parts) : choices parts = groups := by
  induction h with
  | nil => rfl
  | choice c _ ih => rw [← ih]; rfl
  | word s _ ih => rw [← ih]; rfl

theorem Interleaves.bareWords_eq (h : Interleaves groups words parts) :
    bareWords parts = words := by
  induction h with
  | nil => rfl
  | choice c _ ih => rw [← ih]; rfl
  | word s _ ih => rw [← ih]; rfl

/-- All words can stand after the options. -/
theorem interleaves_wordsLast (groups : List Choice) (words : List String) :
    Interleaves groups words (groups.map .choice ++ words.map .word) := by
  induction groups with
  | nil =>
    induction words with
    | nil => exact .nil
    | cons s words ih => exact .word s ih
  | cons c groups ih => exact .choice c ih

theorem Interleaves.isBare (h : Interleaves groups words parts)
    (hvalues : ∀ c ∈ groups, ∀ v ∈ c.values, IsBare v) (hwords : ∀ s ∈ words, IsBare s) :
    ∀ p ∈ parts, p.IsBare := by
  induction h with
  | nil => nofun
  | choice c _ ih =>
    rw [List.forall_mem_cons] at hvalues ⊢
    exact ⟨hvalues.1, ih hvalues.2 hwords⟩
  | word s _ ih =>
    rw [List.forall_mem_cons] at hwords ⊢
    exact ⟨hwords.1, ih hvalues hwords.2⟩

/-! ## What is asked for -/

/-- What options and words ask for: the last solution and the last output file that are given, all
rules in order, and the words as parameters. -/
def askedFor (groups : List Choice) (words : List String) : Arguments where
  format := (groups.filterMap Choice.format?).getLast?
  solution := ((groups.filterMap Choice.solution?).getLast?).elim .missing .text
  mappings := groups.filterMap Choice.mapping?
  output := ((groups.filterMap Choice.output?).getLast?).elim .missing .text
  parameters := words

/-- The value of an option is taken as it is, because it does not look like an option. -/
theorem map_ofWord {value? : Choice → Option String}
    (hvalue : ∀ c v, value? c = some v → v ∈ c.values)
    (hvalues : ∀ c ∈ groups, ∀ v ∈ c.values, IsBare v) :
    (((groups.filterMap value?).getLast?).map Value.ofWord).getD .missing =
      ((groups.filterMap value?).getLast?).elim .missing .text := by
  cases hlast : (groups.filterMap value?).getLast? with
  | none => rfl
  | some v =>
    obtain ⟨c, hc, hv⟩ := List.mem_filterMap.1 (List.mem_of_getLast? hlast)
    exact ofWord_bare (hvalues c hc v (hvalue c v hv))

theorem chooseAll_project (a : Arguments) (cs : List Choice) :
    (a.chooseAll cs).project = a.project := by
  rw [chooseAll_last (·.project) (fun _ => none) fun a c => by cases c <;> rfl]
  simp

theorem chooseAll_eq (hvalues : ∀ c ∈ groups, ∀ v ∈ c.values, IsBare v) :
    { Arguments.chooseAll {} groups with parameters := words } = askedFor groups words := by
  have hformat := (chooseAll_format {} groups).trans Option.or_none
  have hsolution := (chooseAll_solution {} groups).trans
    (map_ofWord (fun c v h => by cases c <;> cases h; exact List.mem_singleton_self _) hvalues)
  have hmappings := (chooseAll_mappings {} groups).trans (List.nil_append _)
  have houtput := (chooseAll_output {} groups).trans
    (map_ofWord (fun c v h => by cases c <;> cases h; exact List.mem_singleton_self _) hvalues)
  have hserve := chooseAll_serve {} groups
  have hproject := chooseAll_project {} groups
  simp only [hformat, hsolution, hmappings, houtput, hserve, hproject]
  rfl

/-- What a command line asks for does not show where its words stood. -/
theorem parse_interleaved (h : Interleaves groups words parts)
    (hvalues : ∀ c ∈ groups, ∀ v ∈ c.values, IsBare v) (hwords : ∀ s ∈ words, IsBare s)
    (hformat : (groups.filterMap Choice.format?).length ≤ 1) :
    parse (commandLine parts) = .ok (askedFor groups words) := by
  obtain ⟨f, hf⟩ : ∃ f, ∀ g ∈ groups.filterMap Choice.format?, g = f := by
    cases hformats : groups.filterMap Choice.format? with
    | nil => exact ⟨.nant, nofun⟩
    | cons f more =>
      rw [hformats, List.length_cons] at hformat
      obtain rfl : more = [] := List.length_eq_zero_iff.1 (by omega)
      exact ⟨f, fun g hg => List.mem_singleton.1 hg⟩
  have hparts : ∀ c ∈ choices parts, ∀ g ∈ c.format?, g = f := by
    rw [h.choices_eq]
    exact fun c hc g hg => hf g (List.mem_filterMap.2 ⟨c, hc, hg⟩)
  rw [parse_commandLine (h.isBare hvalues hwords) hparts, h.choices_eq, h.bareWords_eq,
    chooseAll_eq hvalues]

theorem commandLine_ne_nil (h : parts ≠ []) : commandLine parts ≠ [] := by
  obtain ⟨p, rest, rfl⟩ := List.exists_cons_of_ne_nil h
  cases p <;> exact List.cons_ne_nil _ _

theorem run_askedFor (d : Disk) (h : Interleaves groups words parts)
    (hvalues : ∀ c ∈ groups, ∀ v ∈ c.values, IsBare v) (hwords : ∀ s ∈ words, IsBare s)
    (hformat : (groups.filterMap Choice.format?).length ≤ 1) (hparts : parts ≠ []) :
    run d (commandLine parts) = runArguments d (askedFor groups words) :=
  run_eq_runArguments (commandLine_ne_nil hparts) (parse_interleaved h hvalues hwords hformat)

/-! ## Rules and parameters -/

/-- The rule for a prefix that a choice gives. -/
def Choice.rule? : Choice → Option PathMapping
  | .mapping source target => some ⟨source, target⟩
  | _ => none

theorem ofPairs_mappings (groups : List Choice) :
    PathMapping.ofPairs (groups.filterMap Choice.mapping?) =
      .ok (groups.filterMap Choice.rule?) := by
  induction groups with
  | nil => rfl
  | cons c groups ih =>
    cases c with
    | mapping source target =>
      show (PathMapping.ofPairs (groups.filterMap Choice.mapping?)).map (⟨source, target⟩ :: ·) = _
      rw [ih]
      rfl
    | _ => exact ih

/-- Of the parameters of one name the first decides the place, and the last the value. -/
theorem readParameters_words {ps : List (String × String)}
    (h : ∀ p ∈ ps, p.1 ≠ "" ∧ '=' ∉ p.1.toList) :
    ∃ m, readParameters (ps.map parameterWord) = .ok m ∧
      m.keys = (ps.map Prod.fst).eraseDups ∧
      ∀ name v, m.get? name = some v ↔
        Keyed.LastHas Prod.fst (fun p => ParameterValue.text p.2) ps name v := by
  refine ⟨_, readParameters_parameterWord h, ?_, fun name v => ?_⟩
  · rw [Keyed.ofList, List.foldl_map, Keyed.keys_foldl_put]
    simp [Keyed.keys]
  · rw [Keyed.ofList, List.foldl_map, Keyed.get?_foldl_put]
    simp [Keyed.get?]

/-! ## Runs -/

/-- A command line runs as the one with all words after the options. It asks for the same: the rules
in the order of their options, and of each parameter the last value in the place of the first. -/
theorem run_interleaved (d : Disk) (h : Interleaves groups words parts)
    (hvalues : ∀ c ∈ groups, ∀ v ∈ c.values, IsBare v) (hwords : ∀ s ∈ words, IsBare s)
    (hformat : (groups.filterMap Choice.format?).length ≤ 1) :
    run d (commandLine parts) =
        run d (commandLine (groups.map .choice ++ words.map .word)) ∧
      (parts ≠ [] → run d (commandLine parts) = runArguments d (askedFor groups words)) ∧
      PathMapping.ofPairs (askedFor groups words).mappings =
        .ok (groups.filterMap Choice.rule?) ∧
      ∀ ps, (∀ p ∈ ps, p.1 ≠ "" ∧ '=' ∉ p.1.toList) → words = ps.map parameterWord →
        ∃ m, readParameters (askedFor groups words).parameters = .ok m ∧
          m.keys = (ps.map Prod.fst).eraseDups ∧
          ∀ name v, m.get? name = some v ↔
            Keyed.LastHas Prod.fst (fun p => ParameterValue.text p.2) ps name v := by
  have hlast := interleaves_wordsLast groups words
  have hasked := run_askedFor d h hvalues hwords hformat
  refine ⟨?_, hasked, ofPairs_mappings groups, ?_⟩
  · by_cases hparts : parts = []
    · subst hparts
      cases h
      rfl
    · have hother : groups.map Part.choice ++ words.map Part.word ≠ [] := by
        intro hnil
        obtain ⟨hgroups, hbare⟩ := List.append_eq_nil_iff.1 hnil
        cases List.map_eq_nil_iff.1 hgroups
        cases List.map_eq_nil_iff.1 hbare
        cases h
        exact hparts rfl
      rw [hasked hparts, run_askedFor d hlast hvalues hwords hformat hother]
  · rintro ps hps rfl
    exact readParameters_words hps

/-- Words before, between and after options with two values, one and none. -/
theorem run_interleaved_words :
    run pairDisk ["csc=mcs", "-map", "http://a/", "/srv/a/", "build.basedir=out=1", "-sln",
        "Chain.sln", "-nmake", "csc=csc -w", "-map", "http://b/", "/srv/b/"] =
      run pairDisk ["-map", "http://a/", "/srv/a/", "-sln", "Chain.sln", "-nmake", "-map",
        "http://b/", "/srv/b/", "csc=mcs", "build.basedir=out=1", "csc=csc -w"] ∧
    (∃ a, run pairDisk ["csc=mcs", "-map", "http://a/", "/srv/a/", "build.basedir=out=1", "-sln",
        "Chain.sln", "-nmake", "csc=csc -w", "-map", "http://b/", "/srv/b/"] =
        runArguments pairDisk a ∧
      a.format = some .nmake ∧ a.solution = .text "Chain.sln" ∧
      PathMapping.ofPairs a.mappings =
        .ok [⟨"http://a/", "/srv/a/"⟩, ⟨"http://b/", "/srv/b/"⟩] ∧
      ∃ m, readParameters a.parameters = .ok m ∧ m.keys = ["csc", "build.basedir"] ∧
        m.get? "csc" = some (.text "csc -w") ∧
        m.get? "build.basedir" = some (.text "out=1")) := by
  let groups : List Choice := [.mapping "http://a/" "/srv/a/", .solution "Chain.sln",
    .format .nmake, .mapping "http://b/" "/srv/b/"]
  let ps := [("csc", "mcs"), ("build.basedir", "out=1"), ("csc", "csc -w")]
  have hparts : Interleaves groups (ps.map parameterWord)
      [.word "csc=mcs", .choice (.mapping "http://a/" "/srv/a/"), .word "build.basedir=out=1",
        .choice (.solution "Chain.sln"), .choice (.format .nmake), .word "csc=csc -w",
        .choice (.mapping "http://b/" "/srv/b/")] :=
    .word _ (.choice _ (.word _ (.choice _ (.choice _ (.word _ (.choice _ .nil))))))
  obtain ⟨hsame, hasked, hrules, hparameters⟩ :=
    run_interleaved pairDisk hparts (by decide) (by decide) (by decide)
  obtain ⟨m, hread, hkeys, hvalues⟩ := hparameters ps (by decide) rfl
  refine ⟨hsame, _, hasked (List.cons_ne_nil _ _), rfl, rfl, hrules, m, hread, ?_, ?_, ?_⟩
  · rw [hkeys]
    decide
  · exact (hvalues _ _).2 ⟨ps.take 2, _, [], rfl, rfl, nofun, rfl⟩
  · exact (hvalues _ _).2 ⟨ps.take 1, _, ps.drop 2, rfl, rfl, by decide, rfl⟩

end SolutionScript.Cli
