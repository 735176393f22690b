import SolutionScript.Cli.Run
import SolutionScript.Proofs.Cli.Parts
import SolutionScript.Proofs.Conversion
import SolutionScript.Server.Tools

/-!
# The command line and the tools

A command line that asks for a conversion (`Asks`) and a call of the tool that asks
for the same one come to the same request, whatever the order of the words and
options is. So the command line prints the script that the tool gives
back (`Asks.run_eq`, `runConversion_of_render`), and both fail alike.
-/

namespace SolutionScript

open FileSystem Fallible Cli

variable {d : Disk} {f : Format} {m : Parameters} {r : Request} {out : Rendered} {e : Failure}

/-! ## Checks that the front ends share -/

theorem Format.ofName_name (f : Format) : Format.ofName f.name = .ok f := by
  cases f <;> rfl

/-- The base directory is all that a format requires. -/
theorem Format.require_eq_ok {value : ParameterValue}
    (h : m.given? Parameters.baseDirectory = some value) (f : Format) : f.require m = .ok () := by
  have hmissing : f.missing m = [] := by
    cases f <;> simp [Format.missing, Format.parameters, Format.commonParameters, h]
  rw [Format.require, hmissing]
  rfl

theorem given?_of_get? {name text : String} (h : m.get? name = some (.text text))
    (hne : text ≠ "") :
    m.given? name = some (.text text) := by
  simp [Parameters.given?, h, ParameterValue.isGiven, hne]

/-! ## The tools -/

theorem checkedScript_eq {value : ParameterValue}
    (hbase : m.given? Parameters.baseDirectory = some value) (output : String) :
    Server.checkedScript d ⟨f.name, m, r, output⟩ =
      (render d f.name m r).map fun out => (out.order, out.script) := by
  have hcheck : (Format.ofName f.name).bind (fun f => f.require m) = .ok () := by
    rw [Format.ofName_name]
    exact Format.require_eq_ok hbase f
  rw [Server.checkedScript, hcheck, convert_buffer]
  cases render d f.name m r with
  | error e => rfl
  | ok out => simp [bind, Except.bind, pure, Except.pure, Except.map]

/-- Without an output file the tool gives back the script, and changes nothing. -/
theorem runConversion_of_render {value : ParameterValue}
    (hbase : m.given? Parameters.baseDirectory = some value) :
    Server.runConversion d ⟨f.name, m, r, ""⟩ =
      (d, (render d f.name m r).map fun out => ⟨f.name, out.order.names, .script out.script⟩) := by
  rw [Server.runConversion, checkedScript_eq hbase]
  cases render d f.name m r <;> rfl

/-- The projects that are described are those of the order. -/
theorem exists_buildOrder {s : OrderedSolution} (h : loadOrdered d r = .ok s) :
    ∃ report, Server.buildOrder d r = .ok report ∧
      report.projects.map (·.name) = s.order.names := by
  have hdescribed : ∀ p ∈ s.order.projects, ∃ described,
      ((s.order.dependencies p).map fun needed => (⟨p.name, p.id, p.kind, p.path, p.outputPath,
        needed.map (·.name)⟩ : Server.ProjectReport)) = .ok described := by
    intro p hp
    obtain ⟨needed, hneeded⟩ := exists_dependencies_of_loadOrdered h p hp
    exact ⟨_, map_eq_ok.2 ⟨needed, hneeded, rfl⟩⟩
  obtain ⟨projects, hprojects⟩ := exists_mapM_eq_ok hdescribed
  have hnames : projects.map (·.name) = s.order.projects.map (·.name) := by
    refine map_of_mapM_eq_ok hprojects fun p described hp => ?_
    obtain ⟨needed, -, rfl⟩ := map_eq_ok.1 hp
    rfl
  refine ⟨⟨s.name, projects⟩, ?_, hnames⟩
  simp only [Server.buildOrder, h, bind, Except.bind, Server.describe, hprojects, pure, Except.pure]

/-! ## The command line -/

/-- A command line asks for a conversion to be printed: in a format, with parameters, of the
solution that it names if it names one, and with mappings. -/
structure Asks (parts : List Part) (f : Format) (parameters : List (String × String))
    (solution : Option String) (mappings : List (String × String)) : Prop where
  bare : ∀ p ∈ parts, p.IsBare
  format : (choices parts).filterMap Choice.format? = [f]
  solution : (choices parts).filterMap Choice.solution? = solution.toList
  mappings : (choices parts).filterMap Choice.mapping? = mappings.map fun m => [m.1, m.2]
  printed : (choices parts).filterMap Choice.output? = []
  words : bareWords parts = parameters.map parameterWord
  names : ∀ p ∈ parameters, p.1 ≠ "" ∧ '=' ∉ p.1.toList

/-- The parameters that are asked for. -/
def askedParameters (parameters : List (String × String)) : Parameters :=
  Keyed.ofList (parameters.map fun p => (p.1, .text p.2))

/-- The request that is asked for. -/
def askedRequest (solution : Option String) (mappings : List (String × String)) : Request where
  solution := solution.map HostPath.parse
  mappings := mappings.map fun m => [m.1, m.2]

section Asked

variable {parts : List Part} {parameters mappings : List (String × String)}
  {solution : Option String}

/-- The value of an option is never a hyphen's. -/
theorem ofWord_solution (h : Asks parts f parameters solution mappings) :
    solution.map Value.ofWord = solution.map Value.text := by
  cases solution with
  | none => rfl
  | some path =>
    have hmem : path ∈ (choices parts).filterMap Choice.solution? := by
      rw [h.solution]
      exact List.mem_singleton_self path
    obtain ⟨c, hc, hpath⟩ := List.mem_filterMap.1 hmem
    obtain ⟨p, hp, hchoice⟩ := List.mem_filterMap.1 hc
    have hbare := h.bare p hp
    cases p with
    | word s => cases hchoice
    | choice c' =>
      cases hchoice
      cases c <;> cases hpath
      exact congrArg some (ofWord_bare (hbare path (List.mem_singleton_self path)))

/-- What is asked for is what a command line is understood as. -/
theorem Asks.parse_eq (h : Asks parts f parameters solution mappings) :
    ∃ a, parse (commandLine parts) = .ok a ∧ a.serve = false ∧ a.format = some f ∧
      a.output = .missing ∧ a.parameters = parameters.map parameterWord ∧
      a.request? = some (askedRequest solution mappings) := by
  have hformats : ∀ c ∈ choices parts, ∀ g ∈ c.format?, g = f := by
    intro c hc g hg
    have hmem : g ∈ (choices parts).filterMap Choice.format? := List.mem_filterMap.2 ⟨c, hc, hg⟩
    rw [h.format] at hmem
    exact List.mem_singleton.1 hmem
  have hsolution := chooseAll_solution {} (choices parts)
  have hmappings := chooseAll_mappings {} (choices parts)
  have hlast : solution.toList.getLast? = solution := by cases solution <;> rfl
  rw [h.solution, hlast, ofWord_solution h] at hsolution
  rw [h.mappings, List.nil_append] at hmappings
  refine ⟨_, parse_commandLine h.bare hformats, chooseAll_serve _ _, ?_, ?_, h.words, ?_⟩
  · exact (chooseAll_format _ _).trans (by rw [h.format]; rfl)
  · exact (chooseAll_output _ _).trans (by rw [h.printed]; rfl)
  · simp only [Arguments.request?, hsolution, hmappings]
    cases solution <;> rfl

theorem Asks.commandLine_ne_nil (h : Asks parts f parameters solution mappings) :
    commandLine parts ≠ [] := by
  intro hnil
  have hmem : f ∈ (choices parts).filterMap Choice.format? := by
    rw [h.format]
    exact List.mem_singleton_self f
  obtain ⟨c, hc, -⟩ := List.mem_filterMap.1 hmem
  obtain ⟨p, hp, hchoice⟩ := List.mem_filterMap.1 hc
  have hwords := List.flatMap_eq_nil_iff.1 hnil p hp
  cases p <;> cases hwords

/-- A command line that asks for a conversion prints its script, or why there is none. -/
theorem Asks.run_eq (h : Asks parts f parameters solution mappings) {value : ParameterValue}
    (hbase : (askedParameters parameters).given? Parameters.baseDirectory = some value) (d : Disk) :
    run d (commandLine parts) =
      (d, match render d f.name (askedParameters parameters) (askedRequest solution mappings) with
        | .ok out => .printed { code := 0, out := out.script }
        | .error e => failed .missing "" e) := by
  obtain ⟨a, hparse, hserve, hformat, houtput, hparameters, hrequest⟩ := h.parse_eq
  have hread : readParameters a.parameters = .ok (askedParameters parameters) := by
    rw [hparameters, readParameters_parameterWord h.names, askedParameters]
  have htarget : a.target? = none := by rw [Arguments.target?, houtput]
  rw [run_eq_runArguments h.commandLine_ne_nil hparse, runArguments_eq_deliver hserve hformat hread
    (Format.require_eq_ok hbase f) hrequest, deliver, htarget, houtput]
  cases hrender : render d f.name (askedParameters parameters) (askedRequest solution mappings) with
  | error e =>
    rw [convertInto_of_stageFails (render_eq_error.1 hrender)]
    rfl
  | ok out =>
    rw [convertInto_buffer hrender]
    simp

/-- The front ends agree. Where a script can be rendered, the command line prints it and ends with
0, the tool gives it back, and names the projects in the order that the build order has. A fault of
the tool is printed after the name of the program, and ends the command line with 1; the conversion
of the tool fails as the rendering does. Nothing changes on the disk. -/
theorem frontEnds_agree (d : Disk) {base : String}
    (h : Asks parts f parameters solution mappings)
    (hget : (askedParameters parameters).get? Parameters.baseDirectory = some (.text base))
    (hbase : base ≠ "") :
    (∀ out, render d f.name (askedParameters parameters) (askedRequest solution mappings) =
        .ok out →
      run d (commandLine parts) = (d, .printed { code := 0, out := out.script }) ∧
      Server.runConversion d
          ⟨f.name, askedParameters parameters, askedRequest solution mappings, ""⟩ =
        (d, .ok ⟨f.name, out.order.names, .script out.script⟩) ∧
      ∃ report, Server.buildOrder d (askedRequest solution mappings) = .ok report ∧
        report.projects.map (·.name) = out.order.names) ∧
    (∀ fault, render d f.name (askedParameters parameters) (askedRequest solution mappings) =
        .error (.tool fault) →
      run d (commandLine parts) =
        (d, .printed { code := 1, out := "", err := "slingshot: error: " ++ fault.text ++ "\n" })) ∧
    (∀ e, render d f.name (askedParameters parameters) (askedRequest solution mappings) =
        .error e →
      Server.runConversion d
          ⟨f.name, askedParameters parameters, askedRequest solution mappings, ""⟩ =
        (d, .error e)) ∧
    ((∃ d' p, run d (commandLine parts) = (d', .printed p) ∧ p.code = 0) ↔
      ∃ out, render d f.name (askedParameters parameters) (askedRequest solution mappings) =
        .ok out) := by
  have hgiven := given?_of_get? hget hbase
  have hrun := h.run_eq hgiven d
  have htool : Server.runConversion d
      ⟨f.name, askedParameters parameters, askedRequest solution mappings, ""⟩ = _ :=
    runConversion_of_render hgiven
  refine ⟨fun out hrender => ⟨?_, ?_, ?_⟩, fun fault hrender => ?_, fun e hrender => ?_, ?_, ?_⟩
  · rw [hrun, hrender]
  · rw [htool, hrender]
    rfl
  · obtain ⟨s, f', hs, -, -, horder⟩ := render_eq_ok.1 hrender
    rw [horder]
    exact exists_buildOrder hs
  · rw [hrun, hrender]
    rfl
  · rw [htool, hrender]
    rfl
  · rintro ⟨d', p, hprinted, hcode⟩
    cases hrender :
      render d f.name (askedParameters parameters) (askedRequest solution mappings) with
    | ok out => exact ⟨out, rfl⟩
    | error e =>
      rw [hrun, hrender, Prod.mk.injEq] at hprinted
      have hfailed := code_failed hprinted.2
      omega
  · rintro ⟨out, hrender⟩
    exact ⟨d, _, by rw [hrun, hrender], rfl⟩

end Asked

/-! ## A command line with words on both sides -/

/-- Words before, between and after options. -/
def mixedParts (solution : String) : List Part :=
  [.word "csc=mcs", .choice (.solution solution), .word "build.basedir=bin",
    .choice (.format .nmake), .word "csc=csc -w"]

theorem asks_mixedParts {solution : String} (h : IsBare solution) :
    Asks (mixedParts solution) .nmake [("csc", "mcs"), ("build.basedir", "bin"), ("csc", "csc -w")]
      (some solution) [] where
  bare := by
    refine List.forall_mem_cons.2 ⟨by decide, List.forall_mem_cons.2 ⟨?_, by decide⟩⟩
    exact List.forall_mem_singleton.2 h
  format := rfl
  solution := rfl
  mappings := rfl
  printed := rfl
  words := rfl
  names := by decide

theorem render_loop (m : Parameters) :
    render pairDisk Format.nmake.name m { solution := some ⟨.relative, ["Loop.sln"]⟩ } =
      .error (.tool (.cyclicDependency ["App", "Core"])) := by
  obtain ⟨a, c, hload⟩ := load_loop
  have hordered :=
    @loadOrdered_of_load pairDisk { solution := some ⟨.relative, ["Loop.sln"]⟩ } _ _ _ rfl rfl hload
  rw [Solution.mapPaths_nil, ofProjects_loop] at hordered
  rw [render, hordered]
  rfl

/-- Of two solutions with the same projects, one can be converted, and the other has a cycle. -/
theorem frontEnds_agree_pair :
    commandLine (mixedParts "Chain.sln") =
      ["csc=mcs", "-sln", "Chain.sln", "build.basedir=bin", "-nmake", "csc=csc -w"] ∧
    (∃ script, run pairDisk (commandLine (mixedParts "Chain.sln")) =
        (pairDisk, .printed { code := 0, out := script }) ∧
      Server.runConversion pairDisk ⟨Format.nmake.name,
          [("csc", .text "csc -w"), ("build.basedir", .text "bin")], chainRequest, ""⟩ =
        (pairDisk, .ok ⟨Format.nmake.name, ["Core", "App"], .script script⟩)) ∧
    run pairDisk (commandLine (mixedParts "Loop.sln")) =
      (pairDisk, .printed { code := 1, out := "", err := "slingshot: error: " ++
        "cyclic project dependency: App -> Core -> App" ++ "\n" }) := by
  have hchain : askedRequest (some "Chain.sln") [] = chainRequest := by
    have hpath : HostPath.parse "Chain.sln" = ⟨.relative, ["Chain.sln"]⟩ := by decide
    rw [askedRequest, Option.map_some, hpath]
    rfl
  have hloop : askedRequest (some "Loop.sln") [] =
      { solution := some ⟨.relative, ["Loop.sln"]⟩ } := by
    have hpath : HostPath.parse "Loop.sln" = ⟨.relative, ["Loop.sln"]⟩ := by decide
    rw [askedRequest, Option.map_some, hpath]
    rfl
  have htext : (ToolFault.cyclicDependency ["App", "Core"]).text =
      "cyclic project dependency: App -> Core -> App" := by decide
  have hparameters : askedParameters [("csc", "mcs"), ("build.basedir", "bin"), ("csc", "csc -w")] =
      [("csc", .text "csc -w"), ("build.basedir", .text "bin")] := by decide
  have hbase : (askedParameters [("csc", "mcs"), ("build.basedir", "bin"), ("csc", "csc -w")]).get?
      Parameters.baseDirectory = some (.text "bin") := by
    decide
  have hasksChain := @asks_mixedParts "Chain.sln" (by decide)
  have hasksLoop := @asks_mixedParts "Loop.sln" (by decide)
  obtain ⟨hprinted, -⟩ := frontEnds_agree pairDisk hasksChain hbase (by decide)
  obtain ⟨-, hfault, -⟩ := frontEnds_agree pairDisk hasksLoop hbase (by decide)
  rw [hparameters, hchain] at hprinted
  rw [hparameters, hloop] at hfault
  obtain ⟨out, hrender, hnames⟩ :=
    render_chain [("csc", .text "csc -w"), ("build.basedir", .text "bin")]
  obtain ⟨hrun, htool, -⟩ := hprinted out hrender
  rw [hnames] at htool
  refine ⟨rfl, ⟨out.script, hrun, htool⟩, ?_⟩
  rw [hfault _ (render_loop _), htext]

end SolutionScript
