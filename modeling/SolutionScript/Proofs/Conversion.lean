import SolutionScript.Proofs.Script.NMake
import SolutionScript.Proofs.Solution.LoadedOrder

/-!
# All or nothing

A conversion fails in one of its stages (`StageFails`), or its script is complete
before the sink sees any of it (`render_eq_ok`, `render_eq_error`). So a sink is
given the whole script once, or nothing (`convertInto_cases`); what goes wrong
in the sink itself is a fault of the format.
-/

namespace SolutionScript

open FileSystem Fallible

variable {d : Disk} {format : String} {m : Parameters} {r : Request}

/-- A stage fails before the script is complete: all stages before it succeed. -/
inductive StageFails (d : Disk) (format : String) (m : Parameters) (r : Request) : Failure → Prop
  | mapping {items : List String} :
    PathMapping.ofPairs r.mappings = .error items → StageFails d format m r (.mappingPair items)
  | locating {mappings : List PathMapping} {e : Failure} :
    PathMapping.ofPairs r.mappings = .ok mappings →
    Solution.locate d r.solution r.folder = .error e → StageFails d format m r e
  | loading {mappings : List PathMapping} {file : HostPath} {e : Failure} :
    PathMapping.ofPairs r.mappings = .ok mappings →
    Solution.locate d r.solution r.folder = .ok file →
    Solution.load d file mappings = .error e → StageFails d format m r e
  | ordering {mappings : List PathMapping} {file : HostPath} {s : Solution} {e : Failure} :
    PathMapping.ofPairs r.mappings = .ok mappings →
    Solution.locate d r.solution r.folder = .ok file →
    Solution.load d file mappings = .ok s →
    BuildOrder.ofProjects (s.mapPaths mappings).projects = .error e → StageFails d format m r e
  | choosing {s : OrderedSolution} {fault : ToolFault} :
    loadOrdered d r = .ok s → Format.ofName format = .error fault →
    StageFails d format m r (.tool fault)
  | writing {s : OrderedSolution} {f : Format} {buffer : Sink} {e : Failure} :
    loadOrdered d r = .ok s → Format.ofName format = .ok f →
    f.write s.order m s.name {} = (buffer, .error e) →
    StageFails d format m r (emitFailure format e)

/-! ## Rendering -/

/-- A buffer takes a script once it is complete, or the script is at fault. -/
theorem Format.write_buffer (f : Format) (o : BuildOrder) (m : Parameters) (name : String) :
    f.write o m name {} = match f.script o m name with
      | .ok script => (Sink.append {} script, .ok ())
      | .error e => ({}, .error e) := by
  rw [Format.write]
  cases f.script o m name with
  | error e => rfl
  | ok script => exact Sink.emit_buffer f.name script

/-- What it takes to render a script. -/
theorem render_eq_ok {out : Rendered} :
    render d format m r = .ok out ↔
      ∃ s f, loadOrdered d r = .ok s ∧ Format.ofName format = .ok f ∧
        f.script s.order m s.name = .ok out.script ∧ out.order = s.order := by
  rw [render, bind_eq_ok]
  refine exists_congr fun s => ?_
  cases hf : Format.ofName format with
  | error fault => simp [throw, throwThe, MonadExceptOf.throw]
  | ok f =>
    simp only [Format.write_buffer]
    cases hscript : f.script s.order m s.name with
    | error e => simp [throw, throwThe, MonadExceptOf.throw, hscript]
    | ok script =>
      obtain ⟨text, order⟩ := out
      simp [pure, Except.pure, hscript, eq_comm]

/-- What it takes to load a solution and to order its projects. -/
theorem loadOrdered_eq_ok {s : OrderedSolution} (h : loadOrdered d r = .ok s) :
    ∃ mappings file solution, PathMapping.ofPairs r.mappings = .ok mappings ∧
      Solution.locate d r.solution r.folder = .ok file ∧
      Solution.load d file mappings = .ok solution ∧
      BuildOrder.ofProjects (solution.mapPaths mappings).projects = .ok s.order := by
  cases hmappings : PathMapping.ofPairs r.mappings with
  | error items => simp [loadOrdered, hmappings, throw, throwThe, MonadExceptOf.throw] at h
  | ok mappings =>
    simp only [loadOrdered, hmappings] at h
    obtain ⟨file, hfile, h⟩ := bind_eq_ok.1 h
    obtain ⟨solution, hload, h⟩ := bind_eq_ok.1 h
    obtain ⟨order, horder, h⟩ := bind_eq_ok.1 h
    simp only [pure, Except.pure, Except.ok.injEq] at h
    subst h
    exact ⟨mappings, file, solution, rfl, hfile, hload, horder⟩

/-- The dependencies of ordered projects are among them. -/
theorem exists_dependencies_of_loadOrdered {s : OrderedSolution} (h : loadOrdered d r = .ok s) :
    ∀ p ∈ s.order.projects, ∃ needed, s.order.dependencies p = .ok needed := by
  obtain ⟨mappings, file, solution, -, -, hload, horder⟩ := loadOrdered_eq_ok h
  have hid := (Solution.wellNumbered_of_load hload).1.ids
  rw [← Solution.map_id_mapPaths mappings] at hid
  exact fun p hp => BuildOrder.exists_dependencies hid horder hp

theorem loadOrdered_of_load_eq_error {mappings : List PathMapping} {file : HostPath} {e : Failure}
    (hmappings : PathMapping.ofPairs r.mappings = .ok mappings)
    (hfile : Solution.locate d r.solution r.folder = .ok file)
    (hload : Solution.load d file mappings = .error e) : loadOrdered d r = .error e := by
  simp only [loadOrdered, hmappings, bind, Except.bind, hfile, hload]

theorem loadOrdered_eq_error (format : String) (m : Parameters) {e : Failure}
    (h : loadOrdered d r = .error e) :
    StageFails d format m r e := by
  cases hmappings : PathMapping.ofPairs r.mappings with
  | error items =>
    have herror : loadOrdered d r = .error (.mappingPair items) := by
      rw [loadOrdered, hmappings]
      rfl
    cases herror.symm.trans h
    exact .mapping hmappings
  | ok mappings =>
    cases hfile : Solution.locate d r.solution r.folder with
    | error e' =>
      simp only [loadOrdered, hmappings, bind, Except.bind, hfile] at h
      cases h
      exact .locating hmappings hfile
    | ok file =>
      cases hload : Solution.load d file mappings with
      | error e' =>
        rw [loadOrdered_of_load_eq_error hmappings hfile hload] at h
        cases h
        exact .loading hmappings hfile hload
      | ok s =>
        rw [loadOrdered_of_load hmappings hfile hload] at h
        exact .ordering hmappings hfile hload (map_eq_error h)

/-- Rendering fails if and only if one of its stages does, with the same failure. -/
theorem render_eq_error {e : Failure} :
    render d format m r = .error e ↔ StageFails d format m r e := by
  constructor
  · intro h
    cases hs : loadOrdered d r with
    | error e' =>
      rw [render, hs] at h
      cases h
      exact loadOrdered_eq_error format m hs
    | ok s =>
      cases hf : Format.ofName format with
      | error fault =>
        simp only [render, hs, bind, Except.bind, hf] at h
        cases h
        exact .choosing hs hf
      | ok f =>
        cases hwrite : f.write s.order m s.name {} with
        | mk buffer result =>
          simp only [render, hs, bind, Except.bind, hf, hwrite] at h
          cases result with
          | ok => cases h
          | error e' =>
            cases h
            exact .writing hs hf hwrite
  · intro h
    cases h with
    | mapping hmappings =>
      simp only [render, loadOrdered, hmappings]
      rfl
    | locating hmappings hfile =>
      simp only [render, loadOrdered, hmappings, bind, Except.bind, hfile]
    | loading hmappings hfile hload =>
      simp only [render, loadOrdered_of_load_eq_error hmappings hfile hload, bind, Except.bind]
    | ordering hmappings hfile hload horder =>
      simp only [render, loadOrdered_of_load hmappings hfile hload, horder]
      rfl
    | choosing hs hf =>
      simp only [render, hs, bind, Except.bind, hf]
      rfl
    | writing hs hf hwrite =>
      simp only [render, hs, bind, Except.bind, hf, hwrite]
      rfl

/-! ## Conversions -/

variable {sink : Sink} {out : Rendered}

theorem convertInto_of_stageFails {e : Failure} (h : StageFails d format m r e) (sink : Sink) :
    convertInto d format m r sink = (sink, .error e) := by
  simp only [convertInto, render_eq_error.2 h]

theorem convertInto_of_none (hrender : render d format m r = .ok out)
    (h : sink.fault? out.script = none) :
    convertInto d format m r sink = (sink.append out.script, .ok out.order) := by
  simp only [convertInto, hrender, Sink.emit_of_none h]

theorem convertInto_buffer (hrender : render d format m r = .ok out) :
    convertInto d format m r {} = (Sink.append {} out.script, .ok out.order) :=
  convertInto_of_none hrender rfl

theorem convertInto_of_some {cause : EmitCause} (hrender : render d format m r = .ok out)
    (h : sink.fault? out.script = some cause) :
    ∃ sink', convertInto d format m r sink = (sink', .error (.tool (.emit format cause))) := by
  obtain ⟨sink', hemit⟩ := Sink.emit_of_some format h
  exact ⟨sink', by simp only [convertInto, hrender, hemit]⟩

/-- A buffer gets the whole script. -/
theorem convert_buffer (d : Disk) (format : String) (m : Parameters) (r : Request) :
    convert d format m r {} =
      (render d format m r).map fun out => (out.order, Sink.append {} out.script) := by
  cases hrender : render d format m r with
  | error e =>
    rw [convert, convertInto_of_stageFails (render_eq_error.1 hrender) {}]
    rfl
  | ok out =>
    rw [convert, convertInto_buffer hrender]
    rfl

/-- The three ends of a conversion. -/
theorem convertInto_cases (d : Disk) (format : String) (m : Parameters) (r : Request)
    (sink : Sink) :
    (∃ e, StageFails d format m r e ∧ convertInto d format m r sink = (sink, .error e)) ∨
    ∃ out, render d format m r = .ok out ∧
      ((∃ cause sink', sink.fault? out.script = some cause ∧
          convertInto d format m r sink = (sink', .error (.tool (.emit format cause)))) ∨
        convertInto d format m r sink = (sink.append out.script, .ok out.order)) := by
  cases hrender : render d format m r with
  | error e =>
    have hstage := render_eq_error.1 hrender
    exact .inl ⟨e, hstage, convertInto_of_stageFails hstage sink⟩
  | ok out =>
    right
    cases hfault : sink.fault? out.script with
    | none => exact ⟨out, rfl, .inr (convertInto_of_none hrender hfault)⟩
    | some cause =>
      obtain ⟨sink', hconvert⟩ := convertInto_of_some hrender hfault
      exact ⟨out, rfl, .inl ⟨cause, sink', hfault, hconvert⟩⟩

/-- Where a stage fails, the sink is as it was. A conversion that returns has given the sink one
text more, the rendered script, and its order is that of the loaded projects. Once the script is
rendered, a failure of the sink is a fault of the format, and no other failure is left. -/
theorem convertInto_all_or_nothing (d : Disk) (format : String) (m : Parameters) (r : Request)
    (sink : Sink) :
    (∀ e, StageFails d format m r e → convertInto d format m r sink = (sink, .error e)) ∧
    (∀ sink' order, convertInto d format m r sink = (sink', .ok order) →
      ∃ script name, render d format m r = .ok ⟨script, order⟩ ∧
        loadOrdered d r = .ok ⟨name, order⟩ ∧
        sink' = { sink with written := sink.written ++ [script] }) ∧
    (∀ out cause, render d format m r = .ok out → sink.fault? out.script = some cause →
      ∃ sink', convertInto d format m r sink = (sink', .error (.tool (.emit format cause)))) ∧
    ∀ sink' e, convertInto d format m r sink = (sink', .error e) →
      StageFails d format m r e ∨
        ∃ out cause, render d format m r = .ok out ∧ sink.fault? out.script = some cause ∧
          e = .tool (.emit format cause) := by
  have hcases := convertInto_cases d format m r sink
  refine ⟨fun e h => convertInto_of_stageFails h sink, fun sink' order h => ?_,
    fun out cause => convertInto_of_some, fun sink' e h => ?_⟩
  · rw [h] at hcases
    rcases hcases with ⟨e, -, hend⟩ | ⟨out, hrender, ⟨cause, sink'', -, hend⟩ | hend⟩
    · cases hend
    · cases hend
    · cases hend
      obtain ⟨s, f, hs, -, -, horder⟩ := render_eq_ok.1 hrender
      exact ⟨out.script, s.name, hrender, by rw [horder]; exact hs, rfl⟩
  · rw [h] at hcases
    rcases hcases with ⟨e', hstage, hend⟩ | ⟨out, hrender, ⟨cause, sink'', hfault, hend⟩ | hend⟩
    · cases hend
      exact .inl hstage
    · cases hend
      exact .inr ⟨out, cause, hrender, hfault, rfl⟩
    · cases hend

/-! ## A makefile for two projects -/

/-- The solution in which one project depends on the other. -/
def chainRequest : Request := { solution := some ⟨.relative, ["Chain.sln"]⟩ }

theorem loadOrdered_chain : ∃ o, loadOrdered pairDisk chainRequest = .ok ⟨"Chain", o⟩ ∧
    o.names = ["Core", "App"] := by
  obtain ⟨a, c, hload⟩ := load_chain
  have hname : Solution.name ⟨"Chain.sln", "8.00",
      [{ appProject with outputPath := a }.addDependency "{C}",
        { coreProject with outputPath := c }]⟩ = "Chain" := by
    simp only [Solution.name]
    decide
  have hordered := @loadOrdered_of_load pairDisk chainRequest _ _ _ rfl rfl hload
  rw [Solution.mapPaths_nil, ofProjects_chain, hname] at hordered
  exact ⟨_, hordered, rfl⟩

theorem render_chain (m : Parameters) :
    ∃ out, render pairDisk Format.nmake.name m chainRequest = .ok out ∧
      out.order.names = ["Core", "App"] := by
  obtain ⟨o, hs, hnames⟩ := loadOrdered_chain
  have hscript := (@NMake.script_eq_ok o m "Chain" _).2
    ⟨fun p hp => BuildOrder.dependencies_needed (exists_dependencies_of_loadOrdered hs p hp), rfl⟩
  exact ⟨⟨_, o⟩, render_eq_ok.2 ⟨_, .nmake, hs, rfl, hscript, rfl⟩, hnames⟩

/-- A format that is not known, a buffer and a closed sink. -/
theorem convertInto_all_or_nothing_chain :
    StageFails pairDisk "ant" [] chainRequest
      (.tool (.unsupportedFormat "ant" ["nant", Format.nmake.name])) ∧
    convertInto pairDisk "ant" [] chainRequest {} =
      ({}, .error (.tool (.unsupportedFormat "ant" ["nant", Format.nmake.name]))) ∧
    (∃ script order,
      convertInto pairDisk Format.nmake.name [] chainRequest {} =
        (⟨.buffer, [script]⟩, .ok order) ∧
      render pairDisk Format.nmake.name [] chainRequest = .ok ⟨script, order⟩ ∧
      loadOrdered pairDisk chainRequest = .ok ⟨"Chain", order⟩ ∧ order.names = ["Core", "App"]) ∧
    ∃ sink', convertInto pairDisk Format.nmake.name [] chainRequest { kind := .closed } =
      (sink', .error (.tool (.emit Format.nmake.name .closedSink))) := by
  obtain ⟨o, hs, hnames⟩ := loadOrdered_chain
  obtain ⟨out, hrender, -⟩ := render_chain []
  have hstage : StageFails pairDisk "ant" [] chainRequest
      (.tool (.unsupportedFormat "ant" ["nant", Format.nmake.name])) := .choosing hs (by decide)
  have hconvert := convertInto_buffer hrender
  obtain ⟨hant, -⟩ := convertInto_all_or_nothing pairDisk "ant" [] chainRequest {}
  obtain ⟨-, hwritten, -⟩ :=
    convertInto_all_or_nothing pairDisk Format.nmake.name [] chainRequest {}
  obtain ⟨-, -, hclosed, -⟩ :=
    convertInto_all_or_nothing pairDisk Format.nmake.name [] chainRequest { kind := .closed }
  obtain ⟨script, name, hscript, hordered, hsink⟩ := hwritten _ _ hconvert
  have horder : out.order = o := by
    rw [hs] at hordered
    cases hordered
    rfl
  refine ⟨hstage, hant _ hstage, ⟨script, o, ?_, ?_, hs, hnames⟩, hclosed _ _ hrender rfl⟩
  · rw [hconvert, hsink, horder]
    rfl
  · rw [hscript, horder]

end SolutionScript
