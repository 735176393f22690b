import SolutionScript.Script.Format
import SolutionScript.Script.Sink
import SolutionScript.Solution.Load
import SolutionScript.Solution.Locate

/-!
# Conversion

From a solution to a script: locate, load, map the paths, order the projects,
choose the format, write. The first failure ends it. The script is written to a
buffer, and is complete there before a sink gets to see any of it.
-/

namespace SolutionScript

open FileSystem

/-- What a conversion works on. -/
structure Request where
  /-- The solution file or its folder; by default the only one in the folder. -/
  solution : Option HostPath := none
  /-- Pairs of prefixes. -/
  mappings : List (List String) := []
  /-- The folder to search or to start from, by default the current one. -/
  folder : Option HostPath := none

/-- A solution whose projects are in build order. -/
structure OrderedSolution where
  name : String
  order : BuildOrder

/-- The solution that is asked for, with mapped paths and its projects in order. -/
def loadOrdered (d : Disk) (r : Request) : Except Failure OrderedSolution := do
  match PathMapping.ofPairs r.mappings with
  | .error items => throw (.mappingPair items)
  | .ok mappings =>
    let file ← Solution.locate d r.solution r.folder
    let solution ← Solution.load d file mappings
    let order ← BuildOrder.ofProjects (solution.mapPaths mappings).projects
    pure ⟨solution.name, order⟩

/-- What a failure of writing a script means. A fault that the tool words itself
stays as it is. -/
def emitFailure (format : String) : Failure → Failure
  | .tool fault => .tool fault
  | .encoding fault => .tool (.emit format (.encoding fault))
  | .notText shown typeName => .tool (.emit format (.notText shown typeName))
  | .unknownProject id => .tool (.emit format (.unknownProject id))
  | other => .tool (.emit format (.other other.text))

/-- A script, and the order of the projects in it. -/
structure Rendered where
  script : String
  order : BuildOrder

/-- The script for the solution that is asked for. -/
def render (d : Disk) (format : String) (m : Parameters) (r : Request) :
    Except Failure Rendered := do
  let s ← loadOrdered d r
  match Format.ofName format with
  | .error fault => throw (.tool fault)
  | .ok f =>
    match f.write s.order m s.name {} with
    | (buffer, .ok ()) => pure ⟨buffer.content, s.order⟩
    | (_, .error failure) => throw (emitFailure format failure)

/-- Writes the script for the solution that is asked for to a sink, which comes
back as the conversion leaves it. -/
def convertInto (d : Disk) (format : String) (m : Parameters) (r : Request) (sink : Sink) :
    Sink × Except Failure BuildOrder :=
  match render d format m r with
  | .error failure => (sink, .error failure)
  | .ok rendered =>
    match sink.emit format rendered.script with
    | (sink, .ok ()) => (sink, .ok rendered.order)
    | (sink, .error failure) => (sink, .error failure)

/-- The order of the projects and the sink after a conversion that succeeds. -/
def convert (d : Disk) (format : String) (m : Parameters) (r : Request) (sink : Sink) :
    Except Failure (BuildOrder × Sink) :=
  match convertInto d format m r sink with
  | (sink, .ok order) => .ok (order, sink)
  | (_, .error failure) => .error failure

end SolutionScript
