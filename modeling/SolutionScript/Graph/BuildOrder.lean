import SolutionScript.Failure
import SolutionScript.Graph.Cycle

/-!
# Build orders

Ordering projects so that each is built after all that it depends on. Among
the projects that can be built next, the least by name, index and identifier
is taken, so the order is the least of all possible ones. Projects that can
not be ordered are a fault: a dependency on an unknown project, or a cycle.
-/

namespace SolutionScript

/-- Projects in an order in which they can be built. -/
structure BuildOrder where
  projects : List Project
  deriving DecidableEq, Repr

namespace BuildOrder

/-- The project with an identifier. -/
def project? (o : BuildOrder) (id : String) : Option Project := o.projects.find? (·.id = id)

/-- The names in build order. -/
def names (o : BuildOrder) : List String := o.projects.map (·.name)

/-- The project with an identifier, which has to be one of them. -/
def find (o : BuildOrder) (id : String) : Except Failure Project :=
  match o.project? id with
  | some p => .ok p
  | none => .error (.unknownProject id)

/-- The projects that one depends on, in order of declaration. -/
def dependencies (o : BuildOrder) (p : Project) : Except Failure (List Project) :=
  (p.dependencies.mapM o.find).map fun found => found.mergeSort fun p q => p.index ≤ q.index

/-! ## Taking the least ready project -/

/-- Ascending order by name, index and identifier. -/
def readyLe (p q : Project) : Bool :=
  if p.name = q.name && p.index = q.index then Text.le p.id q.id else Project.le p q

/-- The least of some projects. -/
def least (first : Project) (rest : List Project) : Project :=
  rest.foldl (fun p q => if readyLe p q then p else q) first

/-- Where building stands. -/
structure Progress where
  /-- For each project the number of dependencies that are not built. -/
  waiting : Keyed Int
  /-- The projects that can be built next. -/
  ready : List Project
  /-- The projects built, the last one first. -/
  built : List Project := []

/-- Before anything is built. -/
def start (projects : List Project) : Progress :=
  let waiting := Keyed.ofList (projects.map fun p => (p.id, Int.ofNat p.dependencies.length))
  { waiting, ready := projects.filter fun p => waiting.get? p.id = some 0 }

/-- A dependency of a project has been built. -/
def release (s : Progress) (p : Project) : Progress :=
  let left := (s.waiting.get? p.id).getD 0 - 1
  { s with
    waiting := s.waiting.put p.id left
    ready := if left = 0 then s.ready ++ [p] else s.ready }

/-- Builds the least of the projects that can be built. -/
def buildNext (projects : List Project) (s : Progress) (first : Project) (rest : List Project) :
    Progress :=
  let next := least first rest
  let project := (Project.withId? projects next.id).getD next
  (projects.filter (next.id ∈ ·.dependencies)).foldl release
    { s with ready := s.ready.erase next, built := project :: s.built }

/-- Builds until nothing is ready, at most `limit` projects. -/
def buildAll (projects : List Project) : Nat → Progress → List Project
  | 0, s => s.built.reverse
  | limit + 1, s =>
    match s.ready with
    | [] => s.built.reverse
    | first :: rest => buildAll projects limit (buildNext projects s first rest)

/-- The projects in the least order that respects their dependencies. Every
project becomes ready at most twice: at the start, and by its last dependency. -/
def arrange (projects : List Project) : List Project :=
  buildAll projects (2 * projects.length) (start projects)

/-! ## Faults -/

/-- The first dependency on an unknown project, by ascending order of projects
and of identifiers. -/
def unresolved? (projects : List Project) : Option (Project × String) :=
  (Project.sorted projects).findSome? fun p =>
    (p.sortedDependencies.find? fun id => (Project.withId? projects id).isNone).map (p, ·)

/-- Orders projects. -/
def ofProjects (projects : List Project) : Except Failure BuildOrder :=
  match unresolved? projects with
  | some (p, id) => .error (.tool (.unresolvedDependency p.name id))
  | none =>
    match Cycle.find? projects with
    | .error id => .error (.unknownProject id)
    | .ok (some cycle) => .error (.tool (.cyclicDependency (cycle.map (·.name))))
    | .ok none => .ok ⟨arrange projects⟩

end BuildOrder

end SolutionScript
