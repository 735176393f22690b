import SolutionScript.Solution.Project

/-!
# Cycles

Finding projects that depend on each other in a circle. Projects are visited
in ascending order of name and index, first as starting points and then as
dependencies, so the cycle found does not depend on the order in which they
are declared. A project that has been left without finding a cycle is not
visited again.
-/

namespace SolutionScript

/-- Ascending order by name, and by index where names are equal. -/
def Project.le (p q : Project) : Bool :=
  if p.name = q.name then p.index ≤ q.index else Text.le p.name q.name

/-- The projects in ascending order. -/
def Project.sorted (projects : List Project) : List Project := projects.mergeSort Project.le

/-- The project that an identifier stands for: the last one that has it. -/
def Project.withId? (projects : List Project) (id : String) : Option Project :=
  projects.reverse.find? (·.id = id)

/-- The identifiers, each of them once. -/
def Project.ids (projects : List Project) : List String := (projects.map (·.id)).eraseDups

namespace Cycle

/-- A project on the path, and those of its dependencies that are still to be
looked at. -/
structure Visit where
  project : Project
  pending : List Project

/-- The number of projects on the path and of dependencies to be looked at. -/
def size : List Visit → Nat
  | [] => 0
  | v :: outer => v.pending.length + 1 + size outer

/-- The project that an identifier stands for, or the identifier if there is none. -/
def resolve (projects : List Project) (id : String) : Except String Project :=
  match Project.withId? projects id with
  | some q => .ok q
  | none => .error id

/-- The dependencies of a project in ascending order, or one that stands for no
project. -/
def dependencies (projects : List Project) (p : Project) : Except String (List Project) :=
  (p.dependencies.mapM (resolve projects)).map Project.sorted

/-- The part of the path from a project on, first project first. The path has
its last project first. -/
def closing (path : List Visit) (id : String) : List Project :=
  (path.reverse.map (·.project)).dropWhile (·.id != id)

/-- Walks on from a path. `unvisited` are the projects never reached so far. Gives
a cycle, or else the projects that are still not reached. -/
def search (projects : List Project) (unvisited : List String) (path : List Visit) :
    Except String (List Project ⊕ List String) :=
  match path with
  | [] => .ok (.inr unvisited)
  | ⟨_, []⟩ :: outer => search projects unvisited outer
  | ⟨p, child :: pending⟩ :: outer =>
    if path.any (·.project.id = child.id) then .ok (.inl (closing path child.id))
    else if _h : child.id ∈ unvisited then
      match dependencies projects child with
      | .error id => .error id
      | .ok next =>
        search projects (unvisited.erase child.id) (⟨child, next⟩ :: ⟨p, pending⟩ :: outer)
    else search projects unvisited (⟨p, pending⟩ :: outer)
termination_by (unvisited.length, size path)
decreasing_by
  · apply Prod.Lex.right
    simp [size]
  · apply Prod.Lex.left
    rw [List.length_erase_of_mem _h]
    have := List.length_pos_of_mem _h
    omega
  · apply Prod.Lex.right
    simp [size]

/-- The first cycle found from one of the starting points. -/
def searchFrom (projects : List Project) (unvisited : List String) :
    List Project → Except String (Option (List Project))
  | [] => .ok none
  | root :: rest =>
    if root.id ∈ unvisited then
      match dependencies projects root with
      | .error id => .error id
      | .ok next =>
        match search projects (unvisited.erase root.id) [⟨root, next⟩] with
        | .error id => .error id
        | .ok (.inl cycle) => .ok (some cycle)
        | .ok (.inr unvisited) => searchFrom projects unvisited rest
    else searchFrom projects unvisited rest

/-- A cycle among projects, if there is one: each of its projects depends on the
next, and the last on the first. The failure is a dependency that stands for no
project. -/
def find? (projects : List Project) : Except String (Option (List Project)) :=
  searchFrom projects (Project.ids projects) (Project.sorted projects)

end Cycle

end SolutionScript
