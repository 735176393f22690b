import SolutionScript.Solution.Project
import SolutionScript.Text.Letter

/-!
# Prefix mappings

Rules that exchange the start of a path, for projects that a solution declares
by URL. The first rule that matches counts (`mapPath_append`); a path that no
rule matches stays as it is. When the new start has backslashes only, the rest
of the path gets backslashes too.
-/

namespace SolutionScript

/-- One rule: the start of a path, and what it is exchanged for. -/
structure PathMapping where
  source : String
  target : String
  deriving DecidableEq, Repr

namespace PathMapping

/-- Whether a path starts as the rule demands. -/
def fits (m : PathMapping) (path : String) : Bool := Text.startsWith m.source path

/-- Whether the new start separates its names with backslashes only. -/
def usesBackslash (m : PathMapping) : Bool :=
  m.target.toList.contains '\\' && !m.target.toList.contains '/'

/-- The path with its start exchanged. -/
def exchange (m : PathMapping) (path : String) : String :=
  let rest := Text.dropChars m.source.length path
  m.target ++ if m.usesBackslash then Text.replace '/' '\\' rest else rest

/-- The rules that pairs stand for, or the first list that is no pair. -/
def ofPairs : List (List String) → Except (List String) (List PathMapping)
  | [] => .ok []
  | [source, target] :: rest => (ofPairs rest).map (⟨source, target⟩ :: ·)
  | other :: _ => .error other

end PathMapping

/-- The path that the first matching rule makes of a path. -/
def mapPath (mappings : List PathMapping) (path : String) : String :=
  match mappings.find? (·.fits path) with
  | some m => m.exchange path
  | none => path

theorem mapPath_append (xs ys : List PathMapping) (path : String) :
    mapPath (xs ++ ys) path =
      if xs.any (·.fits path) then mapPath xs path else mapPath ys path := by
  unfold mapPath
  rw [List.find?_append]
  cases h : xs.find? (·.fits path) with
  | some m =>
    have : xs.any (·.fits path) = true :=
      List.any_eq_true.2 ⟨m, List.mem_of_find?_eq_some h, by
        simpa using List.find?_some (p := fun m : PathMapping => m.fits path) h⟩
    simp [this]
  | none =>
    have : xs.any (·.fits path) = false := by
      rw [List.any_eq_false]
      intro m hm
      simpa using List.find?_eq_none.1 h m hm
    simp [this]

/-- Whether a location is a URL. -/
def isRemote (path : String) : Bool :=
  match Text.splitAtWord [':', '/', '/'] path.toList with
  | some (scheme, _) => scheme.length > 1 && scheme.all Text.isLetter
  | none => false

/-- The project with its paths mapped. -/
def Project.mapPaths (mappings : List PathMapping) (p : Project) : Project :=
  { p with path := mapPath mappings p.path, outputPath := mapPath mappings p.outputPath }

/-- The number of paths of a project that mapping changes. -/
def Project.changedPaths (mappings : List PathMapping) (p : Project) : Nat :=
  (if mapPath mappings p.path = p.path then 0 else 1) +
    if mapPath mappings p.outputPath = p.outputPath then 0 else 1

/-- The solution with the paths of its projects mapped. -/
def Solution.mapPaths (mappings : List PathMapping) (s : Solution) : Solution :=
  { s with projects := s.projects.map (·.mapPaths mappings) }

/-- The number of paths in a solution that mapping changes. -/
def Solution.changedPaths (mappings : List PathMapping) (s : Solution) : Nat :=
  s.projects.foldl (fun n p => n + p.changedPaths mappings) 0

end SolutionScript
