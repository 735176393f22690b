import SolutionScript.Proofs.Graph.Recast
import SolutionScript.Solution.Mapping

/-!
# Solutions with mapped paths

Mapping the paths of a solution changes two paths of each project and nothing else, and the number
that it comes with is that of the paths that are other than before (`changedPaths_eq`). Ordering
projects does not look at paths, so the projects come in the same order as before, or ordering fails
in the same way (`mapPaths_frame`).
-/

namespace SolutionScript

/-- The paths of projects before and after a change: a pair for each project and each of its
paths. -/
def pathsBeside (ps qs : List Project) : List (String × String) :=
  (ps.zip qs).flatMap fun (p, q) => [(p.path, q.path), (p.outputPath, q.outputPath)]

namespace Project

variable (mappings : List PathMapping)

theorem changedPaths_eq (p : Project) : p.changedPaths mappings =
    [(p.path, (p.mapPaths mappings).path), (p.outputPath, (p.mapPaths mappings).outputPath)].countP
      fun x => x.2 ≠ x.1 := by
  simp only [changedPaths, mapPaths, List.countP_cons, List.countP_nil]
  split <;> split <;> simp_all

/-- Mapping paths keeps what projects are ordered by. -/
theorem recast_mapPaths : Recast (mapPaths mappings) :=
  ⟨fun _ => rfl, fun _ => rfl, fun _ => rfl, fun _ => .refl _⟩

end Project

/-- Projects with mapped paths are ordered as before. -/
theorem BuildOrder.ofProjects_mapPaths (mappings : List PathMapping) (ps : List Project) :
    ofProjects (ps.map (·.mapPaths mappings)) =
      (ofProjects ps).map fun o => ⟨o.projects.map (·.mapPaths mappings)⟩ :=
  (Project.recast_mapPaths mappings).ofProjects_map fun _ p _ =>
    (Project.recast_mapPaths mappings).cycleDependencies_map (fun _ => rfl) p

namespace Solution

variable (mappings : List PathMapping)

/-- The number that mapping comes with is that of the paths that are other than before. -/
theorem changedPaths_eq (s : Solution) : s.changedPaths mappings =
    (pathsBeside s.projects (s.mapPaths mappings).projects).countP fun x => x.2 ≠ x.1 := by
  have hfold (ps : List Project) (n : ℕ) :
      ps.foldl (fun n p => n + p.changedPaths mappings) n =
        n + (pathsBeside ps (ps.map (·.mapPaths mappings))).countP fun x => x.2 ≠ x.1 := by
    induction ps generalizing n with
    | nil => rfl
    | cons p ps ih =>
      rw [List.foldl_cons, ih, p.changedPaths_eq, pathsBeside, pathsBeside, List.map_cons,
        List.zip_cons_cons, List.flatMap_cons, List.countP_append, Nat.add_assoc]
  exact (hfold s.projects 0).trans (Nat.zero_add _)

/-- Mapping exchanges the two paths of each project by what the rules make of them, and leaves the
rest of the project and of the solution. It comes with the number of paths that are other than
before. Ordering gives the same names in the same order as before, or the same failure. -/
theorem mapPaths_frame (s : Solution) :
    (s.mapPaths mappings).path = s.path ∧
    (s.mapPaths mappings).formatVersion = s.formatVersion ∧
    List.Forall₂ (fun p q : Project => q.path = mapPath mappings p.path ∧
        q.outputPath = mapPath mappings p.outputPath ∧
        { q with path := p.path, outputPath := p.outputPath } = p)
      s.projects (s.mapPaths mappings).projects ∧
    s.changedPaths mappings =
      (pathsBeside s.projects (s.mapPaths mappings).projects).countP (fun x => x.2 ≠ x.1) ∧
    (BuildOrder.ofProjects (s.mapPaths mappings).projects).map BuildOrder.names =
      (BuildOrder.ofProjects s.projects).map BuildOrder.names := by
  refine ⟨rfl, rfl, ?_, s.changedPaths_eq mappings, ?_⟩
  · rw [mapPaths, List.forall₂_map_right_iff, List.forall₂_same]
    exact fun p _ => ⟨rfl, rfl, rfl⟩
  · have hnames (o : BuildOrder) :
        BuildOrder.names ⟨o.projects.map (·.mapPaths mappings)⟩ = o.names := by
      rw [BuildOrder.names, BuildOrder.names, List.map_map]
      rfl
    rw [mapPaths, BuildOrder.ofProjects_mapPaths]
    cases BuildOrder.ofProjects s.projects with
    | error e => rfl
    | ok o => exact congrArg Except.ok (hnames o)

end Solution

end SolutionScript
