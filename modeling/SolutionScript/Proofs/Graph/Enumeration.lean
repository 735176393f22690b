import SolutionScript.Proofs.Graph.Recast
import SolutionScript.Proofs.TwoRuns

/-!
# Orders of enumeration

The dependencies of a project are a set, and can be gone through in any order (`Enumeration`). Where
identifiers and indices differ from project to project, ordering projects gives the same order
and the same failures, whatever the order of enumeration is (`ofProjects_map`). The projects that
one of them needs come in the same order, too (`dependencies_map`).
-/

namespace SolutionScript

open Fallible

/-- The order in which the dependencies of each project are gone through. -/
structure Enumeration where
  list : Project → List String
  perm : ∀ p, (list p).Perm p.dependencies

namespace Enumeration

/-- Dependencies are gone through in the order in which they were added. -/
def declared : Enumeration := ⟨Project.dependencies, fun _ => .refl _⟩

variable (e : Enumeration)

/-- The project with its dependencies in this order. -/
def apply (p : Project) : Project :=
  { p with
    dependencies := e.list p
    dependencies_nodup := (e.perm p).nodup_iff.2 p.dependencies_nodup }

theorem declared_map (ps : List Project) : ps.map declared.apply = ps := List.map_id' ps

/-- Going through dependencies in another order keeps what projects are ordered by. -/
theorem recast : Recast e.apply := ⟨fun _ => rfl, fun _ => rfl, fun _ => rfl, e.perm⟩

variable {ps : List Project}

/-- The dependencies that the search goes through are sorted, so they come in one order only. -/
theorem cycleDependencies_map (hid : (ps.map (·.id)).Nodup) (hindex : (ps.map (·.index)).Nodup)
    (hres : Resolved ps) {p : Project} (hp : p ∈ ps) :
    Cycle.dependencies (ps.map e.apply) (e.apply p) =
      (Cycle.dependencies ps p).map (List.map e.apply) := by
  obtain ⟨found, hfound⟩ := exists_mapM_eq_ok fun id hdep =>
    (hres p hp id hdep).imp fun q hq => (Cycle.resolve_eq_ok hid).2 hq
  obtain ⟨found', hfound', hperm⟩ := mapM_eq_ok_of_perm (e.perm p).symm hfound
  have hsorted : Project.sorted found = Project.sorted found' := by
    refine mergeSort_eq_of_perm Project.sortKey (fun _ _ => Project.le_iff) hperm ?_
    intro a ha b hb hkey
    have hmem {q : Project} (hq : q ∈ found) : q ∈ ps := by
      obtain ⟨id, -, hid'⟩ := (mem_iff_of_mapM_eq_ok hfound).1 hq
      exact ((Cycle.resolve_eq_ok hid).1 hid').1
    exact List.inj_on_of_nodup_map hindex (hmem ha) (hmem hb) (Project.sortKey_eq_iff.1 hkey).2
  have hlist : (e.apply p).dependencies = e.list p := rfl
  rw [Cycle.dependencies, Cycle.dependencies, hfound, hlist,
    funext (e.recast.resolve_map ps), mapM_map_right, hfound']
  exact congrArg Except.ok ((e.recast.sorted_map found').trans (congrArg _ hsorted.symm))

/-! ## Build orders -/

/-- The order, with the dependencies of its projects in this order. -/
def applyOrder (o : BuildOrder) : BuildOrder := ⟨o.projects.map e.apply⟩

/-- Ordering projects does not depend on the enumeration. -/
theorem ofProjects_map (hid : (ps.map (·.id)).Nodup) (hindex : (ps.map (·.index)).Nodup) :
    BuildOrder.ofProjects (ps.map e.apply) = (BuildOrder.ofProjects ps).map e.applyOrder :=
  e.recast.ofProjects_map fun hunresolved _ hp =>
    e.cycleDependencies_map hid hindex (BuildOrder.unresolved?_eq_none.1 hunresolved) hp

theorem find_map (o : BuildOrder) (id : String) :
    (e.applyOrder o).find id = (o.find id).map e.apply := by
  have hproject : (e.applyOrder o).project? id = (o.project? id).map e.apply := by
    rw [BuildOrder.project?, BuildOrder.project?, applyOrder, List.find?_map]
    rfl
  rw [BuildOrder.find, BuildOrder.find, hproject]
  cases o.project? id <;> rfl

/-- The projects that one needs are sorted, so they come in one order only. -/
theorem dependencies_map {o : BuildOrder} (hindex : (o.projects.map (·.index)).Nodup)
    {p : Project} {needed : List Project} (h : o.dependencies p = .ok needed) :
    (e.applyOrder o).dependencies (e.apply p) = .ok (needed.map e.apply) := by
  have hmem {q : Project} (hq : q ∈ needed) : q ∈ o.projects :=
    (BuildOrder.needs_of_dependencies h).mem hq
  obtain ⟨found, hfound, rfl⟩ := map_eq_ok.1 h
  obtain ⟨found', hfound', hperm⟩ := mapM_eq_ok_of_perm (e.perm p).symm hfound
  have hsorted : (found.mergeSort fun p q => p.index ≤ q.index) =
      found'.mergeSort fun p q => p.index ≤ q.index :=
    mergeSort_eq_of_perm (·.index) (fun _ _ => decide_eq_true_iff) hperm fun a ha b hb hkey =>
      List.inj_on_of_nodup_map hindex (hmem (List.mem_mergeSort.2 ha))
        (hmem (List.mem_mergeSort.2 hb)) hkey
  have hlist : (e.apply p).dependencies = e.list p := rfl
  have hmapped : (found'.map e.apply).mergeSort (fun p q => p.index ≤ q.index) =
      (found'.mergeSort fun p q => p.index ≤ q.index).map e.apply :=
    (List.map_mergeSort (f := e.apply) fun _ _ _ _ => rfl).symm
  rw [BuildOrder.dependencies, hlist, funext (e.find_map o), mapM_map_right, hfound', hsorted,
    ← hmapped]
  rfl

end Enumeration

end SolutionScript
