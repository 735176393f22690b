import SolutionScript.Proofs.Graph.Outcome
import SolutionScript.Proofs.Solution.Faults
import SolutionScript.Proofs.Solution.Loading
import SolutionScript.Proofs.Solution.PlainFile

/-!
# The order of a loaded solution

A solution that is asked for is located, loaded and ordered
(`loadOrdered_cases`). Because no loaded project depends on itself, a cycle that
is reported has at least two projects; and because an order has all projects,
the dependencies of each of them are found in it (`loaded_wellNumbered`).
-/

namespace SolutionScript

open FileSystem Fallible

variable {d : Disk} {r : Request}

theorem Solution.map_id_mapPaths (mappings : List PathMapping) (s : Solution) :
    (s.mapPaths mappings).projects.map (·.id) = s.projects.map (·.id) :=
  List.map_map

theorem Solution.self_mapPaths {mappings : List PathMapping} {s : Solution}
    (h : ∀ p ∈ s.projects, p.id ∉ p.dependencies) :
    ∀ p ∈ (s.mapPaths mappings).projects, p.id ∉ p.dependencies := by
  intro p hp
  obtain ⟨q, hq, rfl⟩ := List.mem_map.1 hp
  exact h q hq

theorem Solution.mapPaths_nil (s : Solution) : s.mapPaths [] = s := by
  have hmap (p : Project) : p.mapPaths [] = p := rfl
  simp [Solution.mapPaths, hmap]

/-- Once a solution is loaded, all depends on how its projects can be ordered. -/
theorem loadOrdered_of_load {mappings : List PathMapping} {file : HostPath} {s : Solution}
    (hmappings : PathMapping.ofPairs r.mappings = .ok mappings)
    (hfile : Solution.locate d r.solution r.folder = .ok file)
    (hload : Solution.load d file mappings = .ok s) :
    loadOrdered d r = (BuildOrder.ofProjects (s.mapPaths mappings).projects).map (⟨s.name, ·⟩) := by
  rw [loadOrdered, hmappings]
  simp only [bind, Except.bind, hfile, hload]
  cases BuildOrder.ofProjects (s.mapPaths mappings).projects <;> rfl

/-- Either a mapping is no pair, or the files or the disk are at fault, or a
solution is loaded. -/
theorem loadOrdered_cases (d : Disk) (r : Request) :
    (∃ items, loadOrdered d r = .error (.mappingPair items)) ∨
    (∃ e, loadOrdered d r = .error e ∧ e.FromFiles) ∨
    ∃ mappings file s, Solution.load d file mappings = .ok s ∧
      loadOrdered d r =
        (BuildOrder.ofProjects (s.mapPaths mappings).projects).map (⟨s.name, ·⟩) := by
  cases hmappings : PathMapping.ofPairs r.mappings with
  | error items => exact .inl ⟨items, by rw [loadOrdered, hmappings]; rfl⟩
  | ok mappings =>
    right
    cases hfile : Solution.locate d r.solution r.folder with
    | error e =>
      refine .inl ⟨e, ?_, Solution.fromFiles_locate e hfile⟩
      simp only [loadOrdered, hmappings, bind, Except.bind, hfile]
    | ok file =>
      cases hload : Solution.load d file mappings with
      | error e =>
        refine .inl ⟨e, ?_, Solution.fromFiles_load e hload⟩
        simp only [loadOrdered, hmappings, bind, Except.bind, hfile, hload]
      | ok s => exact .inr ⟨mappings, file, s, hload, loadOrdered_of_load hmappings hfile hload⟩

/-- The projects of a solution are well numbered, and none depends on itself. So a
cycle that is reported has at least two names, and in an order the dependencies of
each project are found. -/
theorem loaded_wellNumbered (d : Disk) :
    (∀ file mappings s, Solution.load d file mappings = .ok s →
      Solution.WellNumbered s.projects ∧ ∀ p ∈ s.projects, p.id ∉ p.dependencies) ∧
    (∀ r names, loadOrdered d r = .error (.tool (.cyclicDependency names)) → 2 ≤ names.length) ∧
    (∀ r s, loadOrdered d r = .ok s →
      ∀ p ∈ s.order.projects, ∃ needed, s.order.dependencies p = .ok needed) := by
  refine ⟨fun _ _ _ h => Solution.wellNumbered_of_load h, fun r names h => ?_, fun r os h => ?_⟩
  · rcases loadOrdered_cases d r with
      ⟨items, herr⟩ | ⟨e, herr, hfiles⟩ | ⟨mappings, file, s, hload, hordered⟩
    · cases h.symm.trans herr
    · cases h.symm.trans herr
      exact absurd hfiles id
    · obtain ⟨hnumbered, hself⟩ := Solution.wellNumbered_of_load hload
      have hid := Solution.map_id_mapPaths mappings s ▸ hnumbered.ids
      obtain ⟨-, c, hc, rfl⟩ := BuildOrder.ofProjects_eq_cyclic hid (map_eq_error (hordered ▸ h))
      rw [List.length_map]
      exact hc.two_le_length (Solution.self_mapPaths hself)
  · rcases loadOrdered_cases d r with
      ⟨items, herr⟩ | ⟨e, herr, -⟩ | ⟨mappings, file, s, hload, hordered⟩
    · cases h.symm.trans herr
    · cases h.symm.trans herr
    · have hid := Solution.map_id_mapPaths mappings s ▸ (Solution.wellNumbered_of_load hload).1.ids
      obtain ⟨order, horder, rfl⟩ := map_eq_ok.1 (hordered ▸ h)
      exact fun p hp => BuildOrder.exists_dependencies hid horder hp

/-- Of two projects, one depends on the other in one solution, and each on the other
in the other solution. -/
theorem loaded_wellNumbered_pair :
    (∃ s, Solution.load pairDisk ⟨.relative, ["Chain.sln"]⟩ [] = .ok s ∧
      s.projects.map (·.name) = ["App", "Core"] ∧
      Solution.WellNumbered s.projects ∧ ∀ p ∈ s.projects, p.id ∉ p.dependencies) ∧
    (∃ names,
      loadOrdered pairDisk { solution := some ⟨.relative, ["Loop.sln"]⟩ } =
        .error (.tool (.cyclicDependency names)) ∧ 2 ≤ names.length) ∧
    (∃ s, loadOrdered pairDisk { solution := some ⟨.relative, ["Chain.sln"]⟩ } = .ok s ∧
      s.order.names = ["Core", "App"] ∧
      ∀ p ∈ s.order.projects, ∃ needed, s.order.dependencies p = .ok needed) := by
  obtain ⟨hloaded, hcycle, hordered⟩ := loaded_wellNumbered pairDisk
  obtain ⟨a, c, hchain⟩ := load_chain
  have hchainOrder :=
    @loadOrdered_of_load pairDisk { solution := some ⟨.relative, ["Chain.sln"]⟩ } _ _ _
      rfl rfl hchain
  rw [Solution.mapPaths_nil, ofProjects_chain] at hchainOrder
  obtain ⟨a', c', hloop⟩ := load_loop
  have hloopOrder :=
    @loadOrdered_of_load pairDisk { solution := some ⟨.relative, ["Loop.sln"]⟩ } _ _ _
      rfl rfl hloop
  rw [Solution.mapPaths_nil, ofProjects_loop] at hloopOrder
  exact ⟨⟨_, hchain, rfl, hloaded _ _ _ hchain⟩, ⟨_, hloopOrder, hcycle _ _ hloopOrder⟩,
    ⟨_, hchainOrder, rfl, hordered _ _ hchainOrder⟩⟩

end SolutionScript
