import Mathlib.Data.List.Permutation
import SolutionScript.Proofs.Graph.LeastOrder
import SolutionScript.Proofs.Graph.Search

/-!
# What ordering projects comes to

Where identifiers differ from project to project, ordering comes to one of
three ends (`ofProjects_cases`): a dependency that belongs to no project, the
least one of the first project that has any; a cycle; or the least order in
which each project comes after its dependencies (`ofProjects_least`). Which of
them it is depends on the dependencies only (`ofProjects_outcome`).
-/

namespace SolutionScript.BuildOrder

variable {ps : List Project}

/-- A project has a dependency that belongs to no project. -/
def HasUnresolved (ps : List Project) (p : Project) : Prop := ∃ id, Unresolved ps p id

theorem HasUnresolved.mem {p : Project} (h : HasUnresolved ps p) : p ∈ ps := by
  obtain ⟨id, hp, -⟩ := h
  exact hp

/-! ## Unresolved dependencies -/

/-- The first unresolved dependency of a project is the least. -/
theorem find?_sortedDependencies {p : Project} (hp : p ∈ ps) {id : String}
    (h : p.sortedDependencies.find? (fun id => (Project.withId? ps id).isNone) = some id) :
    IsLeast {id | Unresolved ps p id} id := by
  have hsorted := p.pairwise_sortedDependencies
  obtain ⟨hnone, before, after, hsplit, hbefore⟩ := List.find?_eq_some_iff_append.1 h
  have hmem (a : String) : a ∈ p.dependencies ↔ a ∈ before ++ id :: after := by
    rw [← hsplit, Project.sortedDependencies, List.mem_mergeSort]
  refine ⟨⟨hp, (hmem id).2 (by simp), ?_⟩, ?_⟩
  · rwa [Option.isNone_iff_eq_none, Project.withId?_eq_none] at hnone
  · rintro a ⟨-, ha, hnot⟩
    rcases List.mem_append.1 ((hmem a).1 ha) with hab | haa
    · have hsome := hbefore a hab
      rw [Project.withId?_eq_none.2 hnot] at hsome
      simp at hsome
    · rw [hsplit] at hsorted
      rcases List.mem_cons.1 haa with rfl | haa
      · exact le_rfl
      · exact (List.pairwise_cons.1 (List.pairwise_append.1 hsorted).2.1).1 a haa

/-- A project without an unresolved dependency is passed over. -/
theorem find?_sortedDependencies_eq_none {p : Project} (hp : p ∈ ps) :
    p.sortedDependencies.find? (fun id => (Project.withId? ps id).isNone) = none ↔
      ¬ HasUnresolved ps p := by
  simp [HasUnresolved, Unresolved, hp, Project.sortedDependencies, ← Project.withId?_eq_none]

theorem unresolved?_eq_none : unresolved? ps = none ↔ Resolved ps := by
  rw [unresolved?, List.findSome?_eq_none_iff]
  constructor
  · intro h
    by_contra hnot
    obtain ⟨p, id, hid⟩ := not_resolved_iff.1 hnot
    have hnone := h p (Project.mem_sorted.2 hid.1)
    rw [Option.map_eq_none_iff, find?_sortedDependencies_eq_none hid.1] at hnone
    exact hnone ⟨id, hid⟩
  · intro hres p hp
    rw [Option.map_eq_none_iff, find?_sortedDependencies_eq_none (Project.mem_sorted.1 hp)]
    rintro ⟨id, hid⟩
    exact not_resolved_iff.2 ⟨p, id, hid⟩ hres

/-- Projects without faults are arranged. -/
theorem ofProjects_eq_arrange (hres : Resolved ps) (hacyclic : Cycle.find? ps = .ok none) :
    ofProjects ps = .ok ⟨arrange ps⟩ := by
  rw [ofProjects, unresolved?_eq_none.2 hres, hacyclic]

/-- The unresolved dependency that is reported: the least one of the first project
that has any. -/
theorem unresolved?_eq_some {p : Project} {id : String} (h : unresolved? ps = some (p, id)) :
    IsFirst (HasUnresolved ps) p ∧ IsLeast {id | Unresolved ps p id} id := by
  obtain ⟨before, q, after, hsplit, hq, hbefore⟩ := List.findSome?_eq_some_iff.1 h
  obtain ⟨id', hid, heq⟩ := Option.map_eq_some_iff.1 hq
  cases heq
  have hsub (r : Project) (hr : r ∈ before ++ p :: after) : r ∈ ps :=
    Project.mem_sorted.1 (hsplit ▸ hr)
  have hleast := find?_sortedDependencies (hsub p (by simp)) hid
  refine ⟨.of_sorted (fun _ => HasUnresolved.mem) hsplit ⟨id, hleast.1⟩ fun r hr => ?_, hleast⟩
  have hnone := hbefore r hr
  rwa [Option.map_eq_none_iff, find?_sortedDependencies_eq_none (hsub r (by simp [hr]))] at hnone

/-! ## Outcomes -/

section

variable (hid : (ps.map (·.id)).Nodup)
include hid

/-- The three ends that ordering projects can come to. -/
theorem ofProjects_cases :
    (∃ p id, ofProjects ps = .error (.tool (.unresolvedDependency p.name id)) ∧
      IsFirst (HasUnresolved ps) p ∧ IsLeast {id | Unresolved ps p id} id) ∨
    (∃ c, ofProjects ps = .error (.tool (.cyclicDependency (c.map (·.name)))) ∧
      Resolved ps ∧ IsCycle ps c) ∨
    (∃ o, ofProjects ps = .ok o ∧ Resolved ps ∧ ¬ HasCycle ps ∧ IsLeastOrder ps [] o.projects) := by
  rw [ofProjects]
  cases h : unresolved? ps with
  | some found =>
    obtain ⟨p, id⟩ := found
    exact .inl ⟨p, id, rfl, unresolved?_eq_some h⟩
  | none =>
    have hres := unresolved?_eq_none.1 h
    right
    rcases Cycle.find?_spec hid hres with ⟨hnone, hall⟩ | ⟨root, c, hc, -, hfinds⟩
    · have hcycle : ¬ HasCycle ps := fun hcycle => by
        obtain ⟨p, hp, hreach⟩ := hasCycle_iff.1 hcycle
        exact hall p hp hreach
      rw [hnone]
      exact .inr ⟨_, rfl, hres, hcycle, isLeastOrder_arrange hid hres hcycle⟩
    · rw [hc]
      exact .inl ⟨c, rfl, hres, hfinds.isCycle hid hres⟩

theorem ofProjects_eq_unresolved {name id : String}
    (h : ofProjects ps = .error (.tool (.unresolvedDependency name id))) :
    ∃ p, IsFirst (HasUnresolved ps) p ∧ p.name = name ∧ IsLeast {id | Unresolved ps p id} id := by
  rcases ofProjects_cases hid with ⟨p, id, herr, hp, hleast⟩ | ⟨c, herr, -⟩ | ⟨o, hok, -⟩
  · cases h.symm.trans herr
    exact ⟨p, hp, rfl, hleast⟩
  · cases h.symm.trans herr
  · cases h.symm.trans hok

theorem ofProjects_eq_cyclic {names : List String}
    (h : ofProjects ps = .error (.tool (.cyclicDependency names))) :
    Resolved ps ∧ ∃ c, IsCycle ps c ∧ c.map (·.name) = names := by
  rcases ofProjects_cases hid with ⟨p, id, herr, -⟩ | ⟨c, herr, hres, hc⟩ | ⟨o, hok, -⟩
  · cases h.symm.trans herr
  · cases h.symm.trans herr
    exact ⟨hres, c, hc, rfl⟩
  · cases h.symm.trans hok

theorem ofProjects_eq_ok {o : BuildOrder} (h : ofProjects ps = .ok o) :
    Resolved ps ∧ ¬ HasCycle ps ∧ IsLeastOrder ps [] o.projects := by
  rcases ofProjects_cases hid with ⟨p, id, herr, -⟩ | ⟨c, herr, -⟩ | ⟨o', hok, hspec⟩
  · cases h.symm.trans herr
  · cases h.symm.trans herr
  · cases h.symm.trans hok
    exact hspec

/-- In an order the dependencies of every project are found. -/
theorem exists_dependencies {o : BuildOrder} (h : ofProjects ps = .ok o) {p : Project}
    (hp : p ∈ o.projects) : ∃ needed, o.dependencies p = .ok needed := by
  obtain ⟨hres, -, hleast⟩ := ofProjects_eq_ok hid h
  have hfind : ∀ id ∈ p.dependencies, ∃ q, o.find id = .ok q := by
    intro id hdep
    obtain ⟨q, hq, hqid⟩ := hres p (hleast.perm.mem_iff.1 hp) id hdep
    have hsome : (o.project? id).isSome := by
      rw [project?, List.find?_isSome]
      exact ⟨q, hleast.perm.mem_iff.2 hq, by simpa using hqid⟩
    obtain ⟨r, hr⟩ := Option.isSome_iff_exists.1 hsome
    exact ⟨r, by rw [find, hr]⟩
  obtain ⟨found, hfound⟩ := Fallible.exists_mapM_eq_ok hfind
  exact ⟨_, Fallible.map_eq_ok.2 ⟨found, hfound, rfl⟩⟩

/-- An unresolved dependency is reported if there is any. -/
theorem exists_unresolved_iff :
    (∃ name id, ofProjects ps = .error (.tool (.unresolvedDependency name id))) ↔
      ∃ p id, Unresolved ps p id := by
  constructor
  · rintro ⟨name, id, h⟩
    obtain ⟨p, -, -, hleast⟩ := ofProjects_eq_unresolved hid h
    exact ⟨p, id, hleast.1⟩
  · intro h
    rcases ofProjects_cases hid with ⟨p, id, herr, -⟩ | ⟨c, -, hres, -⟩ | ⟨o, -, hres, -⟩
    · exact ⟨p.name, id, herr⟩
    · exact absurd hres (not_resolved_iff.2 h)
    · exact absurd hres (not_resolved_iff.2 h)

/-- A cycle is reported if there is one, and no unresolved dependency. -/
theorem exists_cyclic_iff :
    (∃ names, ofProjects ps = .error (.tool (.cyclicDependency names))) ↔
      Resolved ps ∧ HasCycle ps := by
  constructor
  · rintro ⟨names, h⟩
    obtain ⟨hres, c, hc, -⟩ := ofProjects_eq_cyclic hid h
    exact ⟨hres, hc.hasCycle⟩
  · rintro ⟨hres, hcycle⟩
    rcases ofProjects_cases hid with ⟨p, id, -, -, hleast⟩ | ⟨c, herr, -⟩ | ⟨o, -, -, hnot, -⟩
    · exact absurd hres (not_resolved_iff.2 ⟨p, id, hleast.1⟩)
    · exact ⟨c.map (·.name), herr⟩
    · exact absurd hcycle hnot

/-- Projects are ordered if there is neither an unresolved dependency nor a cycle. -/
theorem exists_ok_iff : (∃ o, ofProjects ps = .ok o) ↔ Resolved ps ∧ ¬ HasCycle ps := by
  constructor
  · rintro ⟨o, h⟩
    obtain ⟨hres, hcycle, -⟩ := ofProjects_eq_ok hid h
    exact ⟨hres, hcycle⟩
  · rintro ⟨hres, hcycle⟩
    rcases ofProjects_cases hid with ⟨p, id, -, -, hleast⟩ | ⟨c, -, -, hc⟩ | ⟨o, hok, -⟩
    · exact absurd hres (not_resolved_iff.2 ⟨p, id, hleast.1⟩)
    · exact absurd hc.hasCycle hcycle
    · exact ⟨o, hok⟩

/-- Projects that were ordered are in an order of all of them in which every
project comes after its dependencies, and that is less than all other such orders,
compared project by project by name, index and identifier. -/
theorem ofProjects_least {o : BuildOrder} (h : ofProjects ps = .ok o) :
    o.projects.Perm ps ∧ DependenciesFirst o.projects ∧
      ∀ l, l.Perm ps → DependenciesFirst l →
        l = o.projects ∨ o.projects.map (·.readyKey) < l.map (·.readyKey) := by
  obtain ⟨-, -, hleast⟩ := ofProjects_eq_ok hid h
  exact ⟨hleast.perm, hleast.dependencies_first, fun l hl hfirst =>
    hleast.least l hl hfirst (List.nil_prefix)⟩

/-- Four projects: one that depends on two others, which depend on the fourth. -/
def diamond : List Project :=
  [["U", "L"].foldl .addDependency { id := "A", name := "App", path := "App.csproj" },
    ["C"].foldl .addDependency { id := "U", name := "Ui", path := "Ui.csproj", index := 1 },
    ["C"].foldl .addDependency { id := "L", name := "Logic", path := "Logic.csproj", index := 2 },
    { id := "C", name := "Core", path := "Core.csproj", index := 3 }]

omit hid in
theorem ofProjects_least_diamond :
    (diamond.map (·.id)).Nodup ∧ ∃ o, ofProjects diamond = .ok o ∧
      o.names = ["Core", "Logic", "Ui", "App"] ∧ o.projects.Perm diamond ∧
      DependenciesFirst o.projects ∧
      ∀ l, l.Perm diamond → DependenciesFirst l →
        l = o.projects ∨ o.projects.map (·.readyKey) < l.map (·.readyKey) := by
  have hid : (diamond.map (·.id)).Nodup := by decide
  obtain ⟨o, h, hnames⟩ :
      ∃ o, ofProjects diamond = .ok o ∧ o.names = ["Core", "Logic", "Ui", "App"] :=
    ⟨_, ofProjects_eq_arrange (by decide) (by cbv), by decide⟩
  exact ⟨hid, o, h, hnames, ofProjects_least hid h⟩

/-- Ordering projects whose sort keys are different. A dependency that belongs to no
project comes first: it is the least one of the first project that has any. Then a
cycle comes, with the names of different projects of which each depends on the next
and the last on the first. Where there is neither, all projects are ordered. -/
theorem ofProjects_outcome (hkey : (ps.map (·.sortKey)).Nodup) :
    ((∃ name id, ofProjects ps = .error (.tool (.unresolvedDependency name id))) ↔
      ∃ p id, Unresolved ps p id) ∧
    (∀ name id, ofProjects ps = .error (.tool (.unresolvedDependency name id)) ↔
      ∃ p, IsFirst (HasUnresolved ps) p ∧ p.name = name ∧ IsLeast {id | Unresolved ps p id} id) ∧
    ((∃ names, ofProjects ps = .error (.tool (.cyclicDependency names))) ↔
      Resolved ps ∧ HasCycle ps) ∧
    (∀ names, ofProjects ps = .error (.tool (.cyclicDependency names)) →
      ∃ c, IsCycle ps c ∧ c.map (·.name) = names) ∧
    ((∃ o, ofProjects ps = .ok o) ↔ Resolved ps ∧ ¬ HasCycle ps) ∧
    (∀ o, ofProjects ps = .ok o → o.projects.Perm ps) := by
  refine ⟨exists_unresolved_iff hid, fun name id => ⟨ofProjects_eq_unresolved hid, ?_⟩,
    exists_cyclic_iff hid, fun _ h => (ofProjects_eq_cyclic hid h).2, exists_ok_iff hid,
    fun _ h => (ofProjects_eq_ok hid h).2.2.perm⟩
  rintro ⟨p, hp, rfl, hleast⟩
  obtain ⟨name, id', h⟩ := (exists_unresolved_iff hid).2 ⟨p, id, hleast.1⟩
  obtain ⟨q, hq, rfl, hleast'⟩ := ofProjects_eq_unresolved hid h
  -- Keys are different, so there is one first project only.
  obtain rfl := IsFirst.unique hkey (fun _ => HasUnresolved.mem) hp hq
  rw [h, hleast.unique hleast']

end

/-- Two projects that depend on each other, one of them on unknown projects, too. -/
def tangle : List Project :=
  [["B"].foldl .addDependency { id := "A", name := "App", path := "App.csproj" },
    ["A", "Z", "Y"].foldl .addDependency
      { id := "B", name := "Base", path := "Base.csproj", index := 1 }]

theorem ofProjects_outcome_tangle :
    (tangle.map (·.id)).Nodup ∧ (tangle.map (·.sortKey)).Nodup ∧
      ofProjects tangle = .error (.tool (.unresolvedDependency "Base" "Y")) ∧
      ∃ p, IsFirst (HasUnresolved tangle) p ∧ p.name = "Base" ∧
        IsLeast {id | Unresolved tangle p id} "Y" := by
  have hid : (tangle.map (·.id)).Nodup := by decide
  have hkey : (tangle.map (·.sortKey)).Nodup := by decide
  have h : ofProjects tangle = .error (.tool (.unresolvedDependency "Base" "Y")) := by
    simp only [ofProjects, unresolved?, ← Option.not_isSome]
    cbv
  exact ⟨hid, hkey, h, ((ofProjects_outcome hid hkey).2.1 "Base" "Y").1 h⟩

end SolutionScript.BuildOrder
