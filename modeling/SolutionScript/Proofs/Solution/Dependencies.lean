import SolutionScript.Proofs.Solution.LoadedOrder
import SolutionScript.Proofs.Solution.Sections

/-!
# Where dependencies come from

A loaded project depends on what the references of its descriptor point to
(`PointsTo`), on the targets that global sections of the solution have for it and
on those in its blocks, and on nothing else (`load_dependencies`). So a dependency
that is no project of the solution is still there when the projects are ordered,
and is reported.
-/

namespace SolutionScript

open FileSystem Fallible

namespace Solution

variable {d : Disk} {file base : HostPath} {mappings : List PathMapping} {ps qs : List Project}
  {r : ProjectReference}

/-! ## References -/

/-- A reference has the identifier of a project. -/
def Names (ps : List Project) (r : ProjectReference) (id : String) : Prop :=
  r.projectId = some id ∧ id ≠ "" ∧ ∃ p ∈ ps, p.id = id

/-- A reference has the path of a descriptor. -/
def HasPath (r : ProjectReference) (path : String) : Prop := r.path = some path ∧ path ≠ ""

/-- What a reference points to: the project with its identifier, else the first
project that is declared at its path. A reference to neither keeps its path, else
its identifier, else its name. -/
inductive PointsTo (ps : List Project) (r : ProjectReference) : String → Prop
  | identifier (id : String) (names : Names ps r id) : PointsTo ps r id
  | declared (before : List Project) (p : Project) (after : List Project) (path : String)
      (unnamed : ∀ id, ¬ Names ps r id) (hasPath : HasPath r path)
      (split : ps = before ++ p :: after) (here : comparable p.path = comparable path)
      (first : ∀ q ∈ before, comparable q.path ≠ comparable path) : PointsTo ps r p.id
  | path (path : String) (unnamed : ∀ id, ¬ Names ps r id) (hasPath : HasPath r path)
      (nowhere : ∀ q ∈ ps, comparable q.path ≠ comparable path) : PointsTo ps r path
  | unknown (id : String) (unnamed : ∀ id, ¬ Names ps r id) (noPath : ∀ path, ¬ HasPath r path)
      (hasId : r.projectId = some id) (ne : id ≠ "") : PointsTo ps r id
  | name (noPath : ∀ path, ¬ HasPath r path) (noId : r.projectId = none ∨ r.projectId = some "") :
      PointsTo ps r r.name

/-- The identifier of a reference, empty if it has none. -/
def idOf (r : ProjectReference) : String := r.projectId.getD ""

/-- The path of a reference, empty if it has none. -/
def pathOf (r : ProjectReference) : String := r.path.getD ""

theorem names_iff {id : String} :
    Names ps r id ↔ id = idOf r ∧ (idOf r ≠ "" && ps.any (·.id = idOf r)) = true := by
  rw [Names, idOf]
  cases r.projectId with
  | none => simp
  | some id' => aesop

theorem hasPath_iff {path : String} : HasPath r path ↔ path = pathOf r ∧ pathOf r ≠ "" := by
  rw [HasPath, pathOf]
  cases r.path with
  | none => simp
  | some path' => aesop

theorem unnamed_iff :
    (∀ id, ¬ Names ps r id) ↔ ¬ (idOf r ≠ "" && ps.any (·.id = idOf r)) = true := by
  simp only [names_iff, not_and, forall_eq]

theorem noPath_iff : (∀ path, ¬ HasPath r path) ↔ ¬ pathOf r ≠ "" := by
  simp only [hasPath_iff, not_and, forall_eq]

theorem noId_iff : r.projectId = none ∨ r.projectId = some "" ↔ idOf r = "" := by
  rw [idOf]
  cases r.projectId <;> simp

/-- The first project that is declared at a path. -/
def declaredAt? (ps : List Project) (path : String) : Option Project :=
  ps.find? fun p => comparable p.path = comparable path

theorem declaredAt?_eq_some {p : Project} {path : String} :
    declaredAt? ps path = some p ↔ comparable p.path = comparable path ∧
      ∃ before after, ps = before ++ p :: after ∧
        ∀ q ∈ before, comparable q.path ≠ comparable path := by
  simp [declaredAt?, List.find?_eq_some_iff_append]

theorem declaredAt?_eq_none {path : String} :
    declaredAt? ps path = none ↔ ∀ q ∈ ps, comparable q.path ≠ comparable path := by
  simp [declaredAt?]

theorem resolveReference_eq (ps : List Project) (r : ProjectReference) :
    resolveReference ps r =
      if (idOf r ≠ "" && ps.any (·.id = idOf r)) = true then idOf r
      else if pathOf r ≠ "" then ((declaredAt? ps (pathOf r)).map (·.id)).getD (pathOf r)
      else if idOf r ≠ "" then idOf r
      else r.name := by
  rw [resolveReference, ← idOf, ← pathOf, ← declaredAt?]
  congr 2
  cases declaredAt? ps (pathOf r) <;> rfl

theorem pointsTo_resolveReference (ps : List Project) (r : ProjectReference) :
    PointsTo ps r (resolveReference ps r) := by
  rw [resolveReference_eq]
  split
  · rename_i hnamed
    exact .identifier _ (names_iff.2 ⟨rfl, hnamed⟩)
  · rename_i hunnamed
    have hunnamed := unnamed_iff.2 hunnamed
    split
    · rename_i hpath
      have hpath : HasPath r (pathOf r) := hasPath_iff.2 ⟨rfl, hpath⟩
      cases hdeclared : declaredAt? ps (pathOf r) with
      | none => exact .path _ hunnamed hpath (declaredAt?_eq_none.1 hdeclared)
      | some p =>
        obtain ⟨hhere, before, after, hsplit, hfirst⟩ := declaredAt?_eq_some.1 hdeclared
        exact .declared before p after _ hunnamed hpath hsplit hhere hfirst
    · rename_i hpath
      have hnoPath := noPath_iff.2 hpath
      split
      · rename_i hid
        refine .unknown _ hunnamed hnoPath ?_ hid
        rw [idOf] at hid ⊢
        cases hr : r.projectId with
        | none => simp [hr] at hid
        | some id => rfl
      · rename_i hid
        exact .name hnoPath (noId_iff.2 (by simpa using hid))

/-- A reference points to what it is resolved to, and to nothing else. -/
theorem pointsTo_iff {target : String} : PointsTo ps r target ↔ target = resolveReference ps r := by
  constructor
  · intro h
    rw [resolveReference_eq]
    cases h with
    | identifier id names =>
      obtain ⟨rfl, hnamed⟩ := names_iff.1 names
      rw [if_pos hnamed]
    | declared before p after path unnamed hasPath split here first =>
      obtain ⟨rfl, hpath⟩ := hasPath_iff.1 hasPath
      have hdeclared := declaredAt?_eq_some.2 ⟨here, before, after, split, first⟩
      rw [if_neg (unnamed_iff.1 unnamed), if_pos hpath, hdeclared]
      rfl
    | path path unnamed hasPath nowhere =>
      obtain ⟨rfl, hpath⟩ := hasPath_iff.1 hasPath
      rw [if_neg (unnamed_iff.1 unnamed), if_pos hpath, declaredAt?_eq_none.2 nowhere]
      rfl
    | unknown id unnamed noPath hasId ne =>
      have hid : idOf r = target := by rw [idOf, hasId, Option.getD_some]
      rw [if_neg (unnamed_iff.1 unnamed), if_neg (noPath_iff.1 noPath), hid,
        if_pos ne]
    | name noPath noId =>
      rw [noId_iff] at noId
      simp [noId, noPath_iff.1 noPath]
  · rintro rfl
    exact pointsTo_resolveReference ps r

theorem map_declaredAt?_congr (hid : qs.map (·.id) = ps.map (·.id))
    (hpath : qs.map (·.path) = ps.map (·.path)) (path : String) :
    (declaredAt? qs path).map (·.id) = (declaredAt? ps path).map (·.id) := by
  induction qs generalizing ps with
  | nil =>
    cases ps with
    | nil => rfl
    | cons p ps => simp at hid
  | cons q qs ih =>
    cases ps with
    | nil => simp at hid
    | cons p ps =>
      simp only [List.map_cons, List.cons.injEq] at hid hpath
      have hrest := ih hid.2 hpath.2
      simp only [declaredAt?] at hrest
      rw [declaredAt?, declaredAt?, List.find?_cons, List.find?_cons, hpath.1]
      split
      · rw [Option.map_some, Option.map_some, hid.1]
      · exact hrest

/-- What a reference points to depends only on the identifiers and paths of the
projects. -/
theorem pointsTo_congr (hid : qs.map (·.id) = ps.map (·.id))
    (hpath : qs.map (·.path) = ps.map (·.path)) (r : ProjectReference) (target : String) :
    PointsTo qs r target ↔ PointsTo ps r target := by
  have hany : qs.any (·.id = idOf r) = ps.any (·.id = idOf r) := by
    have hmap : (qs.map (·.id)).any (· = idOf r) = (ps.map (·.id)).any (· = idOf r) := by rw [hid]
    rw [List.any_map, List.any_map] at hmap
    exact hmap
  rw [pointsTo_iff, pointsTo_iff, resolveReference_eq, resolveReference_eq, hany,
    map_declaredAt?_congr hid hpath]

/-! ## Loading -/

/-- The descriptor of a project, found and read as the solution declares the project,
has references. -/
def HasReferences (d : Disk) (base : HostPath) (mappings : List PathMapping) (p : Project)
    (references : List ProjectReference) : Prop :=
  ∃ source q, descriptorFile base mappings p.name p.path = .ok source ∧
    Descriptor.read d { id := p.id, name := p.name, path := p.path, index := p.index } source =
      .ok (q, references)

theorem HasReferences.congr {p q : Project} {references : List ProjectReference}
    (h : HasReferences d base mappings p references) (hkeeps : p.Keeps q) :
    HasReferences d base mappings q references := by
  rwa [HasReferences, hkeeps.id, hkeeps.name, hkeeps.path, hkeeps.index]

/-- The projects of a block are no more than declared. -/
theorem eq_of_mem_projectsOf {e : SolutionEntry} (h : projectsOf d base mappings e = .ok ps)
    {p : Project} (hp : p ∈ ps) : p = { id := p.id, name := p.name, path := p.path } := by
  unfold projectsOf at h
  split at h
  · cases h
    rw [List.mem_singleton.1 hp]
  · split at h
    · obtain ⟨source, -, h⟩ := bind_eq_ok.1 h
      obtain ⟨items, -, h⟩ := bind_eq_ok.1 h
      cases h
      obtain ⟨item, -, rfl⟩ := List.mem_map.1 hp
      rfl
    · cases h
      cases hp

/-- What is loaded has the references of its descriptor, and no dependencies yet. -/
def AllDescribed (d : Disk) (base : HostPath) (mappings : List PathMapping)
    (done : List Loaded) : Prop :=
  ∀ l ∈ done, HasReferences d base mappings l.project l.references ∧ l.project.dependencies = []

theorem AllDescribed.loadProject {line : ℕ} {done done' : List Loaded} {p : Project}
    (h : AllDescribed d base mappings done)
    (hp : p = { id := p.id, name := p.name, path := p.path })
    (hload : loadProject d file base mappings line done p = .ok done') :
    AllDescribed d base mappings done' := by
  obtain ⟨-, -, source, q, references, hsource, hread, rfl⟩ := loadProject_eq_ok hload
  have hdescribes := Descriptor.read_describes hread
  refine List.forall_mem_append.2 ⟨h, List.forall_mem_singleton.2 ⟨?_, ?_⟩⟩
  · have hfirst : HasReferences d base mappings { p with index := done.length } references := by
      rw [hp] at hread
      exact ⟨source, q, hsource, hread⟩
    exact hfirst.congr hdescribes.toKeeps
  · rw [hdescribes.dependencies, hp]

theorem AllDescribed.loadEntry {done done' : List Loaded} {e : SolutionEntry}
    (h : AllDescribed d base mappings done)
    (hload : loadEntry d file base mappings done e = .ok done') :
    AllDescribed d base mappings done' := by
  obtain ⟨ps, hof, hps⟩ := loadEntry_eq_ok hload
  exact foldlM_induction (AllDescribed d base mappings)
    (fun _ _ hp _ h hstep => h.loadProject (eq_of_mem_projectsOf hof hp) hstep) h hps

/-! ## Resolving -/

theorem mem_addDependency {p : Project} {id target : String} :
    target ∈ (p.addDependency id).dependencies ↔ target ∈ p.dependencies ∨ target = id := by
  rw [Project.addDependency]
  split
  · rename_i h
    refine (or_iff_left_of_imp ?_).symm
    rintro rfl
    exact h
  · rw [List.mem_append, List.mem_singleton]

theorem mem_foldl_addDependency {ids : List String} {p : Project} {target : String} :
    target ∈ (ids.foldl Project.addDependency p).dependencies ↔
      target ∈ p.dependencies ∨ target ∈ ids := by
  induction ids generalizing p with
  | nil => simp
  | cons id ids ih => rw [List.foldl_cons, ih, mem_addDependency, List.mem_cons, or_assoc]

/-- A project comes to depend on what its references point to and on what the solution
text says. -/
theorem mem_dependencies_of_resolve {dependencies : Keyed (List String)} {l : Loaded} {p : Project}
    (h : resolve file ps dependencies l = .ok p) {target : String} :
    target ∈ p.dependencies ↔ target ∈ l.project.dependencies ∨
      (∃ r ∈ l.references, PointsTo ps r target) ∨
        target ∈ (dependencies.get? l.project.id).getD [] := by
  dsimp only [resolve] at h
  split at h
  · cases h
  · cases h
    simp [mem_foldl_addDependency, pointsTo_iff, eq_comm, or_assoc]

end Solution

open Solution SolutionText

/-- The dependencies of a loaded project are what the references of its descriptor
point to, each of them to one thing, the targets that global sections have for it, and
those in its blocks. One that is no project of the solution is reported when the
projects are ordered. -/
theorem load_dependencies {d : Disk} {file : HostPath} {mappings : List PathMapping} {s : Solution}
    (h : Solution.load d file mappings = .ok s) :
    ∃ lines, readLines d file = .ok lines ∧
      (∀ p ∈ s.projects, ∃ references, HasReferences d file.parent mappings p references ∧
        (∀ r ∈ references, ∃! target, PointsTo s.projects r target) ∧
        ∀ target, target ∈ p.dependencies ↔
          (∃ r ∈ references, PointsTo s.projects r target) ∨
          (∃ opening, DependsGlobally lines opening p.id target) ∨
          ∃ opening, DependsInBlock lines opening p.id target) ∧
      ∀ r : Request, PathMapping.ofPairs r.mappings = .ok mappings →
        Solution.locate d r.solution r.folder = .ok file →
        (∃ p target, Unresolved s.projects p target) →
        ∃ name id, loadOrdered d r = .error (.tool (.unresolvedDependency name id)) := by
  obtain ⟨lines, text, loaded, hlines, hparse, hloaded, hprojects, -⟩ := load_eq_ok.1 h
  have hdescribed : AllDescribed d file.parent mappings loaded :=
    foldlM_induction (AllDescribed d file.parent mappings)
      (fun _ _ _ _ h hstep => h.loadEntry hstep) (by simp [AllDescribed]) hloaded
  have hid : s.projects.map (·.id) = (loaded.map (·.project)).map (·.id) := by
    rw [List.map_map]
    exact map_of_mapM_eq_ok hprojects fun _ _ h => (resolve_eq_ok h).1.id
  have hpath : s.projects.map (·.path) = (loaded.map (·.project)).map (·.path) := by
    rw [List.map_map]
    exact map_of_mapM_eq_ok hprojects fun _ _ h => (resolve_eq_ok h).1.path
  refine ⟨lines, hlines, fun p hp => ?_, fun r hmappings hfile hunresolved => ?_⟩
  · obtain ⟨l, hl, hresolve⟩ := (mem_iff_of_mapM_eq_ok hprojects).1 hp
    have hkeeps := (resolve_eq_ok hresolve).1
    obtain ⟨hreferences, hnone⟩ := hdescribed l hl
    refine ⟨l.references, hreferences.congr hkeeps, fun r _ => ?_, fun target => ?_⟩
    · exact ⟨_, pointsTo_resolveReference _ r, fun _ => pointsTo_iff.1⟩
    · rw [mem_dependencies_of_resolve hresolve, hnone, ← hkeeps.id, parse_dependencies hparse]
      simp [pointsTo_congr hid hpath]
  · have hnodup : ((s.mapPaths mappings).projects.map (·.id)).Nodup :=
      Solution.map_id_mapPaths mappings s ▸ (wellNumbered_of_load h).1.ids
    obtain ⟨name, id, herr⟩ : ∃ name id, BuildOrder.ofProjects (s.mapPaths mappings).projects =
        .error (.tool (.unresolvedDependency name id)) := by
      obtain ⟨p, target, hp, htarget, hnone⟩ := hunresolved
      refine (BuildOrder.exists_unresolved_iff hnodup).2 ⟨p.mapPaths mappings, target,
        List.mem_map_of_mem hp, htarget, fun q hq => ?_⟩
      obtain ⟨q', hq', rfl⟩ := List.mem_map.1 hq
      exact hnone q' hq'
    exact ⟨name, id, by rw [loadOrdered_of_load hmappings hfile h, herr]; rfl⟩

/-! ## A section in the wrong place -/

/-- A solution where a block has a global section. It names a project that there is
and one that there is not. -/
def crossedLines : List String :=
  ["Microsoft Visual Studio Solution File, Format Version 8.00",
    "Project(\"{FAE04EC0-301F-11D3-BF4B-00C04F79EFBC}\") = \"App\", \"App.csproj\", \"{A}\"",
    "EndProject",
    "Project(\"{FAE04EC0-301F-11D3-BF4B-00C04F79EFBC}\") = \"Core\", \"Core.csproj\", \"{C}\"",
    "GlobalSection(ProjectDependencies) = postProject", "{A} = {A}", "{B} = {B}",
    "EndGlobalSection", "EndProject"]

/-- A disk with the solution. -/
def crossedDisk : Disk where
  tree := ⟨[(["Work"], .folder), (["Work", "Crossed.sln"], Solution.plainFile crossedLines),
    (["Work", "App.csproj"], Solution.plainFile bareDescriptor),
    (["Work", "Core.csproj"], Solution.plainFile bareDescriptor)]⟩
  home := ["Work"]

theorem hasPair_crossedDisk : HasPair crossedDisk := ⟨rfl, rfl⟩

theorem readLines_crossed : readLines crossedDisk ⟨.relative, ["Crossed.sln"]⟩ = .ok crossedLines :=
  Solution.readLines_plainFile rfl (by decide)

/-- What the solution is loaded as, with the paths of the built assemblies. -/
def crossedSolution (a c : String) : Solution :=
  ⟨"Crossed.sln", "8.00", [{ appProject with outputPath := a },
    ({ coreProject with outputPath := c }.addDependency "{A}").addDependency "{B}"]⟩

theorem load_crossed : ∃ a c, Solution.load crossedDisk ⟨.relative, ["Crossed.sln"]⟩ [] =
    .ok (crossedSolution a c) := by
  have hparse : SolutionText.parse crossedLines = .ok ⟨"8.00",
      [⟨"{FAE04EC0-301F-11D3-BF4B-00C04F79EFBC}", "App", "App.csproj", "{A}", 2, []⟩,
        ⟨"{FAE04EC0-301F-11D3-BF4B-00C04F79EFBC}", "Core", "Core.csproj", "{C}", 4,
          ["{A}", "{B}"]⟩],
      [("{C}", ["{A}", "{B}"])]⟩ := by decide
  obtain ⟨a, c, h⟩ := hasPair_crossedDisk.load readLines_crossed hparse rfl
  exact ⟨a, c, h _ rfl rfl rfl⟩

/-- The unknown project is reported when the projects are ordered. -/
theorem load_dependencies_crossed :
    ∃ s lines, Solution.load crossedDisk ⟨.relative, ["Crossed.sln"]⟩ [] = .ok s ∧
      readLines crossedDisk ⟨.relative, ["Crossed.sln"]⟩ = .ok lines ∧
      s.projects.map (·.dependencies) = [[], ["{A}", "{B}"]] ∧
      (∀ p ∈ s.projects, ∃ references, HasReferences crossedDisk ⟨.relative, []⟩ [] p references ∧
        (∀ r ∈ references, ∃! target, PointsTo s.projects r target) ∧
        ∀ target, target ∈ p.dependencies ↔
          (∃ r ∈ references, PointsTo s.projects r target) ∨
          (∃ opening, DependsGlobally lines opening p.id target) ∨
          ∃ opening, DependsInBlock lines opening p.id target) ∧
      ∃ name id, loadOrdered crossedDisk { solution := some ⟨.relative, ["Crossed.sln"]⟩ } =
        .error (.tool (.unresolvedDependency name id)) := by
  obtain ⟨a, c, hload⟩ := load_crossed
  obtain ⟨lines, hlines, hdependencies, hreported⟩ := load_dependencies hload
  have hunresolved : ∃ p target, Unresolved (crossedSolution a c).projects p target := by
    refine ⟨_, "{B}", List.mem_cons_of_mem _ List.mem_cons_self, ?_, ?_⟩
    · show "{B}" ∈ ["{A}", "{B}"]
      decide
    · simp [crossedSolution, appProject, coreProject, Project.addDependency]
  exact ⟨_, lines, hload, hlines, rfl, hdependencies,
    hreported { solution := some ⟨.relative, ["Crossed.sln"]⟩ } rfl rfl hunresolved⟩

theorem references_core {p : Project} {references : List ProjectReference} (hname : p.name = "Core")
    (hpath : p.path = "Core.csproj")
    (h : HasReferences crossedDisk ⟨.relative, []⟩ [] p references) : references = [] := by
  obtain ⟨source, q, hsource, hread⟩ := h
  rw [hname, hpath] at hsource
  have hcore : Solution.descriptorFile ⟨.relative, []⟩ [] "Core" "Core.csproj" =
      .ok ⟨.relative, ["Core.csproj"]⟩ := by decide
  obtain rfl : source = ⟨.relative, ["Core.csproj"]⟩ := Except.ok.inj (hsource.symm.trans hcore)
  rw [read_bareDescriptor rfl hasPair_crossedDisk.core] at hread
  cases hread
  rfl

/-- Sections are told apart by where they stand and not by what they are called: the
dependency in the block is in a global section. -/
theorem dependency_of_crossed :
    ∃ s, Solution.load crossedDisk ⟨.relative, ["Crossed.sln"]⟩ [] = .ok s ∧
      ¬ ∃ lines, readLines crossedDisk ⟨.relative, ["Crossed.sln"]⟩ = .ok lines ∧
        ∀ p ∈ s.projects, ∃ references, HasReferences crossedDisk ⟨.relative, []⟩ [] p references ∧
          ∀ target, target ∈ p.dependencies ↔
            (∃ r ∈ references, PointsTo s.projects r target) ∨
            (∃ opening, "GlobalSection(".toList <+: opening ∧
              DependsGlobally lines opening p.id target) ∨
            ∃ opening, "ProjectSection(".toList <+: opening ∧
              DependsInBlock lines opening p.id target := by
  obtain ⟨a, c, hload⟩ := load_crossed
  refine ⟨_, hload, ?_⟩
  rintro ⟨lines, hlines, h⟩
  obtain rfl : lines = crossedLines := by
    rw [readLines_crossed] at hlines
    exact (Except.ok.inj hlines).symm
  obtain ⟨references, hreferences, h⟩ := h _ (List.mem_cons_of_mem _ List.mem_cons_self)
  obtain rfl := references_core rfl rfl hreferences
  have hdependency : "{A}" ∈ ["{A}", "{B}"] := by decide
  rcases (h "{A}").1 hdependency with ⟨r, hr, -⟩ | ⟨opening, -, hglobal⟩ | ⟨opening, hmark, hown⟩
  · cases hr
  · obtain ⟨before, line, after, heq, -, -, -, hline⟩ := hglobal
    have hnone : ∀ line ∈ crossedLines, readGlobalDependency (content line) = none := by
      decide
    rw [← readGlobalDependency_eq_some, hnone line (by simp [heq])] at hline
    cases hline
  · obtain ⟨before, line, after, heq, -, hopening, -⟩ := hown
    obtain ⟨line, hline, rfl⟩ := exists_content_of_openSection? hopening
    have hnone : ∀ line ∈ crossedLines, ¬ "ProjectSection(".toList <+: content line := by
      decide
    exact hnone line (by simp [heq, hline]) hmark

end SolutionScript
