import Mathlib.Data.List.Nodup
import SolutionScript.Proofs.Fallible
import SolutionScript.Solution.Load

/-!
# Loading projects

Reading a descriptor adds to a project and leaves what declares it alone
(`Descriptor.read_describes`). So whatever blocks and templates declare the projects
of a solution, those that are loaded have different identifiers and different
names, and their indices count from zero (`WellNumbered`, kept by
`WellNumbered.loadEntry`). Resolving references keeps this, and lets no project
depend on itself (`wellNumbered_of_load`).
-/

namespace SolutionScript

open FileSystem Fallible

/-! ## What descriptors leave alone -/

/-- What declares a project has not changed. -/
structure Project.Keeps (p q : Project) : Prop where
  id : q.id = p.id
  name : q.name = p.name
  path : q.path = p.path
  index : q.index = p.index

theorem Project.Keeps.trans {p q r : Project} (h : p.Keeps q) (h' : q.Keeps r) : p.Keeps r :=
  ⟨h'.id.trans h.id, h'.name.trans h.name, h'.path.trans h.path, h'.index.trans h.index⟩

/-- Neither what declares a project nor its dependencies have changed. -/
structure Project.Describes (p q : Project) : Prop extends p.Keeps q where
  dependencies : q.dependencies = p.dependencies

theorem Project.Describes.trans {p q r : Project} (h : p.Describes q) (h' : q.Describes r) :
    p.Describes r :=
  ⟨h.toKeeps.trans h'.toKeeps, h'.dependencies.trans h.dependencies⟩

namespace Descriptor

variable {d : Disk} {p q : Project} {root : Xml.Element} {file : HostPath}
  {refs : List ProjectReference}

theorem Attributes.read_describes (h : Attributes.read p root file = .ok (q, refs)) :
    p.Describes q := by
  unfold Attributes.read at h
  split at h
  · cases h
  · simp only [Except.ok.injEq, Prod.mk.injEq] at h
    obtain ⟨rfl, -⟩ := h
    split
    · exact ⟨⟨rfl, rfl, rfl, rfl⟩, rfl⟩
    · exact ⟨⟨rfl, rfl, rfl, rfl⟩, rfl⟩

theorem Properties.withLanguage_describes (p : Project) (file : HostPath) :
    p.Describes (withLanguage p file) := by
  unfold withLanguage
  split <;> exact ⟨⟨rfl, rfl, rfl, rfl⟩, rfl⟩

theorem Properties.read_describes (h : Properties.read d p root file = .ok (q, refs)) :
    p.Describes q := by
  unfold Properties.read at h
  obtain ⟨items, -, h⟩ := bind_eq_ok.1 h
  have hdescribes := withLanguage_describes p file
  generalize withLanguage p file = p' at h hdescribes
  dsimp only at h
  split at h
  · obtain ⟨sources, -, h⟩ := bind_eq_ok.1 h
    cases h
    exact hdescribes.trans ⟨⟨rfl, rfl, rfl, rfl⟩, rfl⟩
  · cases h
    exact hdescribes.trans ⟨⟨rfl, rfl, rfl, rfl⟩, rfl⟩

/-- In whichever form a descriptor is written, reading it leaves alone what
declares the project and what it depends on. -/
theorem read_describes (h : read d p file = .ok (q, refs)) : p.Describes q := by
  unfold read at h
  obtain ⟨root, -, h⟩ := bind_eq_ok.1 h
  have hform : ∃ q', p.Describes q' ∧ { q' with outputPath := outputPathOf q' } = q := by
    split at h
    · obtain ⟨⟨q', refs'⟩, hq', h⟩ := bind_eq_ok.1 h
      cases h
      exact ⟨q', Attributes.read_describes hq', rfl⟩
    · obtain ⟨⟨q', refs'⟩, hq', h⟩ := bind_eq_ok.1 h
      cases h
      exact ⟨q', Properties.read_describes hq', rfl⟩
    · cases h
  obtain ⟨q', hdescribes, rfl⟩ := hform
  exact hdescribes.trans ⟨⟨rfl, rfl, rfl, rfl⟩, rfl⟩

end Descriptor

namespace Solution

variable {d : Disk} {file base : HostPath} {mappings : List PathMapping}

/-! ## Projects with different names -/

/-- Projects have different identifiers and different names, and each has its place
as its index. -/
structure WellNumbered (ps : List Project) : Prop where
  ids : (ps.map (·.id)).Nodup
  names : (ps.map (·.name)).Nodup
  index : ∀ (i : ℕ) (h : i < ps.length), ps[i].index = i

theorem wellNumbered_nil : WellNumbered [] := ⟨by simp, by simp, by simp⟩

/-- A project can be added at the end that has another identifier and another name
than those before. -/
theorem WellNumbered.concat {ps : List Project} (h : WellNumbered ps) {p : Project}
    (hid : p.id ∉ ps.map (·.id)) (hname : p.name ∉ ps.map (·.name)) (hindex : p.index = ps.length) :
    WellNumbered (ps ++ [p]) := by
  refine ⟨?_, ?_, fun i hi => ?_⟩
  · rw [List.map_append, List.map_singleton, ← List.concat_eq_append]
    exact h.ids.concat hid
  · rw [List.map_append, List.map_singleton, ← List.concat_eq_append]
    exact h.names.concat hname
  · rcases Nat.lt_or_ge i ps.length with hlt | hge
    · rw [List.getElem_append_left hlt]
      exact h.index i hlt
    · obtain rfl : i = ps.length := by simp at hi; omega
      rw [List.getElem_concat_length rfl]
      exact hindex

/-- Projects are well numbered whose identifiers, names and indices are those of
projects that are. -/
theorem WellNumbered.congr {ps qs : List Project} (h : WellNumbered ps)
    (hid : qs.map (·.id) = ps.map (·.id)) (hname : qs.map (·.name) = ps.map (·.name))
    (hindex : qs.map (·.index) = ps.map (·.index)) : WellNumbered qs := by
  refine ⟨hid ▸ h.ids, hname ▸ h.names, fun i hi => ?_⟩
  have hlen : qs.length = ps.length := by simpa using congrArg List.length hid
  have hget := List.getElem_of_eq hindex (by simpa using hi)
  rw [List.getElem_map, List.getElem_map] at hget
  exact hget.trans (h.index i (hlen ▸ hi))

theorem WellNumbered.nodup_index {ps : List Project} (h : WellNumbered ps) :
    (ps.map (·.index)).Nodup := by
  refine List.nodup_iff_pairwise_ne.2 (List.pairwise_iff_getElem.2 fun i j hi hj hij => ?_)
  rw [List.length_map] at hi hj
  rw [List.getElem_map, List.getElem_map, h.index i hi, h.index j hj]
  omega

theorem WellNumbered.mapPaths {s : Solution} (h : WellNumbered s.projects)
    (mappings : List PathMapping) : WellNumbered (s.mapPaths mappings).projects :=
  h.congr List.map_map List.map_map List.map_map

/-! ## Steps of loading -/

/-- What it takes to load a project. -/
theorem loadProject_eq_ok {line : ℕ} {done done' : List Loaded} {p : Project}
    (h : loadProject d file base mappings line done p = .ok done') :
    p.id ∉ done.map (·.project.id) ∧ p.name ∉ done.map (·.project.name) ∧
      ∃ source q refs, descriptorFile base mappings p.name p.path = .ok source ∧
        Descriptor.read d { p with index := done.length } source = .ok (q, refs) ∧
        done' = done ++ [⟨q, refs, line⟩] := by
  unfold loadProject at h
  split at h
  · cases h
  · rename_i hid
    split at h
    · cases h
    · rename_i hname
      obtain ⟨source, hsource, h⟩ := bind_eq_ok.1 h
      obtain ⟨⟨q, refs⟩, hread, h⟩ := bind_eq_ok.1 h
      cases h
      refine ⟨by simpa using hid, by simpa using hname, source, q, refs, hsource, hread, rfl⟩

theorem loadEntry_eq_ok {done done' : List Loaded} {e : SolutionEntry}
    (h : loadEntry d file base mappings done e = .ok done') :
    ∃ ps, projectsOf d base mappings e = .ok ps ∧
      ps.foldlM (loadProject d file base mappings e.line) done = .ok done' :=
  bind_eq_ok.1 h

/-- What it takes to load a solution. -/
theorem load_eq_ok {s : Solution} :
    load d file mappings = .ok s ↔
      ∃ lines text loaded, readLines d file = .ok lines ∧ SolutionText.parse lines = .ok text ∧
        text.entries.foldlM (loadEntry d file file.parent mappings) [] = .ok loaded ∧
        loaded.mapM (resolve file (loaded.map (·.project)) text.dependencies) = .ok s.projects ∧
        s.path = file.render ∧ s.formatVersion = text.version := by
  constructor
  · intro h
    unfold load at h
    obtain ⟨lines, hlines, h⟩ := bind_eq_ok.1 h
    split at h
    · cases h
    · rename_i text htext
      obtain ⟨loaded, hloaded, h⟩ := bind_eq_ok.1 h
      obtain ⟨projects, hprojects, h⟩ := bind_eq_ok.1 h
      cases h
      exact ⟨lines, text, loaded, hlines, htext, hloaded, hprojects, rfl, rfl⟩
  · rintro ⟨lines, text, loaded, hlines, htext, hloaded, hprojects, hpath, hversion⟩
    refine bind_eq_ok.2 ⟨lines, hlines, ?_⟩
    rw [htext]
    refine bind_eq_ok.2 ⟨loaded, hloaded, bind_eq_ok.2 ⟨s.projects, hprojects, ?_⟩⟩
    rw [← hpath, ← hversion]
    rfl

/-- Loading a project keeps the projects well numbered. -/
theorem WellNumbered.loadProject {line : ℕ} {done done' : List Loaded} {p : Project}
    (h : WellNumbered (done.map (·.project)))
    (hload : loadProject d file base mappings line done p = .ok done') :
    WellNumbered (done'.map (·.project)) := by
  obtain ⟨hid, hname, source, q, refs, -, hread, rfl⟩ := loadProject_eq_ok hload
  have hkeeps := (Descriptor.read_describes hread).toKeeps
  rw [List.map_append, List.map_singleton]
  refine h.concat ?_ ?_ ?_
  · rw [hkeeps.id, List.map_map]
    exact hid
  · rw [hkeeps.name, List.map_map]
    exact hname
  · rw [hkeeps.index, List.length_map]

/-- Whatever a block stands for, loading it keeps the projects well numbered. -/
theorem WellNumbered.loadEntry {done done' : List Loaded} {e : SolutionEntry}
    (h : WellNumbered (done.map (·.project)))
    (hload : loadEntry d file base mappings done e = .ok done') :
    WellNumbered (done'.map (·.project)) := by
  obtain ⟨ps, -, hps⟩ := loadEntry_eq_ok hload
  exact foldlM_induction (fun done => WellNumbered (done.map (·.project)))
    (fun _ _ _ _ h hstep => h.loadProject hstep) h hps

/-! ## Resolving -/

theorem addDependency_keeps (p : Project) (id : String) : p.Keeps (p.addDependency id) := by
  unfold Project.addDependency
  split <;> exact ⟨rfl, rfl, rfl, rfl⟩

theorem foldl_addDependency_keeps (ids : List String) (p : Project) :
    p.Keeps (ids.foldl Project.addDependency p) := by
  induction ids generalizing p with
  | nil => exact ⟨rfl, rfl, rfl, rfl⟩
  | cons id ids ih => exact (addDependency_keeps p id).trans (ih _)

/-- Resolving references keeps what declares a project, which does not come to
depend on itself. -/
theorem resolve_eq_ok {projects : List Project} {dependencies : Keyed (List String)} {l : Loaded}
    {p : Project} (h : resolve file projects dependencies l = .ok p) :
    l.project.Keeps p ∧ p.id ∉ p.dependencies := by
  dsimp only [resolve] at h
  split at h
  · cases h
  · rename_i hself
    cases h
    exact ⟨foldl_addDependency_keeps _ _, hself⟩

/-- The projects of a solution have different identifiers and different names, each
has its place as its index, and none depends on itself. -/
theorem wellNumbered_of_load {s : Solution} (h : load d file mappings = .ok s) :
    WellNumbered s.projects ∧ ∀ p ∈ s.projects, p.id ∉ p.dependencies := by
  obtain ⟨lines, text, loaded, -, -, hloaded, hprojects, -⟩ := load_eq_ok.1 h
  have hnumbered : WellNumbered (loaded.map (·.project)) :=
    foldlM_induction (fun done => WellNumbered (done.map (·.project)))
      (fun _ _ _ _ h hstep => h.loadEntry hstep) wellNumbered_nil hloaded
  constructor
  · refine hnumbered.congr ?_ ?_ ?_
    all_goals rw [List.map_map]
    · exact map_of_mapM_eq_ok hprojects fun _ _ h => (resolve_eq_ok h).1.id
    · exact map_of_mapM_eq_ok hprojects fun _ _ h => (resolve_eq_ok h).1.name
    · exact map_of_mapM_eq_ok hprojects fun _ _ h => (resolve_eq_ok h).1.index
  · intro p hp
    obtain ⟨l, -, hl⟩ := (mem_iff_of_mapM_eq_ok hprojects).1 hp
    exact (resolve_eq_ok hl).2

end Solution

end SolutionScript
