import SolutionScript.Proofs.Conversion
import SolutionScript.Proofs.Solution.PlainFile

/-!
# Where projects are

The path of a project is mapped in two places: when its descriptor is looked for, and
once the solution is loaded. Both come to the same (`loadOrdered_located`): every
project of an ordered solution is declared once, by a block or by an item of a
template, its path is what the mappings make of the declared one, and its
descriptor was read from there.
-/

namespace SolutionScript

open FileSystem Fallible

/-- A project as it is declared. -/
def Project.declaration (p : Project) : Project := { id := p.id, name := p.name, path := p.path }

theorem Project.Keeps.declaration {p q : Project} (h : p.Keeps q) :
    q.declaration = p.declaration := by
  simp only [Project.declaration, h.id, h.name, h.path]

namespace Solution

variable {d : Disk} {file base source : HostPath} {mappings : List PathMapping}
  {e : SolutionEntry} {entries : List SolutionEntry} {ps : List Project} {p q : Project}

/-! ## Declarations -/

/-- A block declares a project: the one that it is about, or one that its template
lists. -/
inductive Declares (d : Disk) (base : HostPath) (mappings : List PathMapping) (e : SolutionEntry) :
    Project → Prop
  | block : e.typeId ∈ buildableTypes →
    Declares d base mappings e { id := e.projectId, name := e.name, path := e.path }
  | item {template : HostPath} {items : List TemplateEntry} {item : TemplateEntry} :
    e.typeId = templateType →
    descriptorFile base mappings e.name e.path = .ok template →
    Template.read d template e.path e.name = .ok items → item ∈ items →
    Declares d base mappings e { id := item.projectId, name := item.name, path := item.path }

theorem Declares.declaration (h : Declares d base mappings e p) : p.declaration = p := by
  cases h <;> rfl

/-- The projects that a block stands for are those that it declares. -/
theorem mem_projectsOf (h : projectsOf d base mappings e = .ok ps) :
    p ∈ ps ↔ Declares d base mappings e p := by
  have hother : e.typeId ∈ buildableTypes → e.typeId ≠ templateType := by
    rintro hblock htemplate
    rw [htemplate] at hblock
    revert hblock
    decide
  unfold projectsOf at h
  split at h
  · rename_i hblock
    cases h
    rw [List.mem_singleton]
    constructor
    · rintro rfl
      exact .block hblock
    · intro hdeclares
      cases hdeclares with
      | block => rfl
      | item htemplate => exact absurd htemplate (hother hblock)
  · rename_i hblock
    split at h
    · rename_i htemplate
      obtain ⟨template, hfile, h⟩ := bind_eq_ok.1 h
      obtain ⟨items, hitems, h⟩ := bind_eq_ok.1 h
      cases h
      rw [List.mem_map]
      constructor
      · rintro ⟨item, hitem, rfl⟩
        exact .item htemplate hfile hitems hitem
      · intro hdeclares
        cases hdeclares with
        | block hblock' => exact absurd hblock' hblock
        | item _ hfile' hitems' hitem =>
          cases hfile.symm.trans hfile'
          cases hitems.symm.trans hitems'
          exact ⟨_, hitem, rfl⟩
    · rename_i htemplate
      cases h
      refine iff_of_false List.not_mem_nil fun hdeclares => ?_
      cases hdeclares with
      | block hblock' => exact hblock hblock'
      | item htemplate' => exact htemplate htemplate'

/-- One of the blocks of a solution declares a project. -/
def DeclaredIn (d : Disk) (base : HostPath) (mappings : List PathMapping)
    (entries : List SolutionEntry) (p : Project) : Prop :=
  ∃ e ∈ entries, Declares d base mappings e p

/-! ## Loading -/

/-- The place that a descriptor path names, seen from the folder of the solution. -/
def fileAt (base : HostPath) (path : String) : HostPath :=
  base.join (HostPath.parse (DescriptorPath.toHost path))

/-- A descriptor is looked for where the mapped path says, unless that is a URL. -/
theorem descriptorFile_eq_ok {name path : String} :
    descriptorFile base mappings name path = .ok source ↔
      ¬ isRemote (mapPath mappings path) = true ∧ fileAt base (mapPath mappings path) = source := by
  rw [descriptorFile, ite_error_eq_ok, Except.ok.injEq, fileAt]

/-- A project was read from the descriptor that was found for it. -/
def IsRead (d : Disk) (base : HostPath) (mappings : List PathMapping) (l : Loaded) : Prop :=
  ∃ source, descriptorFile base mappings l.project.name l.project.path = .ok source ∧
    Descriptor.read d { l.project.declaration with index := l.project.index } source =
      .ok (l.project, l.references)

/-- The projects that are loaded, as they were declared. -/
def declarations (done : List Loaded) : List Project := done.map (·.project.declaration)

section

variable {done done' : List Loaded}

theorem loadProject_declared {line : ℕ} (hp : p.declaration = p)
    (h : loadProject d file base mappings line done p = .ok done') :
    declarations done' = declarations done ++ [p] := by
  obtain ⟨-, -, source, q, references, -, hread, rfl⟩ := loadProject_eq_ok h
  have hkeeps := (Descriptor.read_describes hread).toKeeps
  have hdeclaration : q.declaration = p := hkeeps.declaration.trans hp
  rw [declarations, List.map_append, List.map_singleton, hdeclaration, ← declarations]

theorem loadProject_read {line : ℕ} (hp : p.declaration = p)
    (hdone : ∀ l ∈ done, IsRead d base mappings l)
    (h : loadProject d file base mappings line done p = .ok done') :
    ∀ l ∈ done', IsRead d base mappings l := by
  obtain ⟨-, -, source, q, references, hsource, hread, rfl⟩ := loadProject_eq_ok h
  have hkeeps := (Descriptor.read_describes hread).toKeeps
  have hdeclaration : q.declaration = p := hkeeps.declaration.trans hp
  refine List.forall_mem_append.2 ⟨hdone, List.forall_mem_singleton.2 ⟨source, ?_, ?_⟩⟩
  · rw [hkeeps.name, hkeeps.path]
    exact hsource
  · rw [hdeclaration, hkeeps.index]
    exact hread

/-- The projects of a block are loaded after those before it, in order. -/
theorem loadEntry_declared (h : loadEntry d file base mappings done e = .ok done') :
    ∃ ps, projectsOf d base mappings e = .ok ps ∧ declarations done' = declarations done ++ ps := by
  obtain ⟨ps, hps, h⟩ := loadEntry_eq_ok h
  obtain ⟨groups, hgroups, hdone⟩ :=
    foldlM_append (R := fun p group => [p] = group) (k := declarations)
      (fun _ p hp _ hstep => ⟨[p], rfl,
        loadProject_declared ((mem_projectsOf hps).1 hp).declaration hstep⟩) h
  rw [← List.forall₂_map_left_iff, List.forall₂_eq_eq_eq] at hgroups
  refine ⟨ps, hps, ?_⟩
  rw [hdone, ← hgroups, ← List.flatMap_def, List.flatMap_singleton']

theorem loadEntry_read (hdone : ∀ l ∈ done, IsRead d base mappings l)
    (h : loadEntry d file base mappings done e = .ok done') :
    ∀ l ∈ done', IsRead d base mappings l := by
  obtain ⟨ps, hps, h⟩ := loadEntry_eq_ok h
  exact foldlM_induction (fun done => ∀ l ∈ done, IsRead d base mappings l)
    (fun _ _ hp _ hdone => loadProject_read ((mem_projectsOf hps).1 hp).declaration hdone) hdone h

end

/-- Resolving references only adds dependencies. -/
theorem eq_of_resolve {projects : List Project} {dependencies : Keyed (List String)} {l : Loaded}
    (h : resolve file projects dependencies l = .ok p) :
    ∃ ids : List String, p = ids.foldl Project.addDependency l.project := by
  dsimp only [resolve] at h
  split at h
  · cases h
  · cases h
    exact ⟨_, rfl⟩

/-- A project is what the descriptor in a file makes of its declaration, with some
dependencies. -/
def DescribedBy (d : Disk) (source : HostPath) (declared p : Project) : Prop :=
  ∃ (q : Project) (references : List ProjectReference) (ids : List String),
    Descriptor.read d { declared with index := p.index } source = .ok (q, references) ∧
      p = ids.foldl Project.addDependency q

/-- The projects that are loaded are those of the blocks, in order. -/
theorem declarations_of_load {loaded : List Loaded}
    (h : entries.foldlM (loadEntry d file base mappings) [] = .ok loaded) :
    ∃ groups, entries.mapM (projectsOf d base mappings) = .ok groups ∧
      declarations loaded = groups.flatten := by
  obtain ⟨groups, hgroups, hdeclared⟩ :=
    foldlM_append (R := fun e group => projectsOf d base mappings e = .ok group)
      (k := declarations) (fun _ _ _ _ hstep => loadEntry_declared hstep) h
  exact ⟨groups, mapM_eq_ok.2 hgroups, hdeclared⟩

/-- The projects that are loaded are those that are declared. -/
theorem mem_declarations {loaded : List Loaded}
    (h : entries.foldlM (loadEntry d file base mappings) [] = .ok loaded) :
    p ∈ declarations loaded ↔ DeclaredIn d base mappings entries p := by
  obtain ⟨groups, hgroups, hdeclared⟩ := declarations_of_load h
  rw [hdeclared, List.mem_flatten]
  constructor
  · rintro ⟨group, hgroup, hp⟩
    obtain ⟨e, he, hprojects⟩ := (mem_iff_of_mapM_eq_ok hgroups).1 hgroup
    exact ⟨e, he, (mem_projectsOf hprojects).1 hp⟩
  · rintro ⟨e, he, hp⟩
    obtain ⟨group, hgroup, hprojects⟩ := exists_of_mapM_eq_ok hgroups he
    exact ⟨group, hgroup, (mem_projectsOf hprojects).2 hp⟩

section

variable {s : Solution} {lines : List String} {text : SolutionText}
  (h : load d file mappings = .ok s) (hlines : readLines d file = .ok lines)
  (htext : SolutionText.parse lines = .ok text)
include h hlines htext

/-- Every block of a solution that is loaded stands for projects. -/
theorem exists_projectsOf (he : e ∈ text.entries) :
    ∃ ps, projectsOf d file.parent mappings e = .ok ps := by
  obtain ⟨lines', text', loaded, hlines', htext', hloaded, -⟩ := load_eq_ok.1 h
  cases hlines.symm.trans hlines'
  cases htext.symm.trans htext'
  obtain ⟨groups, hgroups, -⟩ := declarations_of_load hloaded
  obtain ⟨ps, -, hps⟩ := exists_of_mapM_eq_ok hgroups he
  exact ⟨ps, hps⟩

/-- Every project that is declared is loaded. -/
theorem exists_of_declaredIn (hp : DeclaredIn d file.parent mappings text.entries p) :
    ∃ q ∈ s.projects, q.declaration = p := by
  obtain ⟨lines', text', loaded, hlines', htext', hloaded, hprojects, -⟩ := load_eq_ok.1 h
  cases hlines.symm.trans hlines'
  cases htext.symm.trans htext'
  obtain ⟨l, hl, hproject⟩ := List.mem_map.1 ((mem_declarations hloaded).2 hp)
  obtain ⟨q, hq, hresolve⟩ := exists_of_mapM_eq_ok hprojects hl
  exact ⟨q, hq, (resolve_eq_ok hresolve).1.declaration.trans hproject⟩

end

/-- Every project of a solution is declared in one way only, and is read from the
descriptor that is found for it. -/
theorem load_declared {s : Solution} {lines : List String} {text : SolutionText}
    (h : load d file mappings = .ok s) (hlines : readLines d file = .ok lines)
    (htext : SolutionText.parse lines = .ok text) (hp : p ∈ s.projects) :
    DeclaredIn d file.parent mappings text.entries p.declaration ∧
      (∀ other, DeclaredIn d file.parent mappings text.entries other → other.id = p.id →
        other = p.declaration) ∧
      ∃ source, descriptorFile file.parent mappings p.name p.path = .ok source ∧
        DescribedBy d source p.declaration p := by
  obtain ⟨lines', text', loaded, hlines', htext', hloaded, hprojects, -⟩ := load_eq_ok.1 h
  cases hlines.symm.trans hlines'
  cases htext.symm.trans htext'
  obtain ⟨l, hl, hresolve⟩ := (mem_iff_of_mapM_eq_ok hprojects).1 hp
  have hkeeps := (resolve_eq_ok hresolve).1
  have hmem : p.declaration ∈ declarations loaded := by
    rw [hkeeps.declaration]
    exact List.mem_map_of_mem hl
  refine ⟨(mem_declarations hloaded).1 hmem, fun other hother hid => ?_, ?_⟩
  · have hids : (declarations loaded).map (·.id) = s.projects.map (·.id) := by
      rw [declarations, List.map_map]
      exact (map_of_mapM_eq_ok hprojects fun _ _ h => (resolve_eq_ok h).1.id).symm
    exact List.inj_on_of_nodup_map (hids ▸ (wellNumbered_of_load h).1.ids)
      ((mem_declarations hloaded).2 hother) hmem hid
  · obtain ⟨source, hsource, hread⟩ :=
      foldlM_induction (fun done => ∀ l ∈ done, IsRead d file.parent mappings l)
        (fun _ _ _ _ hdone => loadEntry_read hdone) (by simp) hloaded l hl
    obtain ⟨ids, hids⟩ := eq_of_resolve hresolve
    refine ⟨source, ?_, l.project, l.references, ids, ?_, hids⟩
    · rw [hkeeps.name, hkeeps.path]
      exact hsource
    · rw [hkeeps.declaration, hkeeps.index]
      exact hread

/-! ## Ordered solutions -/

/-- A project of an ordered solution is where one declaration says, which no other declaration
has the identifier of. -/
structure Located (d : Disk) (base : HostPath) (mappings : List PathMapping)
    (entries : List SolutionEntry) (declared p : Project) : Prop where
  declares : DeclaredIn d base mappings entries declared
  unique : ∀ other, DeclaredIn d base mappings entries other → other.id = p.id → other = declared
  id : declared.id = p.id
  path : p.path = mapPath mappings declared.path
  path_local : isRemote p.path = false
  /-- The place where the descriptor is looked for when the solution is loaded. -/
  file : descriptorFile base mappings declared.name declared.path = .ok (fileAt base p.path)
  described : ∃ q, DescribedBy d (fileAt base p.path) declared q ∧ p = q.mapPaths mappings

end Solution

open Solution

/-- Every project of an ordered solution is where its declared path is mapped to, and its
descriptor was read from there. -/
theorem loadOrdered_located {d : Disk} {r : Request} {os : OrderedSolution}
    (h : loadOrdered d r = .ok os) :
    ∃ mappings file lines text, PathMapping.ofPairs r.mappings = .ok mappings ∧
      Solution.locate d r.solution r.folder = .ok file ∧ readLines d file = .ok lines ∧
      SolutionText.parse lines = .ok text ∧
      ∀ p ∈ os.order.projects, ∃ declared,
        Located d file.parent mappings text.entries declared p := by
  obtain ⟨mappings, file, s, hmappings, hfile, hload, horder⟩ := loadOrdered_eq_ok h
  obtain ⟨lines, text, -, hlines, htext, -⟩ := load_eq_ok.1 hload
  refine ⟨mappings, file, lines, text, hmappings, hfile, hlines, htext, fun p hp => ?_⟩
  obtain ⟨q, hq, rfl⟩ := List.mem_map.1 (BuildOrder.mem_of_ofProjects horder hp)
  obtain ⟨hdeclares, hunique, source, hsource, hread⟩ := load_declared hload hlines htext hq
  obtain ⟨hlocal, rfl⟩ := descriptorFile_eq_ok.1 hsource
  exact ⟨q.declaration, hdeclares, hunique, rfl, rfl, Bool.eq_false_iff.2 hlocal, hsource,
    q, hread, rfl⟩

/-! ## A web project -/

/-- A solution with a project that it declares by URL. -/
def webLines : List String :=
  ["Microsoft Visual Studio Solution File, Format Version 8.00",
    "Project(\"{FAE04EC0-301F-11D3-BF4B-00C04F79EFBC}\") = \"Web\", " ++
      "\"http://localhost/Web/Web.csproj\", \"{W}\"",
    "EndProject"]

/-- A descriptor that leaves everything to the defaults. -/
def webDescriptor : List String := ["<Project/>"]

/-- A disk with the solution, and with the descriptor in two places. -/
def webDisk : Disk where
  tree := ⟨[(["Work"], .folder), (["Work", "Web.sln"], plainFile webLines),
    (["Work", "site"], .folder), (["Work", "site", "Web.csproj"], plainFile webDescriptor),
    (["Work", "site", "Web"], .folder),
    (["Work", "site", "Web", "Web.csproj"], plainFile webDescriptor)]⟩
  home := ["Work"]

/-- The project as the solution declares it. -/
def webProject : Project :=
  { id := "{W}", name := "Web", path := "http://localhost/Web/Web.csproj" }

/-- The project with its two default configurations. -/
def webConfigured : Project :=
  { webProject with
    assemblyName := "Web"
    rootNamespace := "Web"
    configurations := [("Debug", { name := "Debug", outputPath := "bin\\Debug\\" }),
      ("Release", { name := "Release", outputPath := "bin\\Release\\" })] }

/-- The project as it is loaded. -/
def webLoaded : Project :=
  { webConfigured with outputPath := "http://localhost/Web\\bin\\Debug\\Web.dll" }

/-- The block of the solution. -/
def webEntry : SolutionEntry :=
  ⟨"{FAE04EC0-301F-11D3-BF4B-00C04F79EFBC}", "Web", "http://localhost/Web/Web.csproj", "{W}", 2, []⟩

theorem readLines_web : readLines webDisk ⟨.relative, ["Web.sln"]⟩ = .ok webLines :=
  readLines_plainFile rfl (by decide)

theorem parse_webLines : SolutionText.parse webLines = .ok ⟨"8.00", [webEntry], []⟩ := by
  decide

theorem parse_webDescriptor :
    Xml.Document.parse (Text.asciiBytes (Text.unlines webDescriptor)) =
      .ok ⟨"Project", [], []⟩ := by
  have hplain : (webDescriptor.getD 0 "").toList.all Text.isPlain := by decide
  have hline : (webDescriptor.getD 0 "").toList ++ ['\n'] =
      '<' :: ("Project".toList ++ '/' :: '>' :: ['\n']) := by
    decide
  have hname : Xml.isPlainName "Project".toList = true := by decide
  have htag : Xml.Reaches {} {} ('<' :: ("Project".toList ++ '/' :: '>' :: ['\n']))
      ⟨[], some ⟨"Project", [], []⟩⟩ ['\n'] :=
    Xml.reaches_startTag rfl hname Xml.attributes_nil rfl rfl (Xml.endsTag_tight _)
      (by simp only [List.length_cons]; omega)
  exact Xml.Document.parse_line hplain hline hname htag

section

variable {mappings : List PathMapping} {file : HostPath}
  (hfile : descriptorFile ⟨.relative, []⟩ mappings "Web" webProject.path = .ok file)
  (hbytes : webDisk.read file = .ok (Text.asciiBytes (Text.unlines webDescriptor)))
  (hproperties : Descriptor.Properties.read webDisk webProject ⟨"Project", [], []⟩ file =
    .ok (webConfigured, []))

include hbytes hproperties in
theorem read_webProject : Descriptor.read webDisk webProject file = .ok (webLoaded, []) := by
  have hname : Xml.Element.localName ⟨"Project", [], []⟩ = "Project" := by cbv
  have houtput : Descriptor.outputPathOf webConfigured = webLoaded.outputPath := by decide
  rw [Descriptor.read, Descriptor.load, hbytes]
  simp only [parse_webDescriptor, bind, Except.bind, pure, Except.pure, hname, hproperties, houtput,
    webLoaded]

include hfile hbytes hproperties

/-- Wherever the mappings find the descriptor, the solution is loaded with the project. -/
theorem load_web :
    load webDisk ⟨.relative, ["Web.sln"]⟩ mappings = .ok ⟨"Web.sln", "8.00", [webLoaded]⟩ := by
  have hbuildable : "{FAE04EC0-301F-11D3-BF4B-00C04F79EFBC}" ∈ buildableTypes := by decide
  have hread := read_webProject hbytes hproperties
  simp only [webProject] at hfile hread
  refine load_eq_ok.2
    ⟨webLines, _, [⟨webLoaded, [], 2⟩], readLines_web, parse_webLines, ?_, rfl, rfl, rfl⟩
  simp [List.foldlM, webEntry, loadEntry, projectsOf, hbuildable, loadProject, bind, Except.bind,
    pure, Except.pure, HostPath.parent, hfile, hread]

theorem loadOrdered_web {pairs : List (List String)} {p : Project}
    (hpairs : PathMapping.ofPairs pairs = .ok mappings) (hp : webLoaded.mapPaths mappings = p) :
    loadOrdered webDisk { solution := some ⟨.relative, ["Web.sln"]⟩, mappings := pairs } =
      .ok ⟨"Web", ⟨[p]⟩⟩ := by
  have horder (path output : String) :
      BuildOrder.ofProjects [{ webLoaded with path := path, outputPath := output }] =
        .ok ⟨[{ webLoaded with path := path, outputPath := output }]⟩ := by
    cbv
  have hname : Solution.name ⟨"Web.sln", "8.00", [webLoaded]⟩ = "Web" := by decide
  rw [loadOrdered_of_load hpairs rfl (load_web hfile hbytes hproperties), hname, ← hp]
  exact congrArg _ (horder _ _)

end

/-- Rules of which the second undoes the first, and the third fits every path. -/
def webMappings : List PathMapping :=
  [⟨"http://localhost/", "site/"⟩, ⟨"site/", "http://localhost/"⟩, ⟨"", "other/"⟩]

/-- A request with these rules. -/
def webRequest : Request where
  solution := some ⟨.relative, ["Web.sln"]⟩
  mappings := [["http://localhost/", "site/"], ["site/", "http://localhost/"], ["", "other/"]]

theorem ofPairs_webRequest : PathMapping.ofPairs webRequest.mappings = .ok webMappings := rfl

/-- The project as the rules map it. -/
def webMapped : Project :=
  { webLoaded with
    path := "site/Web/Web.csproj"
    outputPath := "site/Web\\bin\\Debug\\Web.dll" }

theorem loadOrdered_webRequest : loadOrdered webDisk webRequest = .ok ⟨"Web", ⟨[webMapped]⟩⟩ :=
  @loadOrdered_web webMappings ⟨.relative, ["site", "Web", "Web.csproj"]⟩ (by decide) rfl
    (by decide) _ _ ofPairs_webRequest (by decide)

/-- The project is mapped once, by the first rule, wherever its path is asked for. -/
theorem loadOrdered_located_web :
    ∃ os, loadOrdered webDisk webRequest = .ok os ∧
      os.order.projects.map (·.path) = ["site/Web/Web.csproj"] ∧
      ∃ mappings file lines text, PathMapping.ofPairs webRequest.mappings = .ok mappings ∧
        locate webDisk webRequest.solution webRequest.folder = .ok file ∧
        readLines webDisk file = .ok lines ∧ SolutionText.parse lines = .ok text ∧
        ∀ p ∈ os.order.projects, ∃ declared,
          Located webDisk file.parent mappings text.entries declared p :=
  ⟨_, loadOrdered_webRequest, rfl, loadOrdered_located loadOrdered_webRequest⟩

end SolutionScript
