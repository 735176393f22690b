import SolutionScript.Proofs.Conversion
import SolutionScript.Proofs.Solution.DescriptorPath
import SolutionScript.Proofs.Solution.Dialects

/-!
# Targets of makefiles

The rules of an NMAKE script are for the assembly of each project and for each of its resources that
is compiled. Their targets stand at the starts of lines (`heads_ruleLines`). They differ if and only
if no two assemblies have one name and no two resources are compiled to one file
(`nodup_scriptTargets`); the projects of a loaded solution have different names, but neither the
names of assemblies nor those of resources follow from these.
-/

namespace SolutionScript.NMake

open FileSystem Makefile Text

/-! ## Lines that start rules -/

/-- The targets of the rules of a project. -/
def targets (p : Project) : List String :=
  artifact p :: p.resxFiles.map fun f => quote (compiledResource p f)

/-- The targets of the rules of all projects. -/
def scriptTargets (o : BuildOrder) : List String := o.projects.flatMap targets

/-- Whether a line starts a rule: it is neither empty nor a command nor a comment. -/
def isHead (line : String) : Bool :=
  line != "" && !isCommand line.toList && line.toList.head? != some '#'

/-- The line that starts a rule. -/
def ruleLine (r : Rule) : String := dependencyLine r.target r.prerequisites

/-- Those of some lines that start rules start these, in order. -/
def WritesRules (lines : List String) (rs : List Rule) : Prop :=
  lines.filter isHead = rs.map ruleLine

theorem WritesRules.append {lines more : List String} {rs rs' : List Rule}
    (h : WritesRules lines rs) (h' : WritesRules more rs') :
    WritesRules (lines ++ more) (rs ++ rs') := by
  rw [WritesRules, List.filter_append, List.map_append, h, h']

theorem WritesRules.flatMap {α : Type} {l : List α} {f : α → List String} {g : α → List Rule}
    (h : ∀ a ∈ l, WritesRules (f a) (g a)) : WritesRules (l.flatMap f) (l.flatMap g) := by
  rw [WritesRules, List.filter_flatMap, List.map_flatMap]
  exact List.flatMap_congr h

theorem writesRules_nil {lines : List String} (h : ∀ line ∈ lines, isHead line = false) :
    WritesRules lines [] :=
  List.filter_eq_nil_iff.2 (by simpa using h)

theorem writesRules_singleton {r : Rule} (h : isHead (ruleLine r) = true) :
    WritesRules [ruleLine r] [r] :=
  List.filter_cons_of_pos h

/-- A line starts the rule of a target. -/
def Heads (line target : String) : Prop := ∃ rest, line = target ++ ":" ++ rest

/-- Those of some lines that start rules do so for some targets, in order. -/
def HeadsOf (lines ts : List String) : Prop := List.Forall₂ Heads (lines.filter isHead) ts

theorem WritesRules.headsOf {lines : List String} {rs : List Rule} (h : WritesRules lines rs) :
    HeadsOf lines (rs.map (·.target)) := by
  rw [HeadsOf, h, List.forall₂_map_left_iff, List.forall₂_map_right_iff, List.forall₂_same]
  exact fun r _ => ⟨_, rfl⟩

theorem isHead_command {line : String} (h : isCommand line.toList = true) :
    isHead line = false := by
  simp [isHead, h]

theorem isHead_artifact (p : Project) (rest : String) : isHead (artifact p ++ rest) = true := by
  simp [isHead, isCommand, artifact, baseReference]

theorem isHead_compiledResource (p : Project) (f : ProjectFile) (rest : String) :
    isHead (quote (compiledResource p f) ++ rest) = true := by
  rw [quote]
  split <;> simp [isHead, isCommand, compiledResource, resourceFolder, baseReference]

/-! ## Rules as they are written -/

/-- The rule for all assemblies. -/
def allRule (o : BuildOrder) : Rule := ⟨"all", o.projects.map artifact⟩

/-- The rule for the assembly of a project. -/
def assemblyRule (needed : List Project) (p : Project) : Rule :=
  ⟨artifact p, (prerequisites needed p).map quote⟩

/-- The rule for a resource that is compiled. -/
def compiledRule (p : Project) (f : ProjectFile) : Rule :=
  ⟨quote (compiledResource p f), [quote (p.resolve f.relativePath)]⟩

/-- The rules of a script, with the quotes that they are written with. -/
def writtenRules (o : BuildOrder) : List Rule :=
  allRule o :: (o.projects.flatMap (fun p => assemblyRule (o.needed p) p ::
    p.resxFiles.map (compiledRule p)) ++ [⟨"clean", []⟩])

theorem writesRules_resourceRule (p : Project) (f : ProjectFile) :
    WritesRules (resourceRule p f) [compiledRule p f] := by
  have hline : quote (compiledResource p f) ++ ": " ++ quote (p.resolve f.relativePath) =
      ruleLine (compiledRule p f) := by
    simp [← String.toList_inj, ruleLine, dependencyLine, compiledRule, Text.join]
  have hhead : isHead (ruleLine (compiledRule p f)) = true := by
    rw [ruleLine, dependencyLine, String.append_assoc]
    exact isHead_compiledResource p f _
  have hrest : WritesRules [makeFolder (resourceFolder p), "\t$(RESGEN) /nologo " ++
      quote (p.resolve f.relativePath) ++ " " ++ quote (compiledResource p f), ""] [] := by
    refine writesRules_nil (List.forall_mem_cons.2 ⟨isHead_command (isCommand_makeFolder _),
      List.forall_mem_cons.2 ⟨isHead_command ?_, by simp [isHead]⟩⟩)
    exact isCommand_append (isCommand_append (isCommand_append (by decide)))
  rw [resourceRule, hline]
  exact (writesRules_singleton hhead).append hrest

theorem writesRules_projectRules (configuration : String) (p : Project) (needed : List Project) :
    WritesRules (projectRules configuration p needed)
      (assemblyRule needed p :: p.resxFiles.map (compiledRule p)) := by
  have hcomment : WritesRules ["# " ++ p.name] [] :=
    writesRules_nil (List.forall_mem_singleton.2 (by simp [isHead]))
  have hline : WritesRules [ruleLine (assemblyRule needed p)] [assemblyRule needed p] :=
    writesRules_singleton (by
      rw [ruleLine, dependencyLine, String.append_assoc]
      exact isHead_artifact p _)
  have hcommand : isCommand ("\t" ++ compilerMacro p.kind ++ " " ++ Text.join continuation
      (flags needed p (p.configuration configuration) ++ (sources p).map quote)).toList = true :=
    isCommand_append (isCommand_append (isCommand_append (by decide)))
  have hrest : WritesRules [makeFolder baseReference, "\t" ++ compilerMacro p.kind ++ " " ++
      Text.join continuation
        (flags needed p (p.configuration configuration) ++ (sources p).map quote), ""] [] :=
    writesRules_nil (List.forall_mem_cons.2 ⟨isHead_command (isCommand_makeFolder _),
      List.forall_mem_cons.2 ⟨isHead_command hcommand, by simp [isHead]⟩⟩)
  have hresources : WritesRules (p.resxFiles.flatMap (resourceRule p))
      (p.resxFiles.flatMap fun f => [compiledRule p f]) :=
    WritesRules.flatMap fun f _ => writesRules_resourceRule p f
  rw [← List.map_eq_flatMap] at hresources
  exact (hcomment.append (hline.append hrest)).append hresources

theorem writesRules_cleanRule (o : BuildOrder) : WritesRules (cleanRule o) [⟨"clean", []⟩] := by
  have htarget : WritesRules ["clean:"] [⟨"clean", []⟩] :=
    @writesRules_singleton ⟨"clean", []⟩ (by decide)
  have hcommand {before middle s : String} (h : isCommand before.toList = true) :
      isHead (before ++ s ++ middle ++ s ++ "\"") = false :=
    isHead_command (isCommand_append (isCommand_append (isCommand_append (isCommand_append h))))
  have hrest : WritesRules (cleanRule o).tail [] := by
    refine writesRules_nil ?_
    rw [cleanRule, List.cons_append, List.tail_cons, List.forall_mem_append, List.forall_mem_map,
      List.forall_mem_map]
    exact ⟨fun p _ => hcommand (by decide), fun folder _ => hcommand (by decide)⟩
  exact htarget.append hrest

/-- The lines of a script that start rules are the one for all assemblies, those for the projects
and their resources, and the one for deleting. -/
theorem writesRules_ruleLines (o : BuildOrder) (configuration : String) :
    WritesRules (ruleLines o configuration) (writtenRules o) := by
  have hall : WritesRules [ruleLine (allRule o), ""] [allRule o] :=
    (writesRules_singleton (by
      rw [ruleLine, dependencyLine, String.append_assoc]
      simp [allRule, isHead, isCommand])).append (writesRules_nil (by simp [isHead]))
  have hprojects := WritesRules.flatMap fun p (_ : p ∈ o.projects) =>
    writesRules_projectRules configuration p (o.needed p)
  rw [ruleLines, List.append_assoc]
  exact hall.append (hprojects.append (writesRules_cleanRule o))

/-- The lines of a script that start rules are those for all projects, for the targets of each
project, and for deleting. -/
theorem headsOf_ruleLines (o : BuildOrder) (configuration : String) :
    HeadsOf (ruleLines o configuration) ("all" :: (scriptTargets o ++ ["clean"])) := by
  have htargets : (writtenRules o).map (·.target) = "all" :: (scriptTargets o ++ ["clean"]) := by
    rw [writtenRules, List.map_cons, List.map_append, List.map_flatMap]
    simp only [List.map_cons, List.map_map]
    rfl
  exact htargets ▸ (writesRules_ruleLines o configuration).headsOf

/-- Of projects that are read as they are written, the rules have these targets. -/
theorem map_target_scriptRules {o : BuildOrder} (h : ∀ p ∈ o.projects, Readable p) :
    (scriptRules o).map (·.target) = "all" :: (scriptTargets o ++ ["clean"]) := by
  have htargets : o.projects.flatMap (fun p => (ruleOf (o.needed p) p :: resourceRules p).map
      (·.target)) = scriptTargets o := by
    refine List.flatMap_congr fun p hp => ?_
    rw [targets, List.map_cons, resourceRules, List.map_map]
    refine congrArg₂ _ rfl (List.map_congr_left fun f hf => ?_)
    exact (quote_eq (isPath_compiledResource (h p hp) hf)).symm
  rw [scriptRules, List.map_cons, List.map_append, List.map_flatMap, htargets]
  rfl

theorem map_target_rules {o : BuildOrder} (h : ∀ p ∈ o.projects, Readable p)
    (hneeded : ∀ p ∈ o.projects, o.dependencies p = .ok (o.needed p)) (configuration : String) :
    (rules (String.ofList (withEnds ['\n'] (ruleLines o configuration)))).map (·.target) =
      "all" :: (scriptTargets o ++ ["clean"]) := by
  have hneeds : ∀ p ∈ o.projects, o.Needs p (o.needed p) := fun p hp =>
    BuildOrder.needs_of_dependencies (hneeded p hp)
  rw [(reads_ruleLines h hneeds configuration).rules_eq, map_target_scriptRules h]

/-! ## Targets that differ -/

/-- The names of the files that the resources of a project are compiled to, below the folder for
those of all projects. -/
def resourcePaths (p : Project) : List String :=
  p.resxFiles.map fun f => p.name ++ "\\" ++ p.resourceName f

theorem quote_injective : Function.Injective quote := by
  have hne {s t : String} (hs : ' ' ∈ s.toList) (ht : ' ' ∉ t.toList) : "\"" ++ s ++ "\"" ≠ t := by
    rintro rfl
    exact ht (by simp [hs])
  intro s t h
  rw [quote, quote] at h
  simp only [List.contains_iff_mem] at h
  split_ifs at h with hs ht ht
  · rwa [String.append_left_inj, String.append_right_inj] at h
  · exact absurd h (hne hs ht)
  · exact absurd h.symm (hne ht hs)
  · exact h

theorem getLast?_quote_or (s : String) :
    (quote s).toList.getLast? = some '"' ∨ (quote s).toList.getLast? = s.toList.getLast? := by
  rw [quote]
  split
  · exact .inl (getLast?_append (by decide))
  · exact .inr rfl

theorem getLast?_artifact_mem (p : Project) :
    (artifact p).toList.getLast? ∈ [some 'l', some 'e'] := by
  have hend : ∀ s ∈ [".dll", ".netmodule", ".exe"],
      s.toList ≠ [] ∧ s.toList.getLast? ∈ [some 'l', some 'e'] := by
    decide
  obtain ⟨hne, hlast⟩ := hend _ (Project.targetOf_mem p.outputType)
  rwa [artifact, Project.outputFile, getLast?_append (by simp [hne]), getLast?_append hne]

/-- No assembly is a compiled resource: their extensions are different. -/
theorem artifact_ne_compiledResource {p q : Project} {f : ProjectFile} (hf : f ∈ q.resxFiles) :
    artifact p ≠ quote (compiledResource q f) := by
  have hartifact := getLast?_artifact_mem p
  have hresource : (compiledResource q f).toList.getLast? = some 's' := by
    obtain ⟨s, hs⟩ := @exists_resourceName q f (List.mem_filter.1 hf).2
    rw [compiledResource, hs, getLast?_append (by simp), getLast?_append (by decide)]
    decide
  intro heq
  rw [heq] at hartifact
  rcases getLast?_quote_or (compiledResource q f) with h | h
  · rw [h] at hartifact
    exact absurd hartifact (by decide)
  · rw [h, hresource] at hartifact
    exact absurd hartifact (by decide)

/-- The targets of a script differ if and only if the names of assemblies do, and the files that
resources are compiled to. -/
theorem nodup_scriptTargets {o : BuildOrder} :
    (scriptTargets o).Nodup ↔
      (o.projects.map (·.outputFile)).Nodup ∧ (o.projects.flatMap resourcePaths).Nodup := by
  have hartifacts : o.projects.map artifact =
      (o.projects.map (·.outputFile)).map ((baseReference ++ "\\") ++ ·) := by
    rw [List.map_map]
    rfl
  have hresources :
      o.projects.flatMap (fun p => p.resxFiles.map fun f => quote (compiledResource p f)) =
        (o.projects.flatMap resourcePaths).map
          fun s => quote (baseReference ++ "\\obj\\" ++ s) := by
    rw [List.map_flatMap]
    refine List.flatMap_congr fun p _ => ?_
    rw [resourcePaths, List.map_map]
    refine List.map_congr_left fun f _ => ?_
    simp [compiledResource, resourceFolder, String.append_assoc]
  have hsplit := (List.map_append_flatMap_perm o.projects artifact fun p =>
    p.resxFiles.map fun f => quote (compiledResource p f)).nodup_iff
  have hdisjoint : List.Disjoint (o.projects.map artifact)
      (o.projects.flatMap fun p => p.resxFiles.map fun f => quote (compiledResource p f)) := by
    intro t ht ht'
    obtain ⟨p, -, rfl⟩ := List.mem_map.1 ht
    obtain ⟨q, -, hq⟩ := List.mem_flatMap.1 ht'
    obtain ⟨f, hf, heq⟩ := List.mem_map.1 hq
    exact artifact_ne_compiledResource hf heq.symm
  rw [List.nodup_append', and_iff_left hdisjoint, hartifacts, hresources,
    List.nodup_map_iff fun _ _ h => (String.append_right_inj _).1 h,
    List.nodup_map_iff fun _ _ h => (String.append_right_inj _).1 (quote_injective h)] at hsplit
  exact hsplit.symm

/-- What stands before the name of a resource. -/
def resourcePrefix (p : Project) : String :=
  if p.rootNamespace = "" then "" else p.rootNamespace ++ "."

theorem resourceName_eq {p : Project} {f : ProjectFile} (hf : f ∈ p.resxFiles) :
    p.resourceName f =
      resourcePrefix p ++ DescriptorPath.stem f.relativePath ++ ".resources" := by
  have hresx : f.isResx = true := (List.mem_filter.1 hf).2
  rw [Project.resourceName, resourcePrefix]
  simp only [hresx, if_true]
  split <;> simp [← String.toList_inj]

/-- A path up to its last backslash. -/
theorem eq_of_append_backslash {s t name name' : String} (hname : '\\' ∉ name.toList)
    (hname' : '\\' ∉ name'.toList) (h : s ++ "\\" ++ name = t ++ "\\" ++ name') : s = t := by
  have hdrop {s name : String} (hname : '\\' ∉ name.toList) :
      (s ++ "\\" ++ name).toList.reverse.dropWhile (· != '\\') = '\\' :: s.toList.reverse := by
    have hrun : ∀ c ∈ name.toList.reverse, (c != '\\') = true := fun c hc =>
      bne_iff_ne.2 fun heq => hname (heq ▸ List.mem_reverse.1 hc)
    have htext : (s ++ "\\" ++ name).toList.reverse =
        name.toList.reverse ++ '\\' :: s.toList.reverse := by
      simp
    rw [htext, dropWhile_run hrun (by simp)]
  have hdrops := (hdrop hname).symm.trans (h ▸ hdrop hname')
  rwa [List.cons.injEq, and_iff_right rfl, List.reverse_inj, String.toList_inj] at hdrops

/-- Where names of projects differ and no root namespace has a backslash, resources of different
projects are compiled to different files, and so are those of one project with different names. -/
theorem nodup_resourcePaths {o : BuildOrder} (hnames : (o.projects.map (·.name)).Nodup)
    (h : ∀ p ∈ o.projects, '\\' ∉ p.rootNamespace.toList) :
    (o.projects.flatMap resourcePaths).Nodup ↔
      ∀ p ∈ o.projects, (p.resxFiles.map fun f => DescriptorPath.stem f.relativePath).Nodup := by
  have hown (p : Project) : (resourcePaths p).Nodup ↔
      (p.resxFiles.map fun f => DescriptorPath.stem f.relativePath).Nodup := by
    have hpaths : resourcePaths p =
        (p.resxFiles.map fun f => DescriptorPath.stem f.relativePath).map fun stem =>
          p.name ++ "\\" ++ (resourcePrefix p ++ stem ++ ".resources") := by
      rw [resourcePaths, List.map_map]
      exact List.map_congr_left fun f hf => by rw [resourceName_eq hf]; rfl
    rw [hpaths, List.nodup_map_iff]
    intro s t hst
    rwa [String.append_right_inj, String.append_left_inj, String.append_right_inj] at hst
  have hbackslash : ∀ p ∈ o.projects, ∀ f ∈ p.resxFiles, '\\' ∉ (p.resourceName f).toList := by
    intro p hp f hf hmem
    have hstem := DescriptorPath.not_isSeparator_stem f.relativePath '\\'
    rw [resourceName_eq hf, resourcePrefix] at hmem
    split at hmem <;> simp_all [DescriptorPath.isSeparator]
  have hdisjoint : o.projects.Pairwise (Function.onFun List.Disjoint resourcePaths) := by
    refine (List.pairwise_map.1 hnames).imp_of_mem fun {p q} hp hq hne s hs hs' => hne ?_
    obtain ⟨f, hf, rfl⟩ := List.mem_map.1 hs
    obtain ⟨g, hg, heq⟩ := List.mem_map.1 hs'
    exact eq_of_append_backslash (hbackslash p hp f hf) (hbackslash q hq g hg) heq.symm
  rw [List.nodup_flatMap, and_iff_left hdisjoint]
  exact forall₂_congr fun p _ => hown p

/-! ## Loaded solutions -/

theorem nodup_names_of_loadOrdered {d : Disk} {r : Request} {s : OrderedSolution}
    (h : loadOrdered d r = .ok s) : (s.order.projects.map (·.name)).Nodup := by
  obtain ⟨mappings, file, solution, -, -, hload, horder⟩ := loadOrdered_eq_ok h
  have hnumbered := (Solution.wellNumbered_of_load hload).1.mapPaths mappings
  have hleast := (BuildOrder.ofProjects_eq_ok hnumbered.ids horder).2.2
  exact (hleast.perm.map _).nodup_iff.2 hnumbered.names

/-- The targets in the script of a loaded solution differ if and only if the names of its assemblies
do, and the files that its resources are compiled to. Where no root namespace has a backslash, the
latter means that no project has two resources to compile with one name, be it in two folders. -/
theorem nodup_targets_of_loadOrdered {d : Disk} {r : Request} {s : OrderedSolution}
    (h : loadOrdered d r = .ok s) (m : Parameters) :
    ∃ rest, script s.order m s.name = .ok (preamble m s.name ++ rest) ∧
      rest = String.ofList (withEnds ['\n'] (ruleLines s.order m.configurationName)) ∧
      HeadsOf (ruleLines s.order m.configurationName)
        ("all" :: (scriptTargets s.order ++ ["clean"])) ∧
      ((∀ p ∈ s.order.projects, Readable p) →
        (rules rest).map (·.target) = "all" :: (scriptTargets s.order ++ ["clean"])) ∧
      ((scriptTargets s.order).Nodup ↔ (s.order.projects.map (·.outputFile)).Nodup ∧
        (s.order.projects.flatMap resourcePaths).Nodup) ∧
      ((∀ p ∈ s.order.projects, '\\' ∉ p.rootNamespace.toList) →
        ((scriptTargets s.order).Nodup ↔ (s.order.projects.map (·.outputFile)).Nodup ∧
          ∀ p ∈ s.order.projects,
            (p.resxFiles.map fun f => DescriptorPath.stem f.relativePath).Nodup)) := by
  have hneeded : ∀ p ∈ s.order.projects, s.order.dependencies p = .ok (s.order.needed p) :=
    fun p hp => BuildOrder.dependencies_needed (exists_dependencies_of_loadOrdered h p hp)
  refine ⟨_, script_eq_ok.2 ⟨hneeded, rfl⟩, rfl, headsOf_ruleLines _ _,
    fun hreadable => map_target_rules hreadable hneeded _, nodup_scriptTargets,
    fun hnamespaces => ?_⟩
  rw [nodup_scriptTargets, nodup_resourcePaths (nodup_names_of_loadOrdered h) hnamespaces]

theorem nodup_targets_of_loadOrdered_chain :
    ∃ o rest, loadOrdered pairDisk chainRequest = .ok ⟨"Chain", o⟩ ∧
      script o [] "Chain" = .ok (preamble [] "Chain" ++ rest) ∧
      scriptTargets o = ["$(BUILD_BASEDIR)\\Core.dll", "$(BUILD_BASEDIR)\\App.dll"] ∧
      (scriptTargets o).Nodup := by
  obtain ⟨a, c, hload⟩ := load_chain
  have hname : Solution.name ⟨"Chain.sln", "8.00",
      [{ appProject with outputPath := a }.addDependency "{C}",
        { coreProject with outputPath := c }]⟩ = "Chain" := by
    simp only [Solution.name]
    decide
  have hordered := @loadOrdered_of_load pairDisk chainRequest _ _ _ rfl rfl hload
  rw [Solution.mapPaths_nil, ofProjects_chain, hname] at hordered
  obtain ⟨rest, hscript, -, -, -, hiff, -⟩ := nodup_targets_of_loadOrdered hordered []
  refine ⟨_, rest, hordered, hscript, ?_, hiff.2 ⟨?_, List.nodup_nil⟩⟩
  · exact (by decide : scriptTargets ⟨[coreProject, appProject]⟩ =
      ["$(BUILD_BASEDIR)\\Core.dll", "$(BUILD_BASEDIR)\\App.dll"])
  · have hfiles : [coreProject, appProject].map (·.outputFile) = ["Core.dll", "App.dll"] := by
      decide
    exact hfiles ▸ (by decide : ["Core.dll", "App.dll"].Nodup)

/-- The descriptor of a project with two resources of one name in two folders. -/
def formsElement : Xml.Element :=
  ⟨"VisualStudioProject", [], [.element "CSHARP" [] [.element "Files" [] [.element "Include" []
    [.element "File" [("RelPath", "Forms\\Main.resx"), ("BuildAction", "EmbeddedResource")] [],
      .element "File" [("RelPath", "Pages\\Main.resx"), ("BuildAction", "EmbeddedResource")] []]]]]⟩

/-- The descriptor of a project whose assembly has the name of another project. -/
def namesakeElement : Xml.Element :=
  ⟨"VisualStudioProject", [], [.element "CSHARP" [] [.element "Build" []
    [.element "Settings" [("AssemblyName", "App")] []]]]⟩

/-- A disk with a solution of these projects. -/
def twiceDisk : Disk where
  tree := ⟨[(["Work"], .folder), (["Work", "Twice.sln"], Solution.plainFile (pairLines [])),
    (["Work", "App.csproj"], documentFile formsElement),
    (["Work", "Core.csproj"], documentFile namesakeElement)]⟩
  home := ["Work"]

/-- The project with the resources. -/
def formsProject : Project :=
  { appProject with
    files := [⟨"Forms\\Main.resx", .embeddedResource⟩, ⟨"Pages\\Main.resx", .embeddedResource⟩] }

/-- The project whose assembly has the name of the other one. -/
def namesakeProject : Project := { coreProject with assemblyName := "App" }

theorem read_forms : ∃ a, Descriptor.read twiceDisk appProject ⟨.relative, ["App.csproj"]⟩ =
    .ok ({ formsProject with outputPath := a }, []) := by
  refine ⟨Descriptor.outputPathOf formsProject, ?_⟩
  have hload := @load_documentFile twiceDisk ⟨.relative, ["App.csproj"]⟩ formsElement
    appProject.name rfl (by decide)
  rw [Descriptor.read, hload]
  decide

theorem read_namesake : ∃ a, Descriptor.read twiceDisk coreProject ⟨.relative, ["Core.csproj"]⟩ =
    .ok ({ namesakeProject with outputPath := a }, []) := by
  refine ⟨Descriptor.outputPathOf namesakeProject, ?_⟩
  have hload := @load_documentFile twiceDisk ⟨.relative, ["Core.csproj"]⟩ namesakeElement
    coreProject.name rfl (by decide)
  rw [Descriptor.read, hload]
  decide

/-- The blocks of two projects are loaded as what their descriptors are read as. -/
theorem loadEntries_pair {d : Disk} {file : HostPath} {p q : Project}
    (hreadApp : Descriptor.read d appProject ⟨.relative, ["App.csproj"]⟩ = .ok (p, []))
    (hreadCore : Descriptor.read d coreProject ⟨.relative, ["Core.csproj"]⟩ = .ok (q, []))
    (hid : p.id = "{A}") (hname : p.name = "App") :
    pairEntries.foldlM (Solution.loadEntry d file ⟨.relative, []⟩ []) [] =
      .ok [⟨p, [], 2⟩, ⟨q, [], 4⟩] := by
  have hbuildable : "{FAE04EC0-301F-11D3-BF4B-00C04F79EFBC}" ∈ Solution.buildableTypes := by decide
  have happ : Solution.descriptorFile ⟨.relative, []⟩ [] "App" "App.csproj" =
      .ok ⟨.relative, ["App.csproj"]⟩ := by decide
  have hcore : Solution.descriptorFile ⟨.relative, []⟩ [] "Core" "Core.csproj" =
      .ok ⟨.relative, ["Core.csproj"]⟩ := by decide
  simp only [appProject, coreProject] at hreadApp hreadCore
  simp [pairEntries, List.foldlM, Solution.loadEntry, Solution.projectsOf, hbuildable,
    Solution.loadProject, bind, Except.bind, pure, Except.pure, happ, hcore, hreadApp, hreadCore,
    hid, hname]

theorem load_twice : ∃ a c, Solution.load twiceDisk ⟨.relative, ["Twice.sln"]⟩ [] =
    .ok ⟨"Twice.sln", "8.00", [{ formsProject with outputPath := a },
      { namesakeProject with outputPath := c }]⟩ := by
  have hlines : Solution.readLines twiceDisk ⟨.relative, ["Twice.sln"]⟩ = .ok (pairLines []) :=
    Solution.readLines_plainFile rfl (isPlain_pairLines (by simp))
  have hparse : SolutionText.parse (pairLines []) = .ok ⟨"8.00", pairEntries, []⟩ := by
    decide
  obtain ⟨a, hreadApp⟩ := read_forms
  obtain ⟨c, hreadCore⟩ := read_namesake
  exact ⟨a, c, Solution.load_eq_ok.2 ⟨_, _, _, hlines, hparse,
    loadEntries_pair hreadApp hreadCore rfl rfl, rfl, rfl, rfl⟩⟩

theorem Readable.withOutputPath {p : Project} (h : Readable p) (path : String) :
    Readable { p with outputPath := path } := by
  have htexts : Project.TextsOver (· ≠ '\n') { p with outputPath := path } :=
    (Project.textsOver_iff _ _).2 ((Project.textsOver_iff _ p).1 h.texts)
  exact ⟨h.name, h.assemblyName, h.rootNamespace, h.path, h.files, h.name_end, h.resolve_end,
    htexts, h.artifact_colon, h.resource_colon⟩

theorem loadOrdered_twice :
    ∃ a c, loadOrdered twiceDisk { solution := some ⟨.relative, ["Twice.sln"]⟩ } =
      .ok ⟨"Twice", ⟨[{ formsProject with outputPath := a },
        { namesakeProject with outputPath := c }]⟩⟩ := by
  obtain ⟨a, c, hload⟩ := load_twice
  have hordered := @loadOrdered_of_load twiceDisk
    { solution := some ⟨.relative, ["Twice.sln"]⟩ } _ _ _ rfl rfl hload
  have horder : BuildOrder.ofProjects [{ formsProject with outputPath := a },
      { namesakeProject with outputPath := c }] = .ok ⟨[{ formsProject with outputPath := a },
        { namesakeProject with outputPath := c }]⟩ := by
    simp only [BuildOrder.ofProjects, BuildOrder.unresolved?, ← Option.not_isSome]
    cbv
  have hname : Solution.name ⟨"Twice.sln", "8.00", [{ formsProject with outputPath := a },
      { namesakeProject with outputPath := c }]⟩ = "Twice" := by
    simp only [Solution.name]
    decide
  rw [Solution.mapPaths_nil, horder, hname] at hordered
  exact ⟨a, c, hordered⟩

/-- In the script of the solution, two targets are defined twice: two resources of one project are
compiled to one file, and the assemblies of two projects have one name. -/
theorem targets_twice :
    ∃ o text rest, loadOrdered twiceDisk { solution := some ⟨.relative, ["Twice.sln"]⟩ } =
        .ok ⟨"Twice", o⟩ ∧
      script o [] "Twice" = .ok text ∧ text = preamble [] "Twice" ++ rest ∧
      (rules rest).map (·.target) = ["all", "$(BUILD_BASEDIR)\\App.dll",
        "$(BUILD_BASEDIR)\\obj\\App\\Main.resources",
        "$(BUILD_BASEDIR)\\obj\\App\\Main.resources", "$(BUILD_BASEDIR)\\App.dll", "clean"] ∧
      ¬ (scriptTargets o).Nodup := by
  obtain ⟨a, c, hordered⟩ := loadOrdered_twice
  have hneeded := fun p hp => BuildOrder.dependencies_needed
    (exists_dependencies_of_loadOrdered hordered p hp)
  have hreadable : ∀ p ∈ [{ formsProject with outputPath := a },
      { namesakeProject with outputPath := c }], Readable p := by
    rw [List.forall_mem_cons, List.forall_mem_singleton]
    exact ⟨Readable.withOutputPath (by decide) a, Readable.withOutputPath (by decide) c⟩
  have hpaths : scriptTargets ⟨[{ formsProject with outputPath := a },
      { namesakeProject with outputPath := c }]⟩ =
        scriptTargets ⟨[formsProject, namesakeProject]⟩ := rfl
  have htargets : scriptTargets ⟨[formsProject, namesakeProject]⟩ =
      ["$(BUILD_BASEDIR)\\App.dll", "$(BUILD_BASEDIR)\\obj\\App\\Main.resources",
        "$(BUILD_BASEDIR)\\obj\\App\\Main.resources", "$(BUILD_BASEDIR)\\App.dll"] := by
    decide
  refine ⟨_, _, _, hordered, script_eq_ok.2 ⟨hneeded, rfl⟩, rfl, ?_, ?_⟩
  · rw [map_target_rules hreadable hneeded, hpaths, htargets]
    rfl
  · rw [hpaths, htargets]
    decide

end SolutionScript.NMake
