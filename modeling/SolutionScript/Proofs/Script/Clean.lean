import SolutionScript.Proofs.Script.Targets

/-!
# What cleaning deletes

The last rule of an NMAKE script deletes files and clears folders (`Removes`). It deletes the
assembly of each project and clears the folders of compiled resources, so it removes each of these
whose name does not lead out of its folder (`removed_compiledResource`). The file that a compiler
writes the documentation of a project to is removed only if it has the name of an assembly
(`removed_documentation_iff`).
-/

namespace SolutionScript.NMake

open Text

/-! ## Commands that delete -/

/-- A command that does something to a path if it exists. -/
def ifExists (action path : String) : String :=
  "\t-@if exist \"" ++ path ++ action ++ path ++ "\""

/-- The command that deletes a file. -/
def deleteLine (path : String) : String := ifExists "\" del /q \"" path

/-- The command that deletes a folder with all that is in it. -/
def clearLine (folder : String) : String := ifExists "\" rmdir /s /q \"" folder

/-- Whether a path stays in the folder that it is seen from: no name in it is that of the folder
above. -/
def StaysBelow (path : String) : Prop :=
  ['.', '.'] ∉ path.toList.splitOnP DescriptorPath.isSeparator

instance (path : String) : Decidable (StaysBelow path) := inferInstanceAs (Decidable (_ ∉ _))

/-- A command removes a file: it deletes it, or a folder that it is in. -/
inductive Removes : String → String → Prop
  | deleted (path : String) : Removes (deleteLine path) path
  | cleared (folder : String) {path : String} :
    StaysBelow path → Removes (clearLine folder) (folder ++ "\\" ++ path)

/-- One of some commands removes a file. -/
def Removed (lines : List String) (path : String) : Prop := ∃ line ∈ lines, Removes line path

theorem mem_cleanRule {o : BuildOrder} {line : String} :
    line ∈ cleanRule o ↔ line = "clean:" ∨ (∃ p ∈ o.projects, deleteLine (artifact p) = line) ∨
      ∃ p ∈ o.projects, p.resxFiles ≠ [] ∧ clearLine (resourceFolder p) = line := by
  have hfolders : line ∈ ((o.projects.filter (!·.resxFiles.isEmpty)).map resourceFolder).map
      clearLine ↔ ∃ p ∈ o.projects, p.resxFiles ≠ [] ∧ clearLine (resourceFolder p) = line := by
    simp [and_assoc]
  rw [← hfolders, ← List.mem_map, ← List.mem_append, ← List.mem_cons, ← List.cons_append]
  rfl

/-! ## Telling commands apart -/

theorem length_ifExists (action path : String) :
    (ifExists action path).toList.length = 2 * path.toList.length + action.toList.length + 14 := by
  have hparts : "\t-@if exist \"".toList.length = 13 ∧ "\"".toList.length = 1 := by decide
  simp only [ifExists, String.toList_append, List.length_append]
  omega

/-- The path of a command takes up what its action leaves of it. -/
theorem ifExists_injective (action : String) : Function.Injective (ifExists action) := by
  intro s t h
  have hlen := length_ifExists action s
  rw [h, length_ifExists] at hlen
  rw [ifExists, ifExists, ← String.toList_inj] at h
  simp only [String.toList_append, List.append_assoc] at h
  exact String.toList_inj.1 (List.append_inj (List.append_cancel_left h) (by omega)).1

theorem deleteLine_ne_clearLine (path folder : String) : deleteLine path ≠ clearLine folder := by
  intro h
  have hactions : "\" del /q \"".toList.length = 10 ∧ "\" rmdir /s /q \"".toList.length = 15 := by
    decide
  have hlen := length_ifExists "\" del /q \"" path
  rw [← deleteLine, h, clearLine, length_ifExists] at hlen
  omega

theorem ifExists_ne_clean (action path : String) : ifExists action path ≠ "clean:" := by
  intro h
  have hlen := length_ifExists action path
  have hclean : "clean:".toList.length = 6 := by decide
  rw [h] at hlen
  omega

/-- The commands of the rule that remove a file: one that deletes it as an assembly, or one for a
folder of compiled resources that it is in. -/
theorem removed_cleanRule_iff {o : BuildOrder} {path : String} :
    Removed (cleanRule o) path ↔ (∃ p ∈ o.projects, path = artifact p) ∨
      ∃ p ∈ o.projects, p.resxFiles ≠ [] ∧
        ∃ below, StaysBelow below ∧ path = resourceFolder p ++ "\\" ++ below := by
  constructor
  · rintro ⟨line, hline, hremoves⟩
    cases hremoves with
    | deleted =>
      rcases mem_cleanRule.1 hline with h | ⟨p, hp, h⟩ | ⟨p, -, -, h⟩
      · exact absurd h (ifExists_ne_clean _ _)
      · exact .inl ⟨p, hp, (ifExists_injective _ h).symm⟩
      · exact absurd h.symm (deleteLine_ne_clearLine _ _)
    | @cleared folder below hbelow =>
      rcases mem_cleanRule.1 hline with h | ⟨p, -, h⟩ | ⟨p, hp, hresx, h⟩
      · exact absurd h (ifExists_ne_clean _ _)
      · exact absurd h (deleteLine_ne_clearLine _ _)
      · exact .inr ⟨p, hp, hresx, below, hbelow, by rw [ifExists_injective _ h]⟩
  · rintro (⟨p, hp, rfl⟩ | ⟨p, hp, hresx, below, hbelow, rfl⟩)
    · exact ⟨_, mem_cleanRule.2 (.inr (.inl ⟨p, hp, rfl⟩)), .deleted _⟩
    · exact ⟨_, mem_cleanRule.2 (.inr (.inr ⟨p, hp, hresx, rfl⟩)), .cleared _ hbelow⟩

/-! ## What a project's commands write -/

theorem documentation_mem_languageFlags {p : Project} {c : Configuration} {path : String} :
    "/doc:" ++ path ∈ languageFlags p c ↔ p.kind = .csharp ∧ c.documentationFile ≠ "" ∧
      path = baseReference ++ "\\" ++ DescriptorPath.fileName c.documentationFile := by
  cases hkind : p.kind with
  | csharp =>
    have hunsafe := (@option_not_mem_switch (c.allowUnsafeBlocks = true) _ "/unsafe" "/doc:" path
      (by decide)).1
    have hchecked := (@option_not_mem_switch (c.checkOverflow = true) _ "/checked+" "/doc:" path
      (by decide)).1
    have hdoc : "/doc:" ++ baseReference ++ "\\" ++ DescriptorPath.fileName c.documentationFile =
        "/doc:" ++ (baseReference ++ "\\" ++ DescriptorPath.fileName c.documentationFile) := by
      simp only [String.append_assoc]
    rw [languageFlags, hkind]
    dsimp only
    rw [List.mem_append, List.mem_append, or_iff_right hunsafe, or_iff_right hchecked, hdoc]
    split <;> simp [*]
  | vb =>
    have hnamespace := (@option_not_mem_switch (p.rootNamespace = "") _
      ("/rootnamespace:" ++ p.rootNamespace) "/doc:" path (by simp)).2
    have himports := (@option_not_mem_switch (p.imports.isEmpty = true) _
      ("/imports:" ++ Text.join "," p.imports) "/doc:" path (by simp)).2
    rw [languageFlags, hkind]
    dsimp only
    rw [List.mem_append, or_iff_right hnamespace, iff_false_right (by simp)]
    exact himports

/-- The file that a compiler is told to write documentation to. -/
theorem documentation_mem_flags {needed : List Project} {p : Project} {c : Configuration}
    {path : String} :
    "/doc:" ++ path ∈ flags needed p c ↔ p.kind = .csharp ∧ c.documentationFile ≠ "" ∧
      path = baseReference ++ "\\" ++ DescriptorPath.fileName c.documentationFile := by
  rw [← documentation_mem_languageFlags, flags]
  have hfirst : "/doc:" ++ path ∉ ["/nologo", "/target:" ++ p.compilerTarget, "/out:$@",
      if c.debugSymbols then "/debug+" else "/debug-"] := by
    refine option_not_mem ?_
    simp only [List.forall_mem_cons]
    refine ⟨by decide, by simp, by decide, by split <;> decide, by simp⟩
  have hdefines : "/doc:" ++ path ∉
      if c.defines.isEmpty then [] else ["/define:" ++ Text.join "," c.defines] :=
    (option_not_mem_switch _ (by simp)).2
  have hreferences :
      "/doc:" ++ path ∉ (referencePaths needed p).map fun path => "/r:" ++ quote path :=
    option_not_mem (List.forall_mem_map.2 fun _ _ => by simp)
  simp only [List.mem_append, hfirst, hdefines, hreferences, false_or, or_false]
  exact or_iff_left (option_not_mem (List.forall_mem_map.2 fun _ _ => by simp))

/-- Documentation is written beside the assemblies, so it is removed only as one of them. -/
theorem removed_documentation_iff {o : BuildOrder} {file path : String}
    (hpath : path = baseReference ++ "\\" ++ DescriptorPath.fileName file) :
    Removed (cleanRule o) path ↔ ∃ p ∈ o.projects, path = artifact p := by
  rw [removed_cleanRule_iff, or_iff_left]
  rintro ⟨p, -, -, below, -, h⟩
  have hname : DescriptorPath.fileName file = "obj\\" ++ p.name ++ "\\" ++ below := by
    rw [hpath, resourceFolder, ← String.toList_inj] at h
    rw [← String.toList_inj]
    simpa using h
  have hseparator := DescriptorPath.not_isSeparator_fileName file '\\' (by simp [hname])
  exact absurd hseparator (by decide)

/-- The folder of a project's compiled resources is cleared if there are any. -/
theorem removed_compiledResource {o : BuildOrder} {p : Project} (hp : p ∈ o.projects)
    {f : ProjectFile} (hf : f ∈ p.resxFiles) (h : StaysBelow (p.resourceName f)) :
    Removed (cleanRule o) (compiledResource p f) :=
  removed_cleanRule_iff.2 (.inr ⟨p, hp, List.ne_nil_of_mem hf, _, h, rfl⟩)

/-- The name of a resource does not lead out of a folder if the root namespace has no separators. -/
theorem staysBelow_resourceName {p : Project} {f : ProjectFile} (hf : f ∈ p.resxFiles)
    (h : Over (DescriptorPath.isSeparator · = false) p.rootNamespace) :
    StaysBelow (p.resourceName f) := by
  have hname : Over (DescriptorPath.isSeparator · = false) (p.resourceName f) := by
    have hspace : Over (DescriptorPath.isSeparator · = false) (resourcePrefix p) := by
      rw [resourcePrefix]
      split
      · exact over_empty
      · exact h.append (by decide)
    rw [resourceName_eq hf]
    exact (hspace.append (DescriptorPath.not_isSeparator_stem _)).append (by decide)
  rw [StaysBelow, List.splitOnP_eq_singleton hname, List.mem_singleton]
  intro heq
  have hlen := congrArg List.length heq
  rw [resourceName_eq hf] at hlen
  simp at hlen
  omega

/-- At the end of a script stands the rule that cleans. It removes the assembly of each project and
the resources that are compiled for it, unless the name of one leads out of the folder for these;
but the file that the compiler is told to write the documentation of a project to is removed only if
it is an assembly, too. -/
theorem removed_of_script {o : BuildOrder} {m : Parameters} {solutionName text : String}
    (h : script o m solutionName = .ok text) :
    text = preamble m solutionName ++
        String.ofList (withEnds ['\n'] (ruleLines o m.configurationName)) ∧
      cleanRule o <:+ ruleLines o m.configurationName ∧
      ∀ p ∈ o.projects, Removed (cleanRule o) (artifact p) ∧
        (∀ f ∈ p.resxFiles, StaysBelow (p.resourceName f) →
          Removed (cleanRule o) (compiledResource p f)) ∧
        ∀ path, "/doc:" ++ path ∈ flags (o.needed p) p (p.configuration m.configurationName) →
          (Removed (cleanRule o) path ↔ ∃ q ∈ o.projects, path = artifact q) := by
  obtain ⟨-, htext⟩ := script_eq_ok.1 h
  refine ⟨htext, List.suffix_append _ _, fun p hp => ⟨?_, fun f => removed_compiledResource hp,
    fun path hpath => ?_⟩⟩
  · exact removed_cleanRule_iff.2 (.inl ⟨p, hp, rfl⟩)
  · obtain ⟨-, -, hfile⟩ := documentation_mem_flags.1 hpath
    exact removed_documentation_iff hfile

/-- A library with documentation and a resource that is compiled. -/
def documentedLibrary : Project :=
  { resourceLibrary with
    configurations := [("Debug", { name := "Debug", documentationFile := "Library.xml" })] }

theorem script_documentedLibrary :
    BuildOrder.ofProjects [documentedLibrary] = .ok ⟨[documentedLibrary]⟩ ∧
      ∃ text, script ⟨[documentedLibrary]⟩ [] "" = .ok text := by
  have horder : BuildOrder.ofProjects [documentedLibrary] = .ok ⟨[documentedLibrary]⟩ := by
    rw [BuildOrder.ofProjects_eq_arrange (by decide) (by cbv)]
    decide
  refine ⟨horder, _, script_eq_ok.2 ⟨fun p hp => ?_, rfl⟩⟩
  exact BuildOrder.dependencies_needed (BuildOrder.exists_dependencies (by decide) horder hp)

theorem removed_of_script_library :
    ∃ text, script ⟨[documentedLibrary]⟩ [] "" = .ok text ∧
      Removed (cleanRule ⟨[documentedLibrary]⟩) "$(BUILD_BASEDIR)\\Library.dll" ∧
      Removed (cleanRule ⟨[documentedLibrary]⟩)
        "$(BUILD_BASEDIR)\\obj\\Library\\Lib.Strings.resources" := by
  obtain ⟨-, text, htext⟩ := script_documentedLibrary
  obtain ⟨-, -, hremoved⟩ := removed_of_script htext
  obtain ⟨hartifact, hresources, -⟩ := hremoved documentedLibrary (by simp)
  have hresource := hresources ⟨"Strings.resx", .embeddedResource⟩ (by decide)
    (staysBelow_resourceName (by decide) (by decide))
  have hfile : artifact documentedLibrary = "$(BUILD_BASEDIR)\\Library.dll" := by
    decide
  have hcompiled : compiledResource documentedLibrary ⟨"Strings.resx", .embeddedResource⟩ =
      "$(BUILD_BASEDIR)\\obj\\Library\\Lib.Strings.resources" := by
    decide
  rw [hfile] at hartifact
  rw [hcompiled] at hresource
  exact ⟨text, htext, hartifact, hresource⟩

/-- The documentation of the library is not removed. -/
theorem not_removed_documentation :
    ∃ text, BuildOrder.ofProjects [documentedLibrary] = .ok ⟨[documentedLibrary]⟩ ∧
      script ⟨[documentedLibrary]⟩ [] "" = .ok text ∧
      "/doc:" ++ "$(BUILD_BASEDIR)\\Library.xml" ∈
        flags (BuildOrder.needed ⟨[documentedLibrary]⟩ documentedLibrary) documentedLibrary
          (documentedLibrary.configuration (Parameters.configurationName [])) ∧
      ¬ Removed (cleanRule ⟨[documentedLibrary]⟩) "$(BUILD_BASEDIR)\\Library.xml" := by
  obtain ⟨horder, text, htext⟩ := script_documentedLibrary
  have hfile : "$(BUILD_BASEDIR)\\Library.xml" =
      baseReference ++ "\\" ++ DescriptorPath.fileName "Library.xml" := by
    decide
  refine ⟨text, horder, htext, documentation_mem_flags.2 ⟨rfl, by decide, hfile⟩, ?_⟩
  rw [removed_documentation_iff hfile]
  simp only [List.mem_singleton, exists_eq_left]
  decide

end SolutionScript.NMake
