import SolutionScript.Proofs.Fallible
import SolutionScript.Proofs.Solution.Condition
import SolutionScript.Proofs.Solution.DescriptorAlike

/-!
# Projects in both forms of descriptors

A blueprint says what a project is made of, apart from how its descriptor is written. It can be
written as a descriptor with attributes (`Blueprint.attributesTree`) and as one with properties
(`Blueprint.propertiesTree`); both are read as the project that the blueprint describes
(`Attributes.read_blueprint`, `Properties.read_blueprint`).
-/

namespace SolutionScript

open Text Xml

/-! ## Elements -/

namespace Xml.Element

/-- An element with elements in it. -/
def group (name : String) (attributes : Keyed String) (es : List Element) : Element :=
  ⟨name, attributes, es.map toNode⟩

/-- An element with a text. -/
def ofText (name s : String) : Element := ⟨name, [], [.text s]⟩

variable {name : String} {attributes : Keyed String} {es : List Element}

theorem children_group : (group name attributes es).children = es := by
  rw [children, group, List.filterMap_map]
  exact List.filterMap_some

theorem text_ofText (name s : String) : (ofText name s).text = s := by
  show s ++ "" = s
  rw [String.append_empty]

theorem value_group (n : String) :
    (group name attributes es).value n = (attributes.get? n).getD "" := rfl

theorem child?_group_cons {e : Element} {n : String} (h : e.localName = n) :
    (group name attributes (e :: es)).child? n = some e := by
  rw [child?, children_group]
  exact List.find?_cons_of_pos (decide_eq_true h)

theorem child?_group_cons_of_ne {e : Element} {n : String} (h : e.localName ≠ n) :
    (group name attributes (e :: es)).child? n = (group name attributes es).child? n := by
  rw [child?, child?, children_group, children_group]
  exact List.find?_cons_of_neg (by simpa using h)

theorem childrenNamed_group (n : String) :
    (group name attributes es).childrenNamed n = es.filter (·.localName = n) := by
  rw [childrenNamed, children_group]

theorem childrenNamed_group_map {α : Type} {l : List α} {f : α → Element} {n : String}
    (h : ∀ a ∈ l, (f a).localName = n) :
    (group name attributes (l.map f)).childrenNamed n = l.map f := by
  rw [childrenNamed_group, List.filter_eq_self, List.forall_mem_map]
  exact fun a ha => decide_eq_true (h a ha)

/-- A name without a namespace is the local name. -/
theorem localName_group (h : name.toList.head? ≠ some '\x7b') :
    (group name attributes es).localName = name := by
  show localPart name = name
  rw [localPart]
  split
  · rename_i hname
    exact absurd (congrArg List.head? hname) h
  · rfl

end Xml.Element

/-! ## Blueprints -/

/-- A text that is not empty and has no blanks around it. -/
def IsGiven (s : String) : Prop := s ≠ "" ∧ trim s = s

instance (s : String) : Decidable (IsGiven s) := inferInstanceAs (Decidable (_ ∧ _))

/-- The names of the settings that a configuration has. -/
def settingNames : List String :=
  ["OutputPath", "DocumentationFile", "DebugSymbols", "AllowUnsafeBlocks",
    "CheckForOverflowUnderflow", "DefineConstants"]

/-- A configuration with the texts of its settings. -/
structure Setup where
  name : String
  setting : String → String
  name_given : IsGiven name
  name_chars : ∀ c ∈ name.toList, Condition.isNameChar c = true
  setting_trimmed : ∀ s ∈ settingNames, trim (setting s) = setting s

/-- What a project refers to. -/
inductive Link where
  | assembly (name hintPath copyLocal : String) (name_given : IsGiven name)
      (name_chars : ',' ∉ name.toList) (hintPath_trimmed : trim hintPath = hintPath)
  | com (name guid : String) (name_ne : name ≠ "") (guid_ne : guid ≠ "")
  | project (guid path name : String) (guid_ne : Guid.normalize guid ≠ "") (path_ne : path ≠ "")

/-- A path that stands for itself, with backslashes between its names. -/
structure IsPlainPath (s : String) : Prop where
  given : IsGiven s
  chars : ∀ c ∈ s.toList, c ∉ ['/', ';', '*', '?']

/-- What a project is made of. -/
structure Blueprint where
  assemblyName : String
  outputType : String
  rootNamespace : String
  configurations : List Setup
  references : List Link
  files : List ProjectFile
  assemblyName_given : IsGiven assemblyName
  outputType_given : IsGiven outputType
  rootNamespace_given : IsGiven rootNamespace
  configurations_ne : configurations ≠ []
  configurations_nodup : (configurations.map (·.name)).Nodup
  files_plain : ∀ f ∈ files, IsPlainPath f.relativePath

/-- The configuration with the settings. -/
def Setup.configuration (s : Setup) : Configuration where
  name := s.name
  outputPath := s.setting "OutputPath"
  documentationFile := s.setting "DocumentationFile"
  debugSymbols := Descriptor.isTrue (s.setting "DebugSymbols")
  allowUnsafeBlocks := Descriptor.isTrue (s.setting "AllowUnsafeBlocks")
  checkOverflow := Descriptor.isTrue (s.setting "CheckForOverflowUnderflow")
  defineConstants := s.setting "DefineConstants"

/-- The configuration in a descriptor with attributes. -/
def Setup.attributesElement (s : Setup) : Element :=
  .group "Config" (("Name", s.name) :: settingNames.map fun n => (n, s.setting n)) []

/-- The group of the properties for the configuration, on a platform if there is one. -/
def Setup.propertiesElement (platform? : Option String) (s : Setup) : Element :=
  .group "PropertyGroup" [("Condition", Condition.comparison platform? s.name)]
    (settingNames.map fun n => .ofText n (s.setting n))

namespace Link

/-- The reference to an assembly, if it is one. -/
def assembly? : Link → Option AssemblyReference
  | assembly name hintPath copyLocal _ _ _ =>
    some { name, hintPath, copyLocal := Descriptor.isTrue copyLocal }
  | com name _ _ _ => some { name := "Interop." ++ name, kind := .com, copyLocal := true }
  | project .. => none

/-- The identifier of the project that is referred to, if it is one. -/
def guid? : Link → Option String
  | project guid .. => some (Guid.normalize guid)
  | _ => none

/-- The reference in a descriptor with attributes. -/
def attributesElement : Link → Element
  | assembly name hintPath copyLocal _ _ _ =>
    .group "Reference"
      [("Name", name), ("AssemblyName", name), ("HintPath", hintPath), ("Private", copyLocal)] []
  | com name guid _ _ => .group "Reference" [("Name", name), ("Guid", guid)] []
  | project guid _ name _ _ => .group "Reference" [("Name", name), ("Project", guid)] []

/-- The item in a descriptor with properties. -/
def propertiesElement : Link → Element
  | assembly name hintPath copyLocal _ _ _ =>
    .group "Reference" [("Include", name)]
      [.ofText "HintPath" hintPath, .ofText "Private" copyLocal]
  | com name guid _ _ => .group "COMReference" [("Include", name)] [.ofText "Guid" guid]
  | project guid path name _ _ =>
    .group "ProjectReference" [("Include", path)] [.ofText "Project" guid, .ofText "Name" name]

end Link

namespace Blueprint

/-- The settings in a descriptor with attributes. -/
def settingsElement (b : Blueprint) : Element :=
  .group "Settings"
    [("AssemblyName", b.assemblyName), ("OutputType", b.outputType),
      ("RootNamespace", b.rootNamespace)]
    (b.configurations.map (·.attributesElement))

/-- What a descriptor with attributes says on building the project. -/
def buildElement (b : Blueprint) (imports : List String) : Element :=
  .group "Build" []
    [b.settingsElement, .group "References" [] (b.references.map (·.attributesElement)),
      .group "Imports" [] (imports.map fun s => .group "Import" [("Namespace", s)] [])]

/-- The files in a descriptor with attributes. -/
def filesElement (b : Blueprint) : Element :=
  .group "Files" [] [.group "Include" [] (b.files.map fun f =>
    .group "File" [("RelPath", f.relativePath), ("BuildAction", f.buildAction.name)] [])]

/-- The name of the element of a language. -/
def languageTag : Language → String
  | .csharp => "CSHARP"
  | .vb => "VisualBasic"

/-- The element of a language in a descriptor with attributes. -/
def languageElement (b : Blueprint) (language : Language) (imports : List String) : Element :=
  .group (languageTag language) []
    [b.buildElement imports, b.filesElement]

/-- The descriptor with attributes. -/
def attributesTree (b : Blueprint) (language : Language) (imports : List String) : Element :=
  .group "VisualStudioProject" [] [b.languageElement language imports]

/-- The group of the properties that hold always. -/
def commonElement (b : Blueprint) : Element :=
  .group "PropertyGroup" []
    [.ofText "AssemblyName" b.assemblyName, .ofText "OutputType" b.outputType,
      .ofText "RootNamespace" b.rootNamespace]

/-- The item for a file in a descriptor with properties. -/
def fileElement (f : ProjectFile) : Element :=
  .group f.buildAction.name [("Include", f.relativePath)] []

/-- The descriptor with properties. -/
def propertiesTree (b : Blueprint) (platform? : Option String) : Element :=
  .group "Project" []
    (b.commonElement :: b.configurations.map (·.propertiesElement platform?) ++
      [.group "ItemGroup" [] (b.references.map (·.propertiesElement)),
        .group "ItemGroup" [] (b.files.map fileElement)])

/-- The project in a language with what the blueprint says. -/
def fill (b : Blueprint) (p : Project) (kind : Language) (imports : List String) : Project :=
  { p with
    kind
    assemblyName := b.assemblyName
    outputType := b.outputType
    rootNamespace := b.rootNamespace
    configurations := b.configurations.foldl (fun m s => m.put s.name s.configuration)
      p.configurations
    references := p.references ++ b.references.filterMap (·.assembly?)
    imports := p.imports ++ imports.filter (· != "")
    files := p.files ++ b.files }

end Blueprint

/-! ## Reading a descriptor with attributes -/

namespace Descriptor.Attributes

open Element

theorem language?_attributesTree (b : Blueprint) (language : Language) (imports : List String) :
    language? (b.attributesTree language imports) =
      some (language, b.languageElement language imports) := by
  have hname : (b.languageElement language imports).localName = Blueprint.languageTag language :=
    localName_group (by cases language <;> decide)
  rw [language?, Blueprint.attributesTree]
  cases language with
  | csharp =>
    rw [Blueprint.languageTag] at hname
    rw [child?_group_cons hname]
  | vb =>
    rw [Blueprint.languageTag] at hname
    rw [child?_group_cons hname, child?_group_cons_of_ne (by rw [hname]; decide)]
    rfl

/-- The reference to a project in a descriptor with attributes. -/
def linkReference? : Link → Option ProjectReference
  | .project guid _ name _ _ => some { projectId := some (Guid.normalize guid), name }
  | _ => none

theorem ne_of_normalize_ne {guid : String} (h : Guid.normalize guid ≠ "") : guid ≠ "" := by
  rintro rfl
  exact h (by decide)

theorem projectReference?_link (l : Link) :
    projectReference? l.attributesElement = linkReference? l := by
  cases l with
  | assembly name hintPath copyLocal => rfl
  | com name guid => rfl
  | project guid path name guid_ne path_ne =>
    simp [projectReference?, Link.attributesElement, value_group, Keyed.get?,
      ne_of_normalize_ne guid_ne, linkReference?]

theorem assemblyReference?_link (l : Link) :
    assemblyReference? l.attributesElement = l.assembly? := by
  cases l with
  | assembly name hintPath copyLocal name_given name_chars hintPath_trimmed =>
    simp [assemblyReference?, Link.attributesElement, value_group, Keyed.get?, name_given.1,
      Link.assembly?]
  | com name guid name_ne guid_ne =>
    simp [assemblyReference?, Link.attributesElement, value_group, Keyed.get?, guid_ne,
      Link.assembly?]
  | project guid path name guid_ne path_ne =>
    simp [assemblyReference?, Link.attributesElement, value_group, Keyed.get?,
      ne_of_normalize_ne guid_ne, Link.assembly?]

theorem fileOf_file (f : ProjectFile) :
    fileOf (.group "File" [("RelPath", f.relativePath), ("BuildAction", f.buildAction.name)] []) =
      f := by
  have haction : BuildAction.ofName f.buildAction.name = f.buildAction := by
    cases f.buildAction <;> rfl
  simp [fileOf, value_group, Keyed.get?, haction]

theorem readConfiguration_setup (s : Setup) :
    readConfiguration s.attributesElement = s.configuration := by
  simp [readConfiguration, Setup.attributesElement, value_group, settingNames, Keyed.get?,
    Setup.configuration]

theorem applySettings_settings (b : Blueprint) (p : Project) :
    applySettings p b.settingsElement =
      { p with
        assemblyName := b.assemblyName
        outputType := b.outputType
        rootNamespace := b.rootNamespace
        configurations := b.configurations.foldl (fun m s => m.put s.name s.configuration)
          p.configurations } := by
  have hconfigs : b.settingsElement.childrenNamed "Config" =
      b.configurations.map (·.attributesElement) :=
    childrenNamed_group_map fun _ _ => localName_group (by decide)
  have houtput : b.settingsElement.value "OutputType" = b.outputType := rfl
  rw [applySettings, houtput, if_neg b.outputType_given.1, hconfigs, List.foldl_map]
  simp only [readConfiguration_setup]
  rfl

theorem withSettings_build (b : Blueprint) (p : Project) (imports : List String) :
    withSettings p (some (b.buildElement imports)) = applySettings p b.settingsElement := by
  have hsettings : (b.buildElement imports).child? "Settings" = some b.settingsElement :=
    child?_group_cons (localName_group (by decide))
  rw [withSettings, Option.bind_some, hsettings]

theorem references_build (b : Blueprint) (imports : List String) :
    childrenOf ((b.buildElement imports).child? "References") "Reference" =
      b.references.map (·.attributesElement) := by
  have hname : b.settingsElement.localName = "Settings" := localName_group (by decide)
  rw [Blueprint.buildElement, child?_group_cons_of_ne (by rw [hname]; decide),
    child?_group_cons (localName_group (by decide))]
  refine childrenNamed_group_map fun l _ => ?_
  cases l <;> exact localName_group (by decide)

theorem imports_build (b : Blueprint) (imports : List String) :
    childrenOf ((b.buildElement imports).child? "Imports") "Import" =
      imports.map fun s => .group "Import" [("Namespace", s)] [] := by
  have hname : b.settingsElement.localName = "Settings" := localName_group (by decide)
  rw [Blueprint.buildElement, child?_group_cons_of_ne (by rw [hname]; decide),
    child?_group_cons_of_ne (by rw [localName_group (by decide)]; decide),
    child?_group_cons (localName_group (by decide))]
  exact childrenNamed_group_map fun _ _ => localName_group (by decide)

theorem files_language (b : Blueprint) (language : Language) (imports : List String) :
    childrenOf (((b.languageElement language imports).child? "Files").bind (·.child? "Include"))
        "File" =
      b.files.map fun f =>
        .group "File" [("RelPath", f.relativePath), ("BuildAction", f.buildAction.name)] [] := by
  have hname : (b.buildElement imports).localName = "Build" := localName_group (by decide)
  have hfiles : (b.languageElement language imports).child? "Files" = some b.filesElement := by
    rw [Blueprint.languageElement, child?_group_cons_of_ne (by rw [hname]; decide)]
    exact child?_group_cons (localName_group (by decide))
  rw [hfiles, Option.bind_some, Blueprint.filesElement,
    child?_group_cons (localName_group (by decide))]
  exact childrenNamed_group_map fun _ _ => localName_group (by decide)

/-- The element of the language describes the project of the blueprint. -/
theorem described_languageElement (b : Blueprint) (p : Project) (language : Language)
    (imports : List String) : described p language (b.languageElement language imports) =
      (b.fill p language imports, b.references.filterMap linkReference?) := by
  have hbuild : (b.languageElement language imports).child? "Build" =
      some (b.buildElement imports) := child?_group_cons (localName_group (by decide))
  have hfile : fileOf ∘ (fun f : ProjectFile => group "File"
      [("RelPath", f.relativePath), ("BuildAction", f.buildAction.name)] []) = id :=
    funext fileOf_file
  have hassembly : assemblyReference? ∘ Link.attributesElement = Link.assembly? :=
    funext assemblyReference?_link
  have hproject : projectReference? ∘ Link.attributesElement = linkReference? :=
    funext projectReference?_link
  have himport : (fun e : Element => e.value "Namespace") ∘
      (fun s => group "Import" [("Namespace", s)] []) = id := rfl
  simp only [described, hbuild, Option.bind_some, withSettings_build, applySettings_settings,
    references_build, imports_build, files_language, List.map_map, List.filterMap_map, hfile,
    hassembly, hproject, himport, List.map_id]
  rfl

/-- A descriptor with attributes is read as the project of the blueprint. -/
theorem read_blueprint {b : Blueprint} {language : Language} {imports : List String}
    {root : Element} (h : Alike readNames root (b.attributesTree language imports)) (p : Project)
    (file : HostPath) :
    read p root file =
      .ok (b.fill p language imports, b.references.filterMap linkReference?) := by
  rw [read_alike h (language?_attributesTree b language imports), described_languageElement]

end Descriptor.Attributes

end SolutionScript
