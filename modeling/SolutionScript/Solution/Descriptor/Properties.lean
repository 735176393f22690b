import SolutionScript.Solution.Condition
import SolutionScript.Solution.Descriptor.Reference
import SolutionScript.Solution.Guid
import SolutionScript.Solution.Include

/-!
# Descriptors with properties

The newer form of descriptors: groups of properties, each of them for one
configuration or for all, and groups of items. References to projects name the
other descriptor by its path. A descriptor that leans on a development kit may
list no sources; then all sources below its folder count, except those in
output folders.
-/

namespace SolutionScript.Descriptor.Properties

open FileSystem

/-- Properties that hold always, and those that hold in one configuration. -/
structure PropertyTable where
  common : Keyed String := []
  byConfiguration : Keyed (Keyed String) := []

namespace PropertyTable

/-- Notes a property. One under a condition that names no configuration counts
only if the condition is that of its group. -/
def note (t : PropertyTable) (groupCondition : String) (e : Xml.Element) : PropertyTable :=
  let named (condition : String) := (Condition.configuration? condition).getD ""
  let condition := e.value "Condition"
  let target := if named groupCondition = "" then named condition else named groupCondition
  let value := Text.trim e.text
  if target ≠ "" then
    let own := ((t.byConfiguration.get? target).getD []).put e.localName value
    { t with byConfiguration := t.byConfiguration.put target own }
  else if condition = "" then { t with common := t.common.put e.localName value }
  else t

/-- The properties of a descriptor. -/
def ofRoot (root : Xml.Element) : PropertyTable :=
  (root.childrenNamed "PropertyGroup").foldl (fun t group =>
    group.children.foldl (fun t e => t.note (group.value "Condition") e) t) {}

/-- A property that always holds, empty if it is missing. -/
def get (t : PropertyTable) (name : String) : String := (t.common.get? name).getD ""

/-- The output folder of a configuration that names none. -/
def defaultOutput (configuration framework : String) : String :=
  "bin\\" ++ configuration ++ "\\" ++ if framework = "" then "" else framework ++ "\\"

/-- The properties by configuration; without any there are two usual ones. -/
def configurations (t : PropertyTable) : Keyed (Keyed String) :=
  if t.byConfiguration.isEmpty then
    ["Debug", "Release"].map fun name =>
      (name, [("OutputPath", defaultOutput name (t.get "TargetFramework"))])
  else t.byConfiguration

/-- A configuration: its own properties, else the common ones. -/
def configuration (t : PropertyTable) (name : String) (own : Keyed String) : Configuration :=
  let find? (property : String) := (own.get? property).or (t.common.get? property)
  let find (property : String) := (find? property).getD ""
  { name
    outputPath := (find? "OutputPath").getD (defaultOutput name "")
    documentationFile := find "DocumentationFile"
    debugSymbols := isTrue (find "DebugSymbols")
    allowUnsafeBlocks := isTrue (find "AllowUnsafeBlocks")
    checkOverflow := isTrue (find "CheckForOverflowUnderflow")
    defineConstants := find "DefineConstants" }

end PropertyTable

/-- The project with what its properties say. -/
def applyProperties (p : Project) (t : PropertyTable) (file : HostPath) : Project :=
  let orElse (value other : String) := if value = "" then other else value
  let assemblyName := orElse (t.get "AssemblyName") file.stem
  { p with
    assemblyName
    outputType := orElse (t.get "OutputType") p.outputType
    rootNamespace := orElse (t.get "RootNamespace") assemblyName
    configurations := t.configurations.foldl (fun m (name, own) =>
      m.put name (t.configuration name own)) p.configurations }

/-- What an item adds to a project. -/
inductive Item where
  | files (files : List ProjectFile)
  | assembly (reference : AssemblyReference)
  | project (reference : ProjectReference)
  | nothing

/-- A reference to another project by the path of its descriptor. -/
def projectReference (directory path : String) (e : Xml.Element) : ProjectReference :=
  let id := childText e "Project"
  let name := childText e "Name"
  { projectId := if id = "" then none else some (Guid.normalize id)
    path := some (DescriptorPath.normal
      (DescriptorPath.join directory (DescriptorPath.ofHost path)))
    name := if name = "" then DescriptorPath.stem path else name }

/-- Reads an item. -/
def readItem (d : Disk) (directory : String) (folder : HostPath) (e : Xml.Element) :
    Except Failure Item :=
  let path := e.value "Include"
  if path = "" then .ok .nothing
  else match BuildAction.ofName? e.localName with
    | some action =>
      (Include.expand d folder path).map fun paths => .files (paths.map (⟨·, action⟩))
    | none =>
      .ok <| match e.localName with
        | "Reference" =>
          .assembly {
            name := Text.trim (String.ofList (path.toList.takeWhile (· != ',')))
            hintPath := childText e "HintPath"
            copyLocal := isTrue (childText e "Private") }
        | "COMReference" =>
          .assembly { name := "Interop." ++ path, kind := .com, copyLocal := true }
        | "ProjectReference" => .project (projectReference directory path e)
        | _ => .nothing

/-- The project with what its items add. -/
def applyItems (p : Project) (items : List Item) : Project :=
  { p with
    files := p.files ++ items.flatMap fun
      | .files files => files
      | _ => []
    references := p.references ++ items.filterMap fun
      | .assembly reference => some reference
      | _ => none }

/-- The pattern that the sources of a language fit. -/
def sourcePattern : Language → PathPattern
  | .csharp => [.everywhere, .like (NamePattern.parse "*.cs".toList)]
  | .vb => [.everywhere, .like (NamePattern.parse "*.vb".toList)]

/-- Whether a folder holds what a build makes. -/
def isOutputFolder (name : String) : Bool :=
  Text.lower name = "bin" || Text.lower name = "obj"

/-- The sources below a folder. -/
def findSources (d : Disk) (kind : Language) (folder : HostPath) :
    Except Failure (List ProjectFile) :=
  match d.glob folder (sourcePattern kind) with
  | .error fault => .error (.disk fault)
  | .ok found =>
    let paths := ((sorted found).map (below folder)).filter fun names =>
      !names.dropLast.any isOutputFolder
    .ok (paths.map fun names => ⟨Include.descriptorPath names, .compile⟩)

/-- The project in the language that the name of its descriptor shows. -/
def withLanguage (p : Project) (file : HostPath) : Project :=
  if Text.lower file.suffix = ".vbproj" then { p with kind := .vb } else p

/-- The project as its descriptor describes it, and its references to other
projects. -/
def read (d : Disk) (p : Project) (root : Xml.Element) (file : HostPath) :
    Except Failure (Project × List ProjectReference) := do
  let p := applyProperties (withLanguage p file) (PropertyTable.ofRoot root) file
  let items ← ((root.childrenNamed "ItemGroup").flatMap (·.children)).mapM
    (readItem d p.directory file.parent)
  let p := applyItems p items
  let references := items.filterMap fun
    | .project reference => some reference
    | _ => none
  let usesKit := root.value "Sdk" ≠ "" || !(root.childrenNamed "Sdk").isEmpty
  if usesKit && p.sourceFiles.isEmpty then
    let sources ← findSources d p.kind file.parent
    pure ({ p with files := p.files ++ sources }, references)
  else pure (p, references)

end SolutionScript.Descriptor.Properties
