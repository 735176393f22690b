import SolutionScript.Solution.Descriptor.Reference
import SolutionScript.Solution.Guid

/-!
# Descriptors with attributes

The older form of descriptors: an element for the language, in which settings,
references and files are elements that say everything in attributes.
References to projects name them by identifier.
-/

namespace SolutionScript.Descriptor.Attributes

/-- The element of the language in a descriptor. -/
def language? (root : Xml.Element) : Option (Language × Xml.Element) :=
  match root.child? "CSHARP" with
  | some e => some (.csharp, e)
  | none => (root.child? "VisualBasic").map (.vb, ·)

/-- A configuration. -/
def readConfiguration (e : Xml.Element) : Configuration where
  name := e.value "Name"
  outputPath := e.value "OutputPath"
  documentationFile := e.value "DocumentationFile"
  debugSymbols := isTrue (e.value "DebugSymbols")
  allowUnsafeBlocks := isTrue (e.value "AllowUnsafeBlocks")
  checkOverflow := isTrue (e.value "CheckForOverflowUnderflow")
  defineConstants := e.value "DefineConstants"

/-- Takes over the settings. -/
def applySettings (p : Project) (settings : Xml.Element) : Project :=
  let outputType := settings.value "OutputType"
  { p with
    assemblyName := settings.value "AssemblyName"
    outputType := if outputType = "" then p.outputType else outputType
    rootNamespace := settings.value "RootNamespace"
    configurations := (settings.childrenNamed "Config").foldl
      (fun m e => m.put (e.value "Name") (readConfiguration e)) p.configurations }

/-- The project that a reference names. -/
def projectReference? (e : Xml.Element) : Option ProjectReference :=
  if e.value "Project" = "" then none
  else some { projectId := some (Guid.normalize (e.value "Project")), name := e.value "Name" }

/-- The assembly that a reference names, if it names no project. -/
def assemblyReference? (e : Xml.Element) : Option AssemblyReference :=
  if e.value "Project" ≠ "" then none
  else if e.value "AssemblyName" ≠ "" then
    some {
      name := e.value "AssemblyName"
      hintPath := e.value "HintPath"
      copyLocal := isTrue (e.value "Private") }
  else if e.value "Guid" ≠ "" then
    some { name := "Interop." ++ e.value "Name", kind := .com, copyLocal := true }
  else none

/-- A file of the project. -/
def fileOf (e : Xml.Element) : ProjectFile where
  relativePath := e.value "RelPath"
  buildAction := .ofName (e.value "BuildAction")

/-- The project as its descriptor describes it, and its references to other
projects. -/
def read (p : Project) (root : Xml.Element) (file : HostPath) :
    Except Failure (Project × List ProjectReference) :=
  match language? root with
  | none =>
    .error (.tool (.descriptor file.render
      (.unsupportedType ((root.value? "ProjectType").getD "unknown")) {}))
  | some (kind, e) =>
    let build := e.child? "Build"
    let p := { p with kind }
    let p := match build.bind (·.child? "Settings") with
      | some settings => applySettings p settings
      | none => p
    let references := childrenOf (build.bind (·.child? "References")) "Reference"
    let imports := (childrenOf (build.bind (·.child? "Imports")) "Import").map (·.value "Namespace")
    let files := childrenOf ((e.child? "Files").bind (·.child? "Include")) "File"
    .ok ({ p with
        references := p.references ++ references.filterMap assemblyReference?
        imports := p.imports ++ imports.filter (· != "")
        files := p.files ++ files.map fileOf },
      references.filterMap projectReference?)

end SolutionScript.Descriptor.Attributes
