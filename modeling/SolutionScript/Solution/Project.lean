import SolutionScript.Keyed
import SolutionScript.Solution.DescriptorPath
import SolutionScript.Text.Blank

/-!
# Projects

What a solution holds: projects with their files, references and
configurations, in the order of their declaration. Paths in a project are
descriptor paths, relative to the solution.
-/

namespace SolutionScript

/-- The languages that can be built. -/
inductive Language where
  | csharp
  | vb
  deriving DecidableEq, Repr

/-- The name of a language. -/
def Language.name : Language → String
  | csharp => "csharp"
  | vb => "vb"

/-- What is done with a file when its project is built. -/
inductive BuildAction where
  | compile
  | embeddedResource
  | content
  | none
  deriving DecidableEq, Repr

/-- The name of a build action. -/
def BuildAction.name : BuildAction → String
  | compile => "Compile"
  | embeddedResource => "EmbeddedResource"
  | content => "Content"
  | none => "None"

/-- The build action with a name. -/
def BuildAction.ofName? : String → Option BuildAction
  | "Compile" => some compile
  | "EmbeddedResource" => some embeddedResource
  | "Content" => some content
  | "None" => some none
  | _ => Option.none

/-- The build action with a name; an unknown name means no action. -/
def BuildAction.ofName (s : String) : BuildAction := (ofName? s).getD none

/-- The kinds of references to anything but a project. -/
inductive ReferenceKind where
  | assembly
  | com
  deriving DecidableEq, Repr

/-- The name of a kind of reference. -/
def ReferenceKind.name : ReferenceKind → String
  | assembly => "assembly"
  | com => "com"

/-- The settings for building a project in one way. -/
structure Configuration where
  name : String
  outputPath : String := ""
  documentationFile : String := ""
  debugSymbols : Bool := false
  allowUnsafeBlocks : Bool := false
  checkOverflow : Bool := false
  defineConstants : String := ""
  deriving DecidableEq, Repr

namespace Configuration

/-- The configuration that is used when none is asked for. -/
def defaultName : String := "Debug"

/-- The symbols of a text that separates them by semicolons or commas. -/
def symbolsOf (s : String) : List String :=
  ((Text.splitAt ';' (Text.replace ',' ';' s)).map Text.trim).filter (· != "")

/-- The symbols that the compiler is told to define. -/
def defines (c : Configuration) : List String := symbolsOf c.defineConstants

end Configuration

/-- A file of a project, relative to the project's directory. -/
structure ProjectFile where
  relativePath : String
  buildAction : BuildAction := .none
  deriving DecidableEq, Repr

/-- Whether a file holds resources in the form that is compiled before it is
embedded. -/
def ProjectFile.isResx (f : ProjectFile) : Bool :=
  DescriptorPath.extension f.relativePath = ".resx"

/-- A reference to an assembly that is no project of the solution. -/
structure AssemblyReference where
  name : String
  kind : ReferenceKind := .assembly
  hintPath : String := ""
  copyLocal : Bool := false
  deriving DecidableEq, Repr

/-- The name of the file of an assembly. -/
def AssemblyReference.fileName (r : AssemblyReference) : String := r.name ++ ".dll"

/-- A project of a solution. -/
structure Project where
  id : String
  name : String
  /-- The descriptor's location as the solution declares it. -/
  path : String
  kind : Language := .csharp
  assemblyName : String := ""
  outputType : String := "Library"
  rootNamespace : String := ""
  /-- Where the built assembly goes. -/
  outputPath : String := ""
  configurations : Keyed Configuration := []
  files : List ProjectFile := []
  references : List AssemblyReference := []
  imports : List String := []
  /-- The identifiers of the projects that are built before this one, each of
  them once. -/
  dependencies : List String := []
  dependencies_nodup : dependencies.Nodup := by first | exact List.nodup_nil | decide
  /-- The place in the order of declaration. -/
  index : Int := 0
  deriving DecidableEq, Repr

namespace Project

/-- The directory of the descriptor. -/
def directory (p : Project) : String := DescriptorPath.directory p.path

/-- The compiler's word for an output type, and the extension of the assembly. -/
def targetOf (outputType : String) : String × String :=
  match Text.lower outputType with
  | "library" => ("library", ".dll")
  | "module" => ("module", ".netmodule")
  | "exe" => ("exe", ".exe")
  | "winexe" => ("winexe", ".exe")
  | _ => ("exe", ".exe")

/-- The name of the built assembly. -/
def outputFile (p : Project) : String :=
  (if p.assemblyName = "" then p.name else p.assemblyName) ++ (targetOf p.outputType).2

/-- What the compiler is told to build. -/
def compilerTarget (p : Project) : String := (targetOf p.outputType).1

/-- The configuration with a name; else the default one; else the first; else
one without settings. -/
def configuration (p : Project) (name : String) : Configuration :=
  let named := if name = "" then none else p.configurations.get? name
  match named with
  | some c => c
  | none =>
    match p.configurations.get? Configuration.defaultName with
    | some c => c
    | none =>
      match p.configurations with
      | (_, c) :: _ => c
      | [] => { name := if name = "" then Configuration.defaultName else name }

/-- The files with a build action. -/
def filesWith (p : Project) (action : BuildAction) : List ProjectFile :=
  p.files.filter (·.buildAction = action)

/-- The files that are compiled. -/
def sourceFiles (p : Project) : List ProjectFile := p.filesWith .compile

/-- The embedded files that are compiled to resources first. -/
def resxFiles (p : Project) : List ProjectFile :=
  (p.filesWith .embeddedResource).filter (·.isResx)

/-- The files that are embedded as they are. -/
def resourceFiles (p : Project) : List ProjectFile :=
  (p.filesWith .embeddedResource).filter (!·.isResx)

/-- The files that are only copied. -/
def contentFiles (p : Project) : List ProjectFile := p.filesWith .content

/-- The path of a file of the project, relative to the solution. -/
def resolve (p : Project) (relativePath : String) : String :=
  if p.directory = "" then relativePath else DescriptorPath.join p.directory relativePath

/-- The name under which a file is embedded. -/
def resourceName (p : Project) (f : ProjectFile) : String :=
  let dotted :=
    if f.isResx then DescriptorPath.stem f.relativePath ++ ".resources"
    else Text.replace '/' '.' (Text.replace '\\' '.' f.relativePath)
  if p.rootNamespace = "" then dotted else p.rootNamespace ++ "." ++ dotted

/-- The project with one more dependency. -/
def addDependency (p : Project) (id : String) : Project :=
  if h : id ∈ p.dependencies then p
  else
    { p with
      dependencies := p.dependencies ++ [id]
      dependencies_nodup := List.nodup_append.2 ⟨p.dependencies_nodup, by simp, by
        rintro d hd _ hid rfl
        exact h (List.mem_singleton.1 hid ▸ hd)⟩ }

/-- The project without a dependency. -/
def removeDependency (p : Project) (id : String) : Project :=
  { p with
    dependencies := p.dependencies.filter (· != id)
    dependencies_nodup := p.dependencies_nodup.filter _ }

/-- The dependencies in ascending order. -/
def sortedDependencies (p : Project) : List String := p.dependencies.mergeSort Text.le

end Project

/-- A solution: where it was read from and its projects in order of declaration. -/
structure Solution where
  path : String
  formatVersion : String := ""
  projects : List Project := []
  deriving DecidableEq, Repr

namespace Solution

/-- The last name of the solution's path, without its extension. -/
def name (s : Solution) : String :=
  let last := (s.path.toList.reverse.takeWhile (· != '/')).reverse
  (DescriptorPath.splitExtension (· == '/') (String.ofList last)).1

/-- The first project with an identifier. -/
def project? (s : Solution) (id : String) : Option Project := s.projects.find? (·.id = id)

/-- The first project with a name. -/
def projectNamed? (s : Solution) (name : String) : Option Project :=
  s.projects.find? (·.name = name)

end Solution

end SolutionScript
