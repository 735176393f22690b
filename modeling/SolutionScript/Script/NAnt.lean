import SolutionScript.Graph.BuildOrder
import SolutionScript.Script.Parameter
import SolutionScript.Xml.Printer

/-!
# NAnt scripts

An XML build file with one target for each project, in build order, which
depends on the targets of the projects that its project depends on. A target
`build` stands for all of them, and a target `clean` deletes what they make;
a project with the name of one of these two can not be written.
-/

namespace SolutionScript.NAnt

/-- The name of the format. -/
def formatName : String := "nant"

/-- The targets that every script has. -/
def reservedTargets : List String := ["build", "clean"]

/-- The reference to the directory that receives what is built. -/
def baseReference : String := "$\x7b" ++ Parameters.baseDirectory ++ "\x7d"

/-- Where the assembly of a project goes. -/
def artifact (p : Project) : String := baseReference ++ "\\" ++ p.outputFile

/-- Where the documentation of a configuration goes, if it has any. -/
def documentation? (c : Configuration) : Option String :=
  if c.documentationFile = "" then none
  else some (baseReference ++ "\\" ++ DescriptorPath.fileName c.documentationFile)

/-- An element without content. -/
def leaf (name : String) (attributes : Keyed String) : Xml.Node := .element name attributes []

/-- A set of files, unless it is empty. -/
def fileSet (name : String) (attributes : Keyed String) (files : List String) : List Xml.Node :=
  if files.isEmpty then []
  else [.element name (("basedir", ".") :: attributes)
    (files.map fun file => leaf "include" [("name", file)])]

/-- The assembly that a reference stands for. -/
def referencePath (p : Project) (r : AssemblyReference) : String :=
  if r.kind = .com then baseReference ++ "\\" ++ r.fileName
  else if r.hintPath ≠ "" && !r.copyLocal then p.resolve r.hintPath
  else r.fileName

/-- The assemblies that a project refers to. `needed` are the projects that it
depends on. -/
def referencePaths (needed : List Project) (p : Project) : List String :=
  p.references.map (referencePath p) ++ needed.map artifact

/-- The name of the compiler's task for a language. -/
def compilerTask : Language → String
  | .csharp => "csc"
  | .vb => "vbc"

/-- An attribute, unless its value is empty. -/
def optional (name value : String) : Keyed String := if value = "" then [] else [(name, value)]

/-- An attribute, if a setting is on. -/
def flag (isOn : Bool) (name value : String) : Keyed String := if isOn then [(name, value)] else []

/-- What only one of the languages understands. -/
def languageAttributes (p : Project) (c : Configuration) : Keyed String :=
  match p.kind with
  | .csharp =>
    flag c.allowUnsafeBlocks "unsafe" "true" ++ flag c.checkOverflow "checked" "true" ++
      optional "doc" ((documentation? c).getD "")
  | .vb =>
    flag c.checkOverflow "removeintchecks" "false" ++ optional "rootnamespace" p.rootNamespace ++
      flag (!p.imports.isEmpty) "imports" (Text.join "," p.imports)

/-- The attributes of the compiler's task. -/
def compilerAttributes (p : Project) (c : Configuration) : Keyed String :=
  [("target", p.compilerTarget), ("output", artifact p),
      ("debug", if c.debugSymbols then "true" else "false")] ++
    flag (!c.defines.isEmpty) "define" (Text.join "," c.defines) ++ languageAttributes p c

/-- The task that compiles a project. -/
def compiler (needed : List Project) (p : Project) (c : Configuration) : Xml.Node :=
  let resolved (files : List ProjectFile) := files.map fun f => p.resolve f.relativePath
  .element (compilerTask p.kind) (compilerAttributes p c)
    (fileSet "sources" [] (resolved p.sourceFiles) ++
      fileSet "references" [] (referencePaths needed p) ++
      fileSet "resources" (optional "prefix" p.rootNamespace ++ [("dynamicprefix", "true")])
        (resolved (p.resxFiles ++ p.resourceFiles)))

/-- The target of a project. -/
def projectTarget (configuration : String) (p : Project) (needed : List Project) : Xml.Node :=
  let depends := needed.map (·.name)
  .element "target"
    ([("name", p.name)] ++ flag (!depends.isEmpty) "depends" (Text.join "," depends) ++
      [("description", "Build " ++ p.outputFile)])
    [leaf "mkdir" [("dir", baseReference)], compiler needed p (p.configuration configuration)]

/-- The target for all projects. -/
def buildTarget (o : BuildOrder) : Xml.Node :=
  leaf "target"
    ([("name", "build")] ++ flag (!o.projects.isEmpty) "depends" (Text.join "," o.names) ++
      [("description", "Build every project in the solution")])

/-- The deletion of a file. -/
def delete (file : String) : Xml.Node :=
  leaf "delete" [("file", file), ("failonerror", "false")]

/-- The target that deletes what is built. -/
def cleanTarget (o : BuildOrder) (configuration : String) : Xml.Node :=
  .element "target" [("name", "clean"), ("description", "Delete build outputs")]
    (o.projects.flatMap fun p =>
      delete (artifact p) :: ((documentation? (p.configuration configuration)).map delete).toList)

/-- The value as a text, which it has to be. -/
def textOf : ParameterValue → Except Failure String
  | .text s => .ok s
  | value => .error (.notText value.shown value.typeName)

/-- The properties that parameters stand for. -/
def properties (m : Parameters) : Except Failure (List Xml.Node) := do
  let given ← m.mapM fun (name, value) => do
    pure (leaf "property" [("name", name), ("value", ← textOf value)])
  let usual := leaf "property"
    [("name", Parameters.baseDirectory), ("value", "bin"), ("overwrite", "false")]
  pure (given ++ if m.has Parameters.baseDirectory then [] else [usual])

/-- The name of the script. -/
def projectName (m : Parameters) (solutionName : String) : Except Failure String :=
  match m.given? "project.name" with
  | some value => textOf value
  | none => .ok (if solutionName = "" then "solution" else solutionName)

/-- The script as a tree. -/
def document (o : BuildOrder) (m : Parameters) (solutionName : String) :
    Except Failure Xml.Node := do
  let name ← projectName m solutionName
  let properties ← properties m
  let targets ← o.projects.mapM fun p =>
    (o.dependencies p).map (projectTarget m.configurationName p)
  let origin :=
    if solutionName = "" then []
    else [Xml.Node.comment (" Generated by slingshot from " ++ solutionName ++ ".sln ")]
  pure (.element "project" [("name", name), ("default", "build"), ("basedir", ".")]
    (origin ++ properties ++ targets ++ [buildTarget o, cleanTarget o m.configurationName]))

/-- What the script starts with. -/
def declaration : String := "<?xml version=\"1.0\" encoding=\"utf-8\"?>\n"

/-- The text of a script. -/
def documentText (tree : Xml.Node) : String :=
  declaration ++ String.ofList ((tree.indent 0).render) ++ "\n"

/-- The script that builds the projects. -/
def script (o : BuildOrder) (m : Parameters) (solutionName : String) : Except Failure String :=
  match o.projects.find? fun p => reservedTargets.contains p.name with
  | some p => .error (.tool (.emit formatName (.reservedName p.name)))
  | none => (document o m solutionName).map documentText

end SolutionScript.NAnt
