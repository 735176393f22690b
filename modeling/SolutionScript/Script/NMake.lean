import SolutionScript.Graph.BuildOrder
import SolutionScript.Script.Parameter

/-!
# NMAKE scripts

A makefile with one rule for each project, in build order. The target of a rule
is the assembly; its prerequisites are the assemblies that the project depends
on and its files. Resources that have to be compiled get rules of their own.
Macros for the compilers and the output directory stand at the start; a
parameter whose macro has one of their names replaces the value and keeps the
place.
-/

namespace SolutionScript.NMake

/-- The name of the format. -/
def formatName : String := "nmake"

/-- The character of a macro's name for a character of a parameter's name. -/
def macroChar (c : Char) : Char :=
  if c.isAlphanum then c.toUpper else '_'

/-- The name of the macro for a parameter. -/
def macroName (parameter : String) : String :=
  String.ofList (parameter.toList.map macroChar)

/-- The macros of a script: the usual ones, and those for the parameters. -/
def macros (m : Parameters) : Keyed String :=
  m.foldl (fun done (name, value) => done.put (macroName name) value.shown)
    (Keyed.ofList ([("csc", "csc"), ("vbc", "vbc"), ("resgen", "resgen"),
      (Parameters.baseDirectory, "bin")].map fun (name, value) => (macroName name, value)))

/-- The reference to the directory that receives what is built. -/
def baseReference : String := "$(BUILD_BASEDIR)"

/-- What stands between the parts of a long line. -/
def continuation : String := " \\\n\t"

/-- The command of the compiler for a language. -/
def compilerMacro : Language → String
  | .csharp => "$(CSC)"
  | .vb => "$(VBC)"

/-- A path in quotes if it has spaces. -/
def quote (path : String) : String :=
  if path.toList.contains ' ' then "\"" ++ path ++ "\"" else path

/-- Where the assembly of a project goes. -/
def artifact (p : Project) : String := baseReference ++ "\\" ++ p.outputFile

/-- The assembly that a reference stands for. -/
def referencePath (p : Project) (r : AssemblyReference) : String :=
  if r.kind = .com then baseReference ++ "\\" ++ r.fileName
  else if r.hintPath ≠ "" && !r.copyLocal then p.resolve r.hintPath
  else r.fileName

/-- The assemblies that a project refers to. `needed` are the projects that it
depends on. -/
def referencePaths (needed : List Project) (p : Project) : List String :=
  p.references.map (referencePath p) ++ needed.map artifact

/-- Where compiled resources of a project go. -/
def resourceFolder (p : Project) : String := baseReference ++ "\\obj\\" ++ p.name

/-- The file that a resource is compiled to. -/
def compiledResource (p : Project) (f : ProjectFile) : String :=
  resourceFolder p ++ "\\" ++ p.resourceName f

/-- The files that a project embeds, with the names under which it does. -/
def embedded (p : Project) : List (String × String) :=
  p.resxFiles.map (fun f => (compiledResource p f, p.resourceName f)) ++
    p.resourceFiles.map fun f => (p.resolve f.relativePath, p.resourceName f)

/-- The line that makes a directory unless it is there. -/
def makeFolder (folder : String) : String :=
  "\t@if not exist \"" ++ folder ++ "\" mkdir \"" ++ folder ++ "\""

/-- The rule that compiles a resource. -/
def resourceRule (p : Project) (f : ProjectFile) : List String :=
  let target := quote (compiledResource p f)
  let source := quote (p.resolve f.relativePath)
  [target ++ ": " ++ source, makeFolder (resourceFolder p),
    "\t$(RESGEN) /nologo " ++ source ++ " " ++ target, ""]

/-- A target with its prerequisites. -/
def dependencyLine (target : String) (prerequisites : List String) : String :=
  target ++ ":" ++
    if prerequisites.isEmpty then "" else " " ++ Text.join continuation prerequisites

/-- What only one of the languages understands. -/
def languageFlags (p : Project) (c : Configuration) : List String :=
  match p.kind with
  | .csharp =>
    (if c.allowUnsafeBlocks then ["/unsafe"] else []) ++
      (if c.checkOverflow then ["/checked+"] else []) ++
      if c.documentationFile = "" then []
      else ["/doc:" ++ baseReference ++ "\\" ++ DescriptorPath.fileName c.documentationFile]
  | .vb =>
    (if p.rootNamespace = "" then [] else ["/rootnamespace:" ++ p.rootNamespace]) ++
      if p.imports.isEmpty then [] else ["/imports:" ++ Text.join "," p.imports]

/-- What the compiler is told, without the sources. -/
def flags (needed : List Project) (p : Project) (c : Configuration) : List String :=
  ["/nologo", "/target:" ++ p.compilerTarget, "/out:$@",
      if c.debugSymbols then "/debug+" else "/debug-"] ++
    (if c.defines.isEmpty then [] else ["/define:" ++ Text.join "," c.defines]) ++
    languageFlags p c ++ (referencePaths needed p).map (fun path => "/r:" ++ quote path) ++
    (embedded p).map fun (path, name) => "/res:" ++ quote path ++ "," ++ name

/-- The sources of a project. -/
def sources (p : Project) : List String := p.sourceFiles.map fun f => p.resolve f.relativePath

/-- The prerequisites of the rule of a project. -/
def prerequisites (needed : List Project) (p : Project) : List String :=
  needed.map artifact ++ sources p ++ (embedded p).map (·.1)

/-- The rules of a project. -/
def projectRules (configuration : String) (p : Project) (needed : List Project) : List String :=
  let command := Text.join continuation
    (flags needed p (p.configuration configuration) ++ (sources p).map quote)
  ["# " ++ p.name, dependencyLine (artifact p) ((prerequisites needed p).map quote),
      makeFolder baseReference, "\t" ++ compilerMacro p.kind ++ " " ++ command, ""] ++
    p.resxFiles.flatMap (resourceRule p)

/-- The rule that deletes what is built. -/
def cleanRule (o : BuildOrder) : List String :=
  let folders := (o.projects.filter (!·.resxFiles.isEmpty)).map resourceFolder
  "clean:" ::
    o.projects.map (fun p =>
      "\t-@if exist \"" ++ artifact p ++ "\" del /q \"" ++ artifact p ++ "\"") ++
    folders.map fun folder => "\t-@if exist \"" ++ folder ++ "\" rmdir /s /q \"" ++ folder ++ "\""

/-- What the script says of its origin. -/
def origin (solutionName : String) : List String :=
  if solutionName = "" then []
  else ["# Generated by slingshot from " ++ solutionName ++ ".sln", ""]

/-- The lines that define the macros. -/
def macroLines (m : Parameters) : List String :=
  (macros m).map fun (name, value) => name ++ " = " ++ value

/-- The lines of the script. -/
def lines (o : BuildOrder) (m : Parameters) (solutionName : String) :
    Except Failure (List String) := do
  let rules ← o.projects.mapM fun p =>
    (o.dependencies p).map (projectRules m.configurationName p)
  pure (origin solutionName ++ macroLines m ++ [""] ++
    [dependencyLine "all" (o.projects.map artifact), ""] ++ rules.flatten ++ cleanRule o ++ [""])

/-- The script that builds the projects. -/
def script (o : BuildOrder) (m : Parameters) (solutionName : String) : Except Failure String :=
  (lines o m solutionName).map (Text.join "\n")

end SolutionScript.NMake
