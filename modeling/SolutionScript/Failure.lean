import SolutionScript.FileSystem.Fault
import SolutionScript.Text.CodePoint
import SolutionScript.Text.Split
import SolutionScript.Xml.Fault

/-!
# Failures

Everything that can stop a conversion. Most failures are tool faults: causes
that the tool knows and words itself. The others come from below, and only
`Failure.text` words them.
-/

namespace SolutionScript

/-- What is wrong with a solution or a project descriptor. -/
inductive DescriptorCause where
  | unreadable (reason : String)
  | notText (reason : String)
  | notSolution
  | malformedProject
  | endInSection
  | missingEnd (project : String)
  | malformedDependency
  | duplicateId (id : String)
  | duplicateName (name : String)
  | selfReference (project : String)
  | malformedXml (fault : Xml.Fault)
  | unknownRoot (name : String)
  | unsupportedType (projectType : String)
  | templateInItself
  | notTemplate
  | templateWithoutId (item : String)
  | other (message : String)
  deriving DecidableEq, Repr

/-- The cause in words. -/
def DescriptorCause.text : DescriptorCause → String
  | unreadable reason => "cannot read solution: " ++ reason
  | notText reason => "not a text file: " ++ reason
  | notSolution => "this is not a 'Microsoft Visual Studio Solution File' file"
  | malformedProject => "malformed Project declaration"
  | endInSection => "EndProject inside an open ProjectSection"
  | missingEnd project => "missing EndProject for '" ++ project ++ "'"
  | malformedDependency => "malformed project dependency"
  | duplicateId id => "duplicate project identifier " ++ id
  | duplicateName name => "duplicate project name '" ++ name ++ "'"
  | selfReference project => "project '" ++ project ++ "' references itself"
  | malformedXml fault => "malformed XML: " ++ fault.text
  | unknownRoot name => "unrecognized project descriptor root <" ++ name ++ ">"
  | unsupportedType projectType => "unsupported project type: " ++ projectType
  | templateInItself => "enterprise template includes itself"
  | notTemplate => "not an enterprise template (<EFPROJECT>)"
  | templateWithoutId item => "no GUIDPROJECTID reference for '" ++ item ++ "'"
  | other message => message

/-- A place in a descriptor. Either number may be missing; a column counts only
with a line. -/
structure Place where
  line : Option Nat := none
  column : Option Nat := none
  deriving DecidableEq, Repr

/-- The place as it stands behind a path. -/
def Place.text : Place → String
  | ⟨none, _⟩ => ""
  | ⟨some line, none⟩ => "(" ++ toString line ++ ")"
  | ⟨some line, some column⟩ => "(" ++ toString line ++ "," ++ toString column ++ ")"

/-- Why a project descriptor can not be read. -/
inductive MissingCause where
  | notFound
  | needsMapping
  | refused (reason : FileSystem.Reason)
  | other (reason : String)
  deriving DecidableEq, Repr

/-- The cause in words. -/
def MissingCause.text : MissingCause → String
  | notFound => "file not found"
  | needsMapping => "a prefix mapping needs to be specified"
  | refused reason => reason.text
  | other reason => reason

/-- Why a script can not be produced or delivered. -/
inductive EmitCause where
  /-- A project has the name of a target that every script has. -/
  | reservedName (project : String)
  | closedSink
  | fullSink
  | encoding (fault : Text.EncodeFault)
  /-- A parameter is no text, shown with the name of its type. -/
  | notText (shown typeName : String)
  | unknownProject (id : String)
  | other (reason : String)
  deriving DecidableEq, Repr

/-- The cause in words. -/
def EmitCause.text : EmitCause → String
  | reservedName project =>
    "project '" ++ project ++ "' clashes with the '" ++ project ++ "' target"
  | closedSink => "I/O operation on closed file"
  | fullSink => "No space left on device"
  | encoding fault => fault.text
  | notText shown typeName => "cannot serialize " ++ shown ++ " (type " ++ typeName ++ ")"
  | unknownProject id => Text.quoted id
  | other reason => reason

/-- The faults that the tool words itself. -/
inductive ToolFault where
  /-- A directory without solution; an empty message means the usual one. -/
  | noSolution (directory message : String)
  | ambiguousSolution (directory : String) (candidates : List String)
  | descriptor (path : String) (cause : DescriptorCause) (place : Place)
  | missingProject (project path : String) (cause : MissingCause)
  | unresolvedDependency (project reference : String)
  | cyclicDependency (cycle : List String)
  | unsupportedFormat (format : String) (available : List String)
  | missingParameter (format : String) (names : List String)
  | emit (format : String) (cause : EmitCause)
  | other (message : String)
  deriving DecidableEq, Repr

/-- The word for a kind of fault. -/
def ToolFault.kind : ToolFault → String
  | noSolution .. => "no_solution_found"
  | ambiguousSolution .. => "ambiguous_solution"
  | descriptor .. => "descriptor_parse_error"
  | missingProject .. => "missing_project_file"
  | unresolvedDependency .. => "unresolved_dependency"
  | cyclicDependency .. => "cyclic_dependency"
  | unsupportedFormat .. => "unsupported_format"
  | missingParameter .. => "missing_parameter"
  | emit .. => "emit_error"
  | other _ => "error"

/-- The names of a cycle, with the first one again at the end. -/
def cycleText : List String → String
  | [] => ""
  | first :: rest => Text.join " -> " (first :: rest ++ [first])

/-- The fault in words. -/
def ToolFault.text : ToolFault → String
  | noSolution directory message =>
    if message = "" then directory ++ " does not contain any '.sln' files" else message
  | ambiguousSolution directory candidates =>
    directory ++ " contains too many '.sln' files: " ++ Text.join ", " candidates
  | descriptor path cause place => path ++ place.text ++ ": " ++ cause.text
  | missingProject project path cause =>
    "project '" ++ project ++ "': " ++ cause.text ++ ": " ++ path
  | unresolvedDependency project reference =>
    "Project '" ++ project ++ "' contains reference to unknown project '" ++ reference ++ "'"
  | cyclicDependency cycle => "cyclic project dependency: " ++ cycleText cycle
  | unsupportedFormat format available =>
    "'" ++ format ++ "' is an unsupported format." ++
      if available.isEmpty then "" else " Supported formats: " ++ Text.join ", " available
  | missingParameter format names =>
    "format '" ++ format ++ "' requires parameter(s): " ++ Text.join ", " names
  | emit format cause => "could not write '" ++ format ++ "' script: " ++ cause.text
  | other message => message

/-- A part of what a fault is about. -/
inductive Detail where
  | text (s : String)
  | texts (items : List String)
  | number (n : Nat)
  deriving DecidableEq, Repr

/-- What a fault is about, by name. -/
def ToolFault.details : ToolFault → List (String × Detail)
  | ambiguousSolution _ candidates => [("candidates", .texts candidates)]
  | descriptor path _ place =>
    ("path", .text path) :: (place.line.map fun n => ("line", Detail.number n)).toList ++
      (place.column.map fun n => ("column", Detail.number n)).toList
  | missingProject project path _ => [("project", .text project), ("path", .text path)]
  | unresolvedDependency project reference =>
    [("project", .text project), ("reference", .text reference)]
  | cyclicDependency cycle => [("cycle", .texts cycle)]
  | unsupportedFormat format available =>
    [("format", .text format), ("available", .texts available)]
  | missingParameter format names => [("format", .text format), ("missing", .texts names)]
  | _ => []

/-- Everything that can stop a conversion. -/
inductive Failure where
  | tool (fault : ToolFault)
  | disk (fault : FileSystem.Fault)
  /-- A mapping that is no pair. -/
  | mappingPair (items : List String)
  | unknownEncoding (name : String)
  | wideEncoding
  | noTextEncoding (name : String)
  | failingEncoding (name : String) (fault : Xml.CodecFault)
  | encoding (fault : Text.EncodeFault)
  | unknownProject (id : String)
  /-- A parameter is no text, shown with the name of its type. -/
  | notText (shown typeName : String)
  deriving DecidableEq, Repr

/-- The failure in words. -/
def Failure.text : Failure → String
  | tool fault => fault.text
  | disk fault => fault.text
  | mappingPair items => "mapping needs a source and a target prefix: " ++ Text.quotedList items
  | unknownEncoding name => "unknown encoding: " ++ name
  | wideEncoding => "multi-byte encodings are not supported"
  | noTextEncoding name =>
    "'" ++ name ++ "' is not a text encoding; use codecs.decode() to handle arbitrary codecs"
  | failingEncoding name fault => fault.text name
  | encoding fault => fault.text
  | unknownProject id => Text.quoted id
  | notText shown typeName => "cannot serialize " ++ shown ++ " (type " ++ typeName ++ ")"

end SolutionScript
