import SolutionScript.Failure
import SolutionScript.FileSystem.Disk
import SolutionScript.Solution.Project
import SolutionScript.Xml.Document

/-!
# Reading descriptors

What the readers of project descriptors share: the references to other
projects that they find, the XML tree of a descriptor, and the texts and
truth values in it.
-/

namespace SolutionScript

/-- A reference to another project, as a descriptor makes it. -/
structure ProjectReference where
  projectId : Option String := none
  /-- The descriptor referred to, relative to the solution. -/
  path : Option String := none
  name : String := ""
  deriving DecidableEq, Repr

namespace Descriptor

/-- Whether a value says yes. -/
def isTrue (value : String) : Bool := Text.lower (Text.trim value) = "true"

/-- The text of the first child with a name, without blanks around it. -/
def childText (e : Xml.Element) (name : String) : String :=
  match e.child? name with
  | some child => Text.trim child.text
  | none => ""

/-- The children with a name of an element that may be missing. -/
def childrenOf (e : Option Xml.Element) (name : String) : List Xml.Element :=
  match e with
  | some e => e.childrenNamed name
  | none => []

/-- What a fault of the disk means for the descriptor of a project. -/
def readFault (project : String) (file : HostPath) : FileSystem.Fault → Failure
  | .system .noSuchFile _ _ => .tool (.missingProject project file.render .notFound)
  | .system reason _ _ => .tool (.missingProject project file.render (.refused reason))
  | fault => .disk fault

/-- What a fault of a document means for the descriptor in a file. -/
def documentFault (file : HostPath) : Xml.DocumentFault → Failure
  | .malformed fault =>
    .tool (.descriptor file.render (.malformedXml fault)
      ⟨some fault.position.line, some (fault.position.column + 1)⟩)
  | .unknownEncoding name => .unknownEncoding name
  | .wideEncoding => .wideEncoding
  | .noTextEncoding name => .noTextEncoding name
  | .failingEncoding name fault => .failingEncoding name fault

/-- The XML tree of a descriptor. -/
def load (d : FileSystem.Disk) (file : HostPath) (project : String) :
    Except Failure Xml.Element :=
  match d.read file with
  | .error fault => .error (readFault project file fault)
  | .ok bytes =>
    match Xml.Document.parse bytes with
    | .error fault => .error (documentFault file fault)
    | .ok root => .ok root

end Descriptor

end SolutionScript
