import SolutionScript.Failure
import SolutionScript.FileSystem.Glob
import SolutionScript.Solution.DescriptorPath
import SolutionScript.Text.Blank

/-!
# Includes

The files that an item of a descriptor includes: paths between semicolons. A
path with wildcards stands for the files that fit it, in ascending order; any
other path stands for itself, whether there is such a file or not.
-/

namespace SolutionScript.Include

open FileSystem

/-- Whether a path has wildcards. -/
def isWild (part : String) : Bool := part.toList.any fun c => c == '*' || c == '?'

/-- The paths between semicolons in descriptor form, without empty ones. -/
def partsOf (item : String) : List String :=
  ((Text.splitAt ';' item).map fun part => DescriptorPath.ofHost (Text.trim part)).filter
    (· != "")

/-- The names of a path with backslashes between them. -/
def descriptorPath (names : List String) : String := Text.join "\\" names

/-- The files in a folder that fit a path with wildcards. -/
def matching (d : Disk) (folder : HostPath) (part : String) : Except FileSystem.Fault (List String)
    := do
  match PathPattern.parse (DescriptorPath.toHost part) with
  | .error fault => throw (.pattern fault)
  | .ok pattern =>
    let found ← d.glob folder pattern
    let files ← d.onlyFiles (sorted found)
    pure (files.map fun p => descriptorPath (below folder p))

/-- The files that one path stands for. -/
def expandPart (d : Disk) (folder : HostPath) (part : String) :
    Except FileSystem.Fault (List String) :=
  if isWild part then matching d folder part else .ok [part]

/-- The files that an item includes, seen from a folder. -/
def expand (d : Disk) (folder : HostPath) (item : String) :
    Except Failure (List String) :=
  match (partsOf item).mapM (expandPart d folder) with
  | .ok found => .ok found.flatten
  | .error fault => .error (.disk fault)

end SolutionScript.Include
