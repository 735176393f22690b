import SolutionScript.Text.Split

/-!
# Host paths

A host path is a root (none, one slash or exactly two) and the names below
it. Reading a path drops empty names and `.` but keeps `..`, because only the
disk knows where a folder's parent is; the path without root and names is
written `.`. `HostPath.join` lets a rooted second path replace the first, and
`HostPath.collapse` takes `..` as the name before it undone.
-/

namespace SolutionScript

/-- How a path is anchored. -/
inductive HostRoot where
  | relative
  | single
  | double
  deriving DecidableEq, Repr

/-- A path on the host: a root and the names below it. -/
structure HostPath where
  root : HostRoot
  names : List String
  deriving DecidableEq, Repr

namespace HostPath

/-- The root as it is written. -/
def rootText : HostRoot → String
  | .relative => ""
  | .single => "/"
  | .double => "//"

/-- The root that a path with these characters has: two slashes are kept as
two, any other number of them counts as one. -/
def rootOf (cs : List Char) : HostRoot :=
  match (cs.takeWhile (· == '/')).length with
  | 0 => .relative
  | 2 => .double
  | _ => .single

/-- Reads a path. -/
def parse (s : String) : HostPath where
  root := rootOf s.toList
  names := (Text.splitAt '/' s).filter fun name => name != "" && name != "."

/-- Writes a path. -/
def render (p : HostPath) : String :=
  if p.root = .relative && p.names.isEmpty then "."
  else rootText p.root ++ Text.join "/" p.names

/-- Whether a path starts at a root. -/
def isAbsolute (p : HostPath) : Bool := p.root != .relative

/-- The second path, seen from the first. -/
def join (base p : HostPath) : HostPath :=
  if p.isAbsolute then p else { base with names := base.names ++ p.names }

/-- The path with one more name. -/
def child (p : HostPath) (name : String) : HostPath := { p with names := p.names ++ [name] }

/-- The path without its last name. -/
def parent (p : HostPath) : HostPath := { p with names := p.names.dropLast }

/-- The last name, empty if there is none. -/
def name (p : HostPath) : String := p.names.getLast?.getD ""

/-- A name split before the last dot, unless that is its first or last
character. -/
def splitName (name : String) : String × String :=
  let tail := (name.toList.reverse.takeWhile (· != '.')).reverse
  let head := name.toList.take (name.toList.length - tail.length - 1)
  if tail.length < name.toList.length && !tail.isEmpty && !head.isEmpty then
    (String.ofList head, String.ofList ('.' :: tail))
  else (name, "")

/-- The last name without its extension. -/
def stem (p : HostPath) : String := (splitName p.name).1

/-- The extension of the last name, with its dot. -/
def suffix (p : HostPath) : String := (splitName p.name).2

/-- The parts that paths are ordered by: the root, if there is one, and the names. -/
def parts (p : HostPath) : List String :=
  if p.root = .relative then p.names else rootText p.root :: p.names

/-- Ascending order of lists of names, name by name. -/
def partsLe : List String → List String → Bool
  | [], _ => true
  | _ :: _, [] => false
  | a :: as, b :: bs => if a = b then partsLe as bs else Text.le a b

/-- Ascending order, name by name. -/
def le (p q : HostPath) : Bool := partsLe p.parts q.parts

/-- One more name on a location (its names from the root), where `..` leads to
the parent and the root is its own parent. -/
def stepTo (location : List String) (name : String) : List String :=
  if name = ".." then location.dropLast else location ++ [name]

/-- The names of the location that a path denotes from the current folder, when
`..` simply undoes the name before it. -/
def collapse (home : List String) (p : HostPath) : List String :=
  p.names.foldl stepTo (if p.isAbsolute then [] else home)

end HostPath

end SolutionScript
