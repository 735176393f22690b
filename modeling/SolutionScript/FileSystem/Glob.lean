import SolutionScript.FileSystem.Disk
import SolutionScript.FileSystem.NamePattern

/-!
# Finding paths by pattern

A path pattern is a list of steps, one for each name: a fixed name, a name
pattern, or `**` for any number of folders. A pattern that ends in a slash
finds folders only. The paths found start with the path searched from; what
order they come in is the disk's affair, and `sorted` puts them in order. How
deep folders and patterns may nest is not limited.
-/

namespace SolutionScript.FileSystem

/-- One step of a path pattern. -/
inductive PathStep where
  /-- The folder reached so far and every folder below it. -/
  | everywhere
  /-- The place with this name. -/
  | named (name : String)
  /-- Every place whose name fits. -/
  | like (pattern : NamePattern)
  /-- The folder reached so far. -/
  | here
  deriving DecidableEq, Repr

/-- A pattern for paths. -/
abbrev PathPattern := List PathStep

namespace PathPattern

/-- Whether a name is a pattern. -/
def isWild (name : String) : Bool := name.toList.any fun c => c == '*' || c == '?' || c == '['

/-- Whether two stars stand side by side in a name. -/
def hasTwoStars (name : String) : Bool := (Text.splitAtWord ['*', '*'] name.toList).isSome

/-- The step that a name stands for. -/
def stepOf (name : String) : Except PatternFault PathStep :=
  if name = "**" then .ok .everywhere
  else if hasTwoStars name then .error .starsInName
  else if isWild name then .ok (.like (NamePattern.parse name.toList))
  else .ok (.named name)

/-- Reads a pattern. -/
def parse (s : String) : Except PatternFault PathPattern := do
  if s.isEmpty then throw .empty
  let path := HostPath.parse s
  if path.isAbsolute then throw .absolute
  let steps ← path.names.mapM stepOf
  pure (if s.toList.getLast? = some '/' then steps ++ [.here] else steps)

end PathPattern

namespace Disk

/-- The location of a folder that a search has come to, if it is there. -/
def folderAt (d : Disk) (p : HostPath) : Except Fault (Option Location) :=
  match d.locate p with
  | .ok l => .ok (some l)
  | .error reason =>
    if reason.meansAbsent then .ok none else .error (.system reason p.render none)

/-- The paths that the steps lead to from a folder. -/
def select (d : Disk) : PathPattern → HostPath → Except Fault (List HostPath)
  | [], p => .ok [p]
  | .here :: _, p => .ok [p]
  | .named name :: rest, p => do
    let next := p.child name
    let goOn ← if rest.isEmpty then d.isPresent next else d.isFolder next
    if goOn then d.select rest next else pure []
  | .like pattern :: rest, p => do
    let fitting := match ← d.folderAt p with
      | some l => (d.tree.names l).filter fun name =>
        (rest.isEmpty || d.tree.isFolder (l ++ [name])) && pattern.fits name.toList
      | none => []
    let found ← fitting.mapM fun name => d.select rest (p.child name)
    pure found.flatten
  | .everywhere :: rest, p => do
    let below := match ← d.folderAt p with
      | some l => d.tree.foldersBelow l
      | none => []
    let starts := p :: below.map fun names => { p with names := p.names ++ names }
    let found ← starts.mapM fun start => do
      let found ← d.select rest start
      -- The folders below are listed after all that is found from here.
      let _ ← d.folderAt start
      pure found
    pure found.flatten.eraseDups

/-- The paths below a folder that fit a pattern. -/
def glob (d : Disk) (p : HostPath) (pattern : PathPattern) : Except Fault (List HostPath) := do
  if ← d.isFolder p then d.select pattern p else pure []

/-- Those of the paths at which a file stands. -/
def onlyFiles (d : Disk) (paths : List HostPath) : Except Fault (List HostPath) :=
  paths.filterM d.isFile

end Disk

/-- The paths in ascending order, name by name. -/
def sorted (paths : List HostPath) : List HostPath := paths.mergeSort HostPath.le

/-- The names of a path found below a folder, seen from that folder. -/
def below (folder p : HostPath) : List String := p.names.drop folder.names.length

end SolutionScript.FileSystem
