import SolutionScript.Failure
import SolutionScript.FileSystem.Glob

/-!
# Locating solutions

The solution to work on: a given file, or the only solution in a folder. The
folder alone is searched, not those above or below it.
-/

namespace SolutionScript.Solution

open FileSystem

/-- The pattern that solution files fit. -/
def filePattern : PathPattern := [.like (NamePattern.parse "*.sln".toList)]

/-- The solution files in a folder, in ascending order. -/
def filesIn (d : Disk) (folder : HostPath) : Except FileSystem.Fault (List HostPath) := do
  let found ← d.glob folder filePattern
  pure (sorted (← d.onlyFiles found))

/-- The only solution in a folder, by default the current one. -/
def findIn (d : Disk) (folder : Option HostPath) : Except Failure HostPath :=
  let folder := folder.getD d.homePath
  match filesIn d folder with
  | .error fault => .error (.disk fault)
  | .ok [] => .error (.tool (.noSolution folder.render ""))
  | .ok [file] => .ok file
  | .ok files => .error (.tool (.ambiguousSolution folder.render (files.map (·.name))))

/-- The solution file that a path gives, seen from a folder if there is one. -/
def locateAt (d : Disk) (path : HostPath) : Except Failure HostPath :=
  match d.isFolder path with
  | .error fault => .error (.disk fault)
  | .ok true => findIn d (some path)
  | .ok false =>
    match d.isFile path with
    | .error fault => .error (.disk fault)
    | .ok true => .ok path
    | .ok false =>
      .error (.tool (.noSolution path.parent.render ("solution file not found: " ++ path.render)))

/-- The solution file that is asked for: a path or nothing, and the folder to
search or to start from. -/
def locate (d : Disk) (path folder : Option HostPath) : Except Failure HostPath :=
  match path with
  | none => findIn d folder
  | some p => locateAt d ((folder.getD ⟨.relative, []⟩).join p)

end SolutionScript.Solution
