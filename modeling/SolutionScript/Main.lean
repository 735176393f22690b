import SolutionScript.Cli.Reach

/-!
# The program

Runs the command line on the real disk. What the run reaches is read into a
file tree first, so that the run itself is a function of it; afterwards the
files that the run has changed are put in place. Patterns in descriptors find
what stands below the folders of the files that are reached.
-/

namespace SolutionScript

open FileSystem

/-- What is known of the disk, the folders listed so far, and the paths that
have been looked at. -/
structure Survey where
  disk : Disk
  listed : List Location := []
  seen : List HostPath := []

namespace Survey

/-- A location as the system names it. -/
def systemPath (l : Location) : String := "/" ++ Text.join "/" l

/-- What stands below a folder, at most `depth` levels deep. Files come without
their bytes. -/
def listBelow : Nat → Location → IO (List (Location × Entry))
  | 0, _ => return []
  | depth + 1, l => do
    let items ← ((← IO.currentDir) / systemPath l).readDir
    let mut found := []
    for item in items do
      let place := l ++ [item.fileName]
      if ← item.path.isDir then
        found := found ++ (place, .folder) :: (← listBelow depth place)
      else
        found := found ++ [(place, .file [])]
    return found

/-- The number of levels that folders are listed to. -/
def levels : Nat := 16

/-- Lists a folder with everything below it. -/
def addFolder (s : Survey) (l : Location) : IO Survey := do
  if s.listed.any (·.isPrefixOf l) then return s
  let found ← listBelow levels l
  let tree := s.disk.tree.makeFolders l
  let new := found.filter fun (place, _) => (tree.entry? place).isNone
  return { s with disk := { s.disk with tree := ⟨tree.entries ++ new⟩ }, listed := l :: s.listed }

/-- Looks at what stands at a path: a folder is listed, and so is the folder of a
file, whose bytes are read. -/
def look (s : Survey) (p : HostPath) : IO Survey := do
  let s := { s with seen := p :: s.seen }
  let l := p.collapse s.disk.home
  let place := (← IO.currentDir) / systemPath l
  if ← place.isDir then s.addFolder l
  else if ← ((← IO.currentDir) / systemPath l.dropLast).isDir then
    let s ← s.addFolder l.dropLast
    if s.disk.tree.entry? l = some (.file []) then
      let bytes ← IO.FS.readBinFile place
      return { s with disk := { s.disk with tree := s.disk.tree.set l (.file bytes.toList) } }
    else return s
  else return s

/-- Looks at all that a run reaches, in at most `rounds` rounds. -/
def complete (words : List String) : Nat → Survey → IO Survey
  | 0, s => return s
  | rounds + 1, s => do
    let new := (Cli.reached s.disk words s.seen).eraseDups.filter (· ∉ s.seen)
    if new.isEmpty then return s
    complete words rounds (← new.foldlM look s)

/-- The number of rounds that are enough for templates in templates. -/
def rounds : Nat := 32

/-- What a command line needs to know of the disk. -/
def start (words : List String) : IO Survey := do
  let home := (HostPath.parse (← IO.currentDir).toString).names
  let s : Survey := { disk := { tree := ⟨[]⟩, home } }
  complete words rounds (← s.look s.disk.homePath)

end Survey

/-- Puts the files in place that are not as they were, each in one step. -/
def putInPlace (old new : FileTree) : IO Unit :=
  new.entries.forM fun (l, entry) => do
    match entry with
    | .file bytes =>
      if old.entry? l ≠ some entry then
        let temporary := l.dropLast ++ [Disk.temporaryName (l.getLast?.getD "") 0]
        IO.FS.writeBinFile (Survey.systemPath temporary) ⟨bytes.toArray⟩
        IO.FS.rename (Survey.systemPath temporary) (Survey.systemPath l)
    | .folder => pure ()

/-- Prints how a run ended, and gives the code for the system. -/
def report : Cli.Outcome → IO UInt32
  | .printed p => do
    (← IO.getStdout).putStr p.out
    (← IO.getStderr).putStr p.err
    return UInt32.ofNat p.code
  | .serve _ => refuse "the tool server has no transport"
  | .failed failure => refuse failure.text
  | .solutionWithoutPath => refuse "the solution is given without a path"
where
  /-- Prints an error. -/
  refuse (message : String) : IO UInt32 := do
    (← IO.getStderr).putStr (Cli.errorLine message)
    return 1

end SolutionScript

open SolutionScript in
/-- Runs the command line. -/
def main (words : List String) : IO UInt32 := do
  let s ← Survey.start words
  let (disk, outcome) := Cli.run s.disk words
  putInPlace s.disk.tree disk.tree
  report outcome
