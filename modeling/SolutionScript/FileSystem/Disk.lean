import SolutionScript.FileSystem.Fault
import SolutionScript.FileSystem.Path
import SolutionScript.FileSystem.Tree
import SolutionScript.Text.Utf8

/-!
# The disk

A file tree with a current folder, and what programs do with it: look at a
path, read a file, and replace a file in one step. A path is followed name by
name, so `a/..` leads nowhere unless `a` is a folder. Replacing fills a
temporary file beside the target and renames it; the device may refuse each of
these steps for reasons of its own (`Disk.refusal?`). Nobody is denied access:
looking at a path and reading a file fail only for where the path leads and for
its length, and links lead nowhere, since there are none.
-/

namespace SolutionScript.FileSystem

/-- The steps of replacing a file. -/
inductive WriteStep where
  | create
  | fill
  | delete
  | rename
  deriving DecidableEq, Repr

/-- A file tree seen from a current folder. -/
structure Disk where
  tree : FileTree
  home : Location
  /-- Why the device itself refuses a step of replacing a file, if it does. -/
  refusal? : WriteStep → Option Reason := fun _ => none

namespace Disk

/-- The bytes that a single name may have. -/
def nameLimit : Nat := 255

/-- The bytes that a path may have. -/
def pathLimit : Nat := 4095

/-- The current folder as a path. -/
def homePath (d : Disk) : HostPath := ⟨.single, d.home⟩

/-- Follows names from a location. Each of them needs a folder to start from;
what stands at the last one is not looked at. -/
def follow (t : FileTree) : Location → List String → Except Reason Location
  | here, [] => .ok here
  | here, name :: rest =>
    match t.entry? here with
    | none => .error .noSuchFile
    | some (.file _) => .error .notDirectory
    | some .folder =>
      if Text.byteLength name > nameLimit then .error .nameTooLong
      else follow t (HostPath.stepTo here name) rest

/-- The location that a path denotes. -/
def locate (d : Disk) (p : HostPath) : Except Reason Location :=
  if Text.byteLength p.render > pathLimit then .error .nameTooLong
  else follow d.tree (if p.isAbsolute then [] else d.home) p.names

/-- Whether a path can not be handed to the operating system at all. -/
def hasNull (p : HostPath) : Bool := p.names.any (·.toList.contains '\x00')

/-- What stands at a path, if anything does. Only refusals other than the
absence of the path are faults. -/
def look (d : Disk) (p : HostPath) : Except Fault (Option Entry) :=
  if hasNull p then .ok none
  else match d.locate p with
    | .ok l => .ok (d.tree.entry? l)
    | .error reason =>
      if reason.meansAbsent then .ok none else .error (.system reason p.render none)

/-- Whether a folder stands at a path. -/
def isFolder (d : Disk) (p : HostPath) : Except Fault Bool :=
  (d.look p).map fun
    | some .folder => true
    | _ => false

/-- Whether a file stands at a path. -/
def isFile (d : Disk) (p : HostPath) : Except Fault Bool :=
  (d.look p).map fun
    | some (.file _) => true
    | _ => false

/-- Whether anything stands at a path. -/
def isPresent (d : Disk) (p : HostPath) : Except Fault Bool :=
  (d.look p).map (·.isSome)

/-- The bytes of the file at a path. -/
def read (d : Disk) (p : HostPath) : Except Fault (List UInt8) :=
  if hasNull p then .error .nullCharacter
  else
    let refuse reason := .error (.system reason p.render none)
    match d.locate p with
    | .error reason => refuse reason
    | .ok l => match d.tree.entry? l with
      | none => refuse .noSuchFile
      | some .folder => refuse .isDirectory
      | some (.file bytes) => .ok bytes

/-! ## Replacing a file -/

/-- The eight characters of the `n`-th temporary name, last first. -/
def tagChars : Nat → Nat → List Char
  | 0, _ => []
  | k + 1, n => Char.ofNat (97 + n % 26) :: tagChars k (n / 26)

/-- The name of the `n`-th temporary file for a target. -/
def temporaryName (target : String) (n : Nat) : String :=
  "." ++ target ++ "." ++ String.ofList (tagChars 8 n).reverse ++ ".tmp"

/-- A temporary name that nothing in the folder has. -/
def freshName (t : FileTree) (folder : Location) (target : String) : String :=
  let taken n := (t.entry? (folder ++ [temporaryName target n])).isSome
  temporaryName target (((List.range (t.entries.length + 1)).find? fun n => !taken n).getD 0)

/-- The folder of a temporary file: the folder of the target with every `..`
undone, up to a null character. -/
def temporaryFolder (d : Disk) (target : HostPath) : HostPath :=
  let full := (HostPath.mk (if target.root = .double then .double else .single)
    (target.parent.collapse d.home)).render
  HostPath.parse (String.ofList (full.toList.takeWhile (· != '\x00')))

/-- The temporary file for a target. -/
def temporaryFile (d : Disk) (target : HostPath) : HostPath :=
  let folder := d.temporaryFolder target
  folder.child (freshName d.tree folder.names target.name)

/-- Makes a new empty file at a path where nothing stands. -/
def createFile (d : Disk) (p : HostPath) : Except Fault (Disk × Location) :=
  let refuse reason := .error (.system reason p.render none)
  if hasNull p then .error .nullCharacter
  else match d.locate p, d.refusal? .create with
    | .error reason, _ => refuse reason
    | .ok _, some reason => refuse reason
    | .ok l, none =>
      if (d.tree.entry? l).isSome then refuse .alreadyThere
      else .ok ({ d with tree := d.tree.set l (.file []) }, l)

/-- Writes bytes to the file at a location. -/
def fillFile (d : Disk) (l : Location) (bytes : List UInt8) : Except Fault Disk :=
  match d.refusal? .fill with
  | some reason => .error (.device reason)
  | none => .ok { d with tree := d.tree.set l (.file bytes) }

/-- Deletes the file at a location, to which a path leads. -/
def deleteFile (d : Disk) (p : HostPath) (l : Location) : Except Fault Disk :=
  match d.refusal? .delete with
  | some reason => .error (.system reason p.render none)
  | none => .ok { d with tree := d.tree.erase l }

/-- Where a renaming to a path may put a file. -/
def renameTarget (d : Disk) (p : HostPath) : Except Reason Location :=
  match d.locate p.parent with
  | .error reason => .error reason
  | .ok folder =>
    if Text.byteLength p.render > pathLimit then .error .nameTooLong
    else match d.tree.entry? folder with
      | none => .error .noSuchFile
      | some (.file _) => .error .notDirectory
      | some .folder =>
        if p.names.isEmpty || p.name = ".." then .error .busy
        else if Text.byteLength p.name > nameLimit then .error .nameTooLong
        else if d.tree.isFolder (folder ++ [p.name]) then .error .isDirectory
        else .ok (folder ++ [p.name])

/-- Moves the file at a location to a path, in place of the file there. -/
def renameFile (d : Disk) (source : HostPath) (l : Location) (target : HostPath) :
    Except Fault Disk :=
  let refuse reason := .error (.system reason source.render (some target.render))
  if hasNull target then .error .nullCharacter
  else match d.renameTarget target, d.refusal? .rename with
    | .error reason, _ => refuse reason
    | .ok _, some reason => refuse reason
    | .ok l', none => .ok { d with tree := d.tree.move l l' }

end Disk

end SolutionScript.FileSystem
