import SolutionScript.Failure
import SolutionScript.FileSystem.Disk

/-!
# Output files

Writing a text as UTF-8 in place of a file. Line ends are written as they are.
A text that can not be encoded, or for which there is no room, leaves the disk
as it was; when the final renaming fails, or the deletion of a temporary file
that could not be filled, the temporary file stays.
-/

namespace SolutionScript.FileSystem.Disk

/-- Writes a text, given by its code points, to the file at a location. -/
def fillText (d : Disk) (l : Location) (points : List Nat) : Except Failure Disk :=
  match Text.encodePoints points with
  | .ok bytes =>
    match d.fillFile l bytes with
    | .ok d => .ok d
    | .error fault => .error (.disk fault)
  | .error fault => .error (.encoding fault)

/-- Replaces the file at a path by a text, given by its code points. -/
def writeText (d : Disk) (target : HostPath) (points : List Nat) : Disk × Except Failure Unit :=
  let temporary := d.temporaryFile target
  match d.createFile temporary with
  | .error fault => (d, .error (.disk fault))
  | .ok (created, l) =>
    match created.fillText l points with
    | .error failure =>
      match created.deleteFile temporary l with
      | .error fault => (created, .error (.disk fault))
      | .ok deleted => (deleted, .error failure)
    | .ok filled =>
      match filled.renameFile temporary l target with
      | .error fault => (filled, .error (.disk fault))
      | .ok renamed => (renamed, .ok ())

end SolutionScript.FileSystem.Disk
