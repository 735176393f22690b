import SolutionScript.Text.Quoted

/-!
# Faults of the disk

What can go wrong when a path or a pattern meets the disk. A fault of the
operating system carries the paths it is about, unless the file is open by
then; its reason is one of a fixed list, with the number under which systems
know it.
-/

namespace SolutionScript.FileSystem

/-- Why the operating system refuses. -/
inductive Reason where
  | noSuchFile
  | denied
  | busy
  | alreadyThere
  | notDirectory
  | isDirectory
  | noSpace
  | nameTooLong
  deriving DecidableEq, Repr

namespace Reason

/-- The number of the error. -/
def code : Reason → Nat
  | noSuchFile => 2
  | denied => 13
  | busy => 16
  | alreadyThere => 17
  | notDirectory => 20
  | isDirectory => 21
  | noSpace => 28
  | nameTooLong => 36

/-- The error in words. -/
def text : Reason → String
  | noSuchFile => "No such file or directory"
  | denied => "Permission denied"
  | busy => "Device or resource busy"
  | alreadyThere => "File exists"
  | notDirectory => "Not a directory"
  | isDirectory => "Is a directory"
  | noSpace => "No space left on device"
  | nameTooLong => "File name too long"

/-- Whether the error only says that there is nothing at the path. -/
def meansAbsent : Reason → Bool
  | noSuchFile => true
  | notDirectory => true
  | _ => false

end Reason

/-- Why a text is no file name pattern. -/
inductive PatternFault where
  /-- The pattern has no characters. -/
  | empty
  /-- The pattern starts at a root. -/
  | absolute
  /-- Two stars stand beside something else in one name. -/
  | starsInName
  deriving DecidableEq, Repr

/-- The fault in words. -/
def PatternFault.text : PatternFault → String
  | empty => "Unacceptable pattern: ''"
  | absolute => "Non-relative patterns are unsupported"
  | starsInName => "Invalid pattern: '**' can only be an entire path component"

/-- What can go wrong on the disk. -/
inductive Fault where
  /-- The operating system refuses; a renaming is about two paths. -/
  | system (reason : Reason) (path : String) (target : Option String)
  /-- The operating system refuses a file that is open; no path is named. -/
  | device (reason : Reason)
  /-- A path has a null character. -/
  | nullCharacter
  /-- A pattern is malformed. -/
  | pattern (fault : PatternFault)
  deriving DecidableEq, Repr

/-- The fault in words, with the paths in quotes. -/
def Fault.text : Fault → String
  | system reason path target =>
    let paths := match target with
      | none => Text.quoted path
      | some t => Text.quoted path ++ " -> " ++ Text.quoted t
    "[Errno " ++ toString reason.code ++ "] " ++ reason.text ++ ": " ++ paths
  | device reason => "[Errno " ++ toString reason.code ++ "] " ++ reason.text
  | nullCharacter => "embedded null byte"
  | pattern fault => fault.text

end SolutionScript.FileSystem
