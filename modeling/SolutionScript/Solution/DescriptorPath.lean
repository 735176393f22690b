import SolutionScript.Text.Case
import SolutionScript.Text.Split

/-!
# Descriptor paths

Paths as solutions and project descriptors write them: names between
backslashes or slashes, after an optional drive. A drive is a letter and a
colon, or a network share with its host. Joining, normalising and taking
apart follow the rules of that notation and never look at a disk.
-/

namespace SolutionScript.DescriptorPath

/-- Whether a character stands between names. -/
def isSeparator (c : Char) : Bool := c == '\\' || c == '/'

/-- A host path in descriptor form. -/
def ofHost (s : String) : String := Text.replace '/' '\\' s

/-- A descriptor path in host form. -/
def toHost (s : String) : String := Text.replace '\\' '/' s

/-- The number of characters of a network drive, whose two parts start at the
character number `start`; the whole path if a part is missing. -/
def shareLength (start : Nat) (cs : List Char) : Nat :=
  let host := (cs.drop start).takeWhile (!isSeparator ·)
  let afterHost := start + host.length
  if afterHost < cs.length then
    afterHost + 1 + ((cs.drop (afterHost + 1)).takeWhile (!isSeparator ·)).length
  else cs.length

/-- What a network drive in its long form starts with. -/
def longShareMark : List Char := "\\\\?\\UNC\\".toList

/-- The number of characters of the drive. -/
def driveLength (cs : List Char) : Nat :=
  match cs with
  | a :: b :: _ =>
    if isSeparator a && isSeparator b then
      let marked := Text.upperList (Text.replaceList '/' '\\' (cs.take 8)) = longShareMark
      shareLength (if marked then 8 else 2) cs
    else if b = ':' then 2
    else 0
  | _ => 0

/-- A path split after its drive. -/
def splitDrive (cs : List Char) : List Char × List Char :=
  (cs.take (driveLength cs), cs.drop (driveLength cs))

/-- The second path, seen from the first, both with their drives split off. -/
def joinParts (base next : List Char × List Char) : List Char × List Char :=
  let rooted := match next.2 with
    | c :: _ => isSeparator c
    | [] => false
  if rooted then (if !next.1.isEmpty || base.1.isEmpty then next.1 else base.1, next.2)
  else if !next.1.isEmpty && next.1 != base.1 && Text.lowerList next.1 != Text.lowerList base.1 then
    next
  else
    let drive := if next.1.isEmpty then base.1 else next.1
    let ended := match base.2.getLast? with
      | some c => if isSeparator c then base.2 else base.2 ++ ['\\']
      | none => []
    (drive, ended ++ next.2)

/-- A drive and the path below it; a network drive needs a separator. -/
def attachDrive (parts : List Char × List Char) : List Char :=
  match parts.2, parts.1.getLast? with
  | c :: _, some d =>
    if !isSeparator c && d != ':' then parts.1 ++ '\\' :: parts.2 else parts.1 ++ parts.2
  | _, _ => parts.1 ++ parts.2

/-- Paths one after the other, each seen from those before it. -/
def joinAll (first : String) (more : List String) : String :=
  String.ofList (attachDrive
    (more.foldl (fun p s => joinParts p (splitDrive s.toList)) (splitDrive first.toList)))

/-- The second path, seen from the first. -/
def join (base next : String) : String := joinAll base [next]

/-- The path up to its last name, and the last name. -/
def split (s : String) : String × String :=
  let (drive, path) := splitDrive s.toList
  let tail := (path.reverse.takeWhile (!isSeparator ·)).reverse
  let head := path.take (path.length - tail.length)
  let bare := (head.reverse.dropWhile isSeparator).reverse
  (String.ofList (drive ++ if bare.isEmpty then head else bare), String.ofList tail)

/-- The path up to its last name. -/
def directory (s : String) : String := (split s).1

/-- The last name of a path. -/
def fileName (s : String) : String := (split s).2

/-- A path split before the last dot of its last name. Dots that the name
starts with make no extension. -/
def splitExtension (isSeparator : Char → Bool) (s : String) : String × String :=
  let cs := s.toList
  let tail := (cs.reverse.takeWhile (!isSeparator ·)).reverse
  let extension := (tail.reverse.takeWhile (· != '.')).reverse
  let stem := tail.take (tail.length - extension.length - 1)
  if extension.length < tail.length && stem.any (· != '.') then
    (String.ofList (cs.take (cs.length - extension.length - 1)), String.ofList ('.' :: extension))
  else (s, "")

/-- The extension of the last name, in lower case. -/
def extension (s : String) : String := Text.lower (splitExtension isSeparator s).2

/-- The last name without its extension. -/
def stem (s : String) : String := (splitExtension isSeparator (fileName s)).1

/-- One more name in a normal form; `done` holds the names before, last first. -/
def pushName (rooted : Bool) (done : List (List Char)) (name : List Char) : List (List Char) :=
  if name = [] || name = ['.'] then done
  else if name = ['.', '.'] then
    match done with
    | [] => if rooted then [] else [name]
    | last :: rest => if last = ['.', '.'] then name :: done else rest
  else name :: done

/-- The shortest path with the same meaning, with backslashes only. -/
def normal (s : String) : String :=
  let (drive, path) := splitDrive (Text.replaceList '/' '\\' s.toList)
  let rooted := path.head? = some '\\'
  let start := if rooted then drive ++ ['\\'] else drive
  let names := (Text.splitList '\\' (path.dropWhile (· == '\\'))).foldl
    (pushName (start.getLast? = some '\\')) []
  let body := Text.joinList ['\\'] names.reverse
  String.ofList (if start.isEmpty && names.isEmpty then ['.'] else start ++ body)

/-- The form in which paths are compared: backslashes and lower case. -/
def folded (s : String) : String := Text.lower (Text.replace '/' '\\' s)

end SolutionScript.DescriptorPath
