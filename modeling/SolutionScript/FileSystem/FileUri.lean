import SolutionScript.FileSystem.Path
import SolutionScript.FileSystem.UriHost
import SolutionScript.Text.Case
import SolutionScript.Text.Utf8

/-!
# File URIs

The path that a `file:` URI names: controls and spaces at its start are
dropped, and tabs and line ends everywhere; query and fragment are cut off, and
percent escapes are decoded as UTF-8. The host part is ignored, but it has to
be one that a URI may have. A URI of another scheme, or with a relative path,
names no path.
-/

namespace SolutionScript.FileSystem

namespace FileUri

/-- The value of a hexadecimal digit. -/
def hexValue? (c : Char) : Option Nat :=
  if '0' ≤ c && c ≤ '9' then some (c.toNat - 48)
  else if 'a' ≤ c && c ≤ 'f' then some (c.toNat - 87)
  else if 'A' ≤ c && c ≤ 'F' then some (c.toNat - 55)
  else none

/-- The bytes of an ASCII text with its percent escapes decoded. A percent sign
that starts no escape stands for itself. -/
def unescape : List Char → List UInt8
  | [] => []
  | '%' :: a :: b :: more =>
    match hexValue? a, hexValue? b with
    | some x, some y => UInt8.ofNat (x * 16 + y) :: unescape more
    | _, _ => 37 :: unescape (a :: b :: more)
  | c :: rest => UInt8.ofNat c.toNat :: unescape rest

/-- A text with its percent escapes decoded. Escapes form characters within a
run of ASCII characters only; `run` holds the current one, last first. -/
def decodeRuns (run : List Char) : List Char → List Char
  | [] => Text.decodeLossy (unescape run.reverse)
  | c :: rest =>
    if c.toNat < 128 then decodeRuns (c :: run) rest
    else Text.decodeLossy (unescape run.reverse) ++ c :: decodeRuns [] rest

/-- The text after the host part, if the host part is well-formed. -/
def afterHost? (rest : List Char) : Option (List Char) :=
  match rest with
  | '/' :: '/' :: more =>
    let inHost c := c != '/' && c != '?' && c != '#'
    if UriHost.isHost (more.takeWhile inHost) then some (more.dropWhile inHost) else none
  | _ => some rest

/-- The path that a URI names. -/
def path? (uri : String) : Option HostPath := do
  let cs := (uri.toList.dropWhile fun c => c.toNat ≤ 32).filter fun c =>
    c != '\t' && c != '\r' && c != '\n'
  let (scheme, rest) ← Text.splitAtWord [':'] cs
  if Text.lowerList scheme ≠ "file".toList then none
  let rest ← afterHost? rest
  let path := rest.takeWhile fun c => c != '#' && c != '?'
  let p := HostPath.parse (String.ofList (decodeRuns [] path))
  if p.isAbsolute then some p else none

end FileUri

end SolutionScript.FileSystem
