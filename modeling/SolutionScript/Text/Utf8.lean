/-!
# UTF-8

Decoding bytes. A byte sequence that is no character is a fault at its first
byte; how many bytes belong to the fault is fixed by the longest start of a
character that they form, so that decoding with replacements resumes at the
first byte that cannot continue it. `decode` stops at the first fault,
`decodeLossy` puts U+FFFD in its place.
-/

namespace SolutionScript.Text

/-- Why bytes are not a character. -/
inductive Utf8Fault where
  /-- No character starts with this byte. -/
  | badStart
  /-- The character is not continued as its first bytes demand. -/
  | badContinuation
  /-- The bytes end within a character. -/
  | truncated
  deriving DecidableEq, Repr

/-- The fault in words. -/
def Utf8Fault.reason : Utf8Fault → String
  | .badStart => "invalid start byte"
  | .badContinuation => "invalid continuation byte"
  | .truncated => "unexpected end of data"

/-- The form of the character that a byte starts: how many bytes follow, and
the bounds of the first of them. -/
def followers (b : UInt8) : Option (Nat × UInt8 × UInt8) :=
  if b < 0x80 then some (0, 0, 0)
  else if b < 0xC2 then none
  else if b < 0xE0 then some (1, 0x80, 0xBF)
  else if b == 0xE0 then some (2, 0xA0, 0xBF)
  else if b == 0xED then some (2, 0x80, 0x9F)
  else if b < 0xF0 then some (2, 0x80, 0xBF)
  else if b == 0xF0 then some (3, 0x90, 0xBF)
  else if b == 0xF4 then some (3, 0x80, 0x8F)
  else if b < 0xF4 then some (3, 0x80, 0xBF)
  else none

/-- The bits that the first byte of a character of `n + 1` bytes carries. -/
def leadBits (n : Nat) (b : UInt8) : Nat :=
  match n with
  | 0 => b.toNat
  | 1 => b.toNat % 32
  | 2 => b.toNat % 16
  | _ => b.toNat % 8

/-- Reads `n` bytes that continue a character with the bits `value`, the first
of them between `low` and `high`. Also gives the number of bytes taken. -/
def readFollowers (value taken : Nat) (low high : UInt8) :
    Nat → List UInt8 → Except Utf8Fault Char × Nat
  | 0, _ => (.ok (Char.ofNat value), taken)
  | _ + 1, [] => (.error .truncated, taken)
  | n + 1, b :: rest =>
    if low ≤ b && b ≤ high then
      readFollowers (value * 64 + b.toNat % 64) (taken + 1) 0x80 0xBF n rest
    else (.error .badContinuation, taken)

/-- The character that starts with a byte, or the fault there, and how many of
the following bytes belong to it. -/
def readChar (b : UInt8) (rest : List UInt8) : Except Utf8Fault Char × Nat :=
  match followers b with
  | none => (.error .badStart, 0)
  | some (n, low, high) => readFollowers (leadBits n b) 0 low high n rest

/-- The text of the bytes, or the first fault; `text` holds what was read,
last first. -/
def decodeFrom (text : List Char) : List UInt8 → Except Utf8Fault (List Char)
  | [] => .ok text.reverse
  | b :: rest =>
    match readChar b rest with
    | (.ok c, taken) => decodeFrom (c :: text) (rest.drop taken)
    | (.error fault, _) => .error fault
termination_by bytes => bytes.length
decreasing_by simp only [List.length_drop, List.length_cons]; omega

/-- The text of the bytes, or the first fault. -/
def decode (bytes : List UInt8) : Except Utf8Fault (List Char) := decodeFrom [] bytes

/-- The text of the bytes with U+FFFD for each fault; `text` holds what was
read, last first. -/
def decodeLossyFrom (text : List Char) : List UInt8 → List Char
  | [] => text.reverse
  | b :: rest =>
    match readChar b rest with
    | (.ok c, taken) => decodeLossyFrom (c :: text) (rest.drop taken)
    | (.error _, taken) => decodeLossyFrom ('\uFFFD' :: text) (rest.drop taken)
termination_by bytes => bytes.length
decreasing_by all_goals simp only [List.length_drop, List.length_cons]; omega

/-- The text of the bytes with U+FFFD for each fault. -/
def decodeLossy (bytes : List UInt8) : List Char := decodeLossyFrom [] bytes

/-- The bytes of a text. -/
def encode (s : String) : List UInt8 := s.toUTF8.toList

/-- The number of bytes of a text. -/
def byteLength (s : String) : Nat := s.utf8ByteSize

/-- The byte order mark. -/
def byteOrderMark : List UInt8 := [0xEF, 0xBB, 0xBF]

/-- The bytes after a byte order mark. Bytes that end within the mark have no
text at all. -/
def dropByteOrderMark (bytes : List UInt8) : List UInt8 :=
  if byteOrderMark.isPrefixOf bytes then bytes.drop 3
  else if bytes.length < 3 && bytes.isPrefixOf byteOrderMark then []
  else bytes

end SolutionScript.Text
