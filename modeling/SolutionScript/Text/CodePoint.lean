import SolutionScript.Text.Quoted
import SolutionScript.Text.Utf8

/-!
# Code points

Texts as lists of code points, which may include lone surrogates, and their
encoding. What an encoding has no bytes for is a fault; it covers the first
such code point and all that follow it without a gap, and its positions count
code points.
-/

namespace SolutionScript.Text

/-- The encodings of written texts. -/
inductive Charset where
  | ascii
  | utf8
  deriving DecidableEq, Repr

/-- The name of an encoding. -/
def Charset.name : Charset → String
  | ascii => "ascii"
  | utf8 => "utf-8"

/-- Whether a code point is a surrogate. -/
def isSurrogate (n : Nat) : Bool := 0xD800 ≤ n && n < 0xE000

/-- Whether an encoding has bytes for a code point. -/
def Charset.covers : Charset → Nat → Bool
  | ascii, n => n < 128
  | utf8, n => !isSurrogate n

/-- Why an encoding does not cover a code point. -/
def Charset.limit : Charset → String
  | ascii => "ordinal not in range(128)"
  | utf8 => "surrogates not allowed"

/-- Code points that an encoding does not cover: where they start, the first of
them and how many more there are. -/
structure EncodeFault where
  charset : Charset
  position : Nat
  first : Nat
  more : Nat
  deriving DecidableEq, Repr

/-- The fault in words. -/
def EncodeFault.text (f : EncodeFault) : String :=
  let what :=
    if f.more = 0 then
      "character '" ++ String.ofList (numbered f.first) ++ "' in position " ++ toString f.position
    else
      "characters in position " ++ toString f.position ++ "-" ++ toString (f.position + f.more)
  "'" ++ f.charset.name ++ "' codec can't encode " ++ what ++ ": " ++ f.charset.limit

/-- The code points of a text. -/
def codePoints (s : String) : List Nat := s.toList.map Char.toNat

/-- The first fault in encoding a text, if there is one. -/
def encodeFault? (charset : Charset) (points : List Nat) : Option EncodeFault :=
  match points.dropWhile charset.covers with
  | [] => none
  | n :: rest =>
    let more := (rest.takeWhile fun m => !charset.covers m).length
    some ⟨charset, points.length - rest.length - 1, n, more⟩

/-- The bytes of a text given by its code points. -/
def encodePoints (points : List Nat) : Except EncodeFault (List UInt8) :=
  match encodeFault? .utf8 points with
  | some fault => .error fault
  | none => .ok (encode (String.ofList (points.map Char.ofNat)))

end SolutionScript.Text
