import SolutionScript.Text.Case
import SolutionScript.Text.Split
import SolutionScript.Text.Utf8
import SolutionScript.Xml.CodePage
import SolutionScript.Xml.Fault

/-!
# Encodings of XML texts

How bytes become characters. The first bytes show whether a document is in
UTF-16; everything else starts as UTF-8 until a declaration names an encoding.
From bytes that are no character on, the text has null characters, which no XML
text may have: one for each byte, or for each two bytes of UTF-16. Bytes that
end within a character leave the cause to report where the text ends.
-/

namespace SolutionScript.Xml

/-- The encodings of documents. -/
inductive Encoding where
  | utf8
  | utf16 (bigEndian : Bool)
  | ascii
  | latin1
  | page (upperHalf : List Char)
  deriving DecidableEq, Repr

/-- The characters of a document, and what is wrong with its end, if the bytes
end within a character. -/
structure Decoded where
  text : List Char
  ending : Option Cause
  deriving DecidableEq, Repr

namespace Encoding

/-- What stands in a text for bytes that are no character. -/
def noCharacter : Char := '\x00'

/-- The text that was read, last first, before units of bytes of which the first
are no character. -/
def stopped (text : List Char) (units : Nat) : Decoded :=
  ⟨text.reverse ++ List.replicate units noCharacter, none⟩

/-- Whether fewer bytes follow than the character starting with a byte needs. -/
def isCut (b : UInt8) (rest : List UInt8) : Bool :=
  match Text.followers b with
  | some (n, _, _) => (rest.take n).length < n
  | none => false

/-- Decodes UTF-8; `text` holds what was read, last first. -/
def decodeUtf8 (text : List Char) : List UInt8 → Decoded
  | [] => ⟨text.reverse, none⟩
  | b :: rest =>
    if isCut b rest then ⟨text.reverse, some .partialCharacter⟩
    else match Text.readChar b rest with
      | (.ok c, taken) => decodeUtf8 (c :: text) (rest.drop taken)
      | (.error _, _) => stopped text (rest.length + 1)
termination_by bytes => bytes.length
decreasing_by simp only [List.length_drop, List.length_cons]; omega

/-- The number that two bytes stand for. -/
def unit (bigEndian : Bool) (a b : UInt8) : Nat :=
  if bigEndian then a.toNat * 256 + b.toNat else b.toNat * 256 + a.toNat

/-- Decodes UTF-16; `text` holds what was read, last first. -/
def decodeUtf16 (bigEndian : Bool) (text : List Char) : List UInt8 → Decoded
  | [] => ⟨text.reverse, none⟩
  | [_] => ⟨text.reverse, some .unclosedToken⟩
  | a :: b :: rest =>
    let n := unit bigEndian a b
    if 0xD800 ≤ n && n < 0xDC00 then
      match rest with
      | c :: d :: more =>
        let m := unit bigEndian c d
        if 0xDC00 ≤ m && m < 0xE000 then
          decodeUtf16 bigEndian
            (Char.ofNat (0x10000 + (n - 0xD800) * 0x400 + (m - 0xDC00)) :: text) more
        else stopped text (more.length / 2 + 2)
      | _ => ⟨text.reverse, some .partialCharacter⟩
    else if 0xDC00 ≤ n && n < 0xE000 then stopped text (rest.length / 2 + 1)
    else decodeUtf16 bigEndian (Char.ofNat n :: text) rest

/-- Decodes an encoding with one byte for each character; `text` holds what was
read, last first. -/
def decodeBytes (char? : UInt8 → Option Char) (text : List Char) : List UInt8 → Decoded
  | [] => ⟨text.reverse, none⟩
  | b :: rest =>
    match char? b with
    | some c => decodeBytes char? (c :: text) rest
    | none => stopped text (rest.length + 1)

/-- The character of a byte in a code page. -/
def pageChar? (upperHalf : List Char) (b : UInt8) : Option Char :=
  if b < 128 then some (Char.ofNat b.toNat)
  else match upperHalf[b.toNat - 128]? with
    | some c => if c = '\uFFFD' then none else some c
    | none => none

/-- Decodes the bytes of a document. -/
def decode : Encoding → List UInt8 → Decoded
  | utf8, bytes => decodeUtf8 [] bytes
  | utf16 bigEndian, bytes => decodeUtf16 bigEndian [] bytes
  | ascii, bytes => decodeBytes (pageChar? []) [] bytes
  | latin1, bytes => decodeBytes (fun b => some (Char.ofNat b.toNat)) [] bytes
  | page upperHalf, bytes => decodeBytes (pageChar? upperHalf) [] bytes

/-- The encoding that the first bytes of a document show. -/
def ofFirstBytes : List UInt8 → Encoding
  | a :: b :: _ =>
    if a = 0xFE && b = 0xFF then utf16 true
    else if a = 0xFF && b = 0xFE then utf16 false
    else if a = 0 then utf16 true
    else if b = 0 then utf16 false
    else utf8
  | _ => utf8

/-- Whether a document ends where its first bytes do not yet show the encoding. -/
def isLoneMark : List UInt8 → Bool
  | [a] => a = 0xFE || a = 0xFF || a = 0xEF || a = 0 || a = 0x3C
  | [a, b] => a = 0xEF && b = 0xBB
  | _ => false

/-- The number of bytes that a text takes, counted for the encodings that a
document can start with. -/
def width (e : Encoding) (text : List Char) : Nat :=
  match e with
  | utf16 _ => 2 * text.length
  | _ => Text.byteLength (String.ofList text)

/-- The text before a change of encoding as places count it: where a byte is a
character, each byte that was read counts as one. -/
def recount (e : Encoding) (bytes : List UInt8) (text : List Char) : List Char :=
  match e with
  | utf8 | utf16 _ => text
  | ascii | latin1 | page _ => bytes.map fun b => Char.ofNat b.toNat

/-- What naming an encoding in a declaration leads to. -/
inductive Choice where
  /-- The rest of the document is in this encoding. -/
  | use (encoding : Encoding)
  /-- The name contradicts what the first bytes show. -/
  | conflict
  /-- The encoding does not extend ASCII. -/
  | incompatible
  /-- The encoding takes several bytes for some characters. -/
  | wide
  /-- The name is that of a transformation that gives no text. -/
  | noText
  /-- The encoding is tried out on all bytes, and fails. -/
  | failing (fault : CodecFault)
  /-- No encoding has this name. -/
  | unknown
  deriving DecidableEq, Repr

/-- The name of an encoding in the form in which code pages list it: in lower
case, and with one underscore for whatever stands between letters, digits and
dots. -/
def pageName (name : List Char) : String :=
  let kept c := Char.isAlphanum c || c = '.'
  let words := (Text.lowerList name).splitBy (fun a b => kept a && kept b)
  Text.join "_" ((words.filter (·.any kept)).map String.ofList)

/-- Whether a list of names has a name, in which dots may stand for underscores
unless the list of exceptions has it. -/
def isListed (names : List String) (key : String) : Bool :=
  let undotted := key.map fun c => if c = '.' then '_' else c
  names.contains key ||
    (names.contains undotted && !undottedNames.contains undotted)

/-- The encodings that fail when they are tried out. -/
def failingEncodings : List (String × CodecFault) :=
  [("idna", .strict), ("punycode", .asciiOnly), ("undefined", .undefined)]

/-- The encoding that a code page name stands for. -/
def ofPageName (name : List Char) : Choice :=
  let key := pageName name
  match codePages.find? (isListed ·.names key) with
  | some p => .use (page p.upperHalf.toList)
  | none =>
    if isListed incompatiblePages key then .incompatible
    else if isListed wideEncodings key then .wide
    else if isListed byteTransformations key then .noText
    else match failingEncodings.lookup key with
      | some fault => .failing fault
      | none => .unknown

/-- What a name in the declaration of a document leads to that started in a
given encoding. -/
def choose (current : Encoding) (name : List Char) : Choice :=
  let isWide := match current with
    | utf16 _ => true
    | _ => false
  let oneByte e := if isWide then .conflict else .use e
  let twoByte big :=
    if current = utf16 big then .use current else .conflict
  match String.ofList (Text.upperList name) with
  | "UTF-16" => if isWide then .use current else .conflict
  | "UTF-16BE" => twoByte true
  | "UTF-16LE" => twoByte false
  | "UTF-8" => oneByte utf8
  | "US-ASCII" => oneByte ascii
  | "ISO-8859-1" => oneByte latin1
  | _ => ofPageName name

end Encoding

end SolutionScript.Xml
