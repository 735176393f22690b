import SolutionScript.Text.Utf8
import SolutionScript.Xml.Character

/-!
# Tokens of content

Taking apart the content of a document: tags, references, sections of
character data, comments, instructions and the characters between them. A
token that the text ends within is `short`; otherwise the first character
that can not continue it is at fault, given by the number of characters from
there to the end.
-/

namespace SolutionScript.Xml

/-- Why a token can not be read. -/
inductive ScanFault where
  /-- The text ends within the token. -/
  | short
  /-- A character can not stand where it does. -/
  | bad (left : Nat)
  /-- The text ends within a section of character data. -/
  | openData (left : Nat)
  deriving DecidableEq, Repr

/-- A token, and the text after it. -/
abbrev Scan (α : Type) := Except ScanFault (α × List Char)

/-- A reference to an entity by name or to a character by number. A number
without a character that a text may have gives nothing. -/
inductive Reference where
  | entity (name : List Char)
  | character (c : Option Char)
  deriving DecidableEq, Repr

/-- An attribute as it is written: its value with all references, the number
of characters from its name to the end of the text, and the number of
characters after its value. -/
structure RawAttribute where
  name : List Char
  value : List Char
  left : Nat
  after : Nat
  deriving DecidableEq, Repr

/-- A tag as it is written. -/
structure Tag where
  name : List Char
  attributes : List RawAttribute
  /-- Whether the tag ends the element that it starts. -/
  isEmpty : Bool
  deriving DecidableEq, Repr

/-- A token of content. -/
inductive ContentToken where
  | characters (cs : List Char)
  | newline
  | reference (r : Reference)
  | startTag (tag : Tag)
  /-- The end of an element, with the number of characters from the name on. -/
  | endTag (name : List Char) (left : Nat)
  | data (cs : List Char)
  /-- A comment or an instruction. -/
  | aside
  /-- A declaration of the document, which may not stand in content. -/
  | declaration
  deriving DecidableEq, Repr

/-! ## Names and references -/

/-- The name that a text starts with. -/
def scanName : List Char → Scan (List Char)
  | [] => .error .short
  | c :: rest =>
    if isNameStart c then .ok (c :: rest.takeWhile isNamePart, rest.dropWhile isNamePart)
    else .error (.bad (c :: rest).length)

/-- The name that a text starts with, with a prefix before a colon or without. -/
def scanQualifiedName (cs : List Char) : Except ScanFault (List Char × List Char) := do
  let (first, rest) ← scanName cs
  match rest with
  | ':' :: more =>
    let (second, after) ← scanName more
    if after.head? = some ':' then throw (.bad after.length)
    pure (first ++ ':' :: second, after)
  | _ => pure (first, rest)

/-- The number that digits of a base stand for. -/
def numberOf (base : Nat) (digit : Char → Nat) (cs : List Char) : Nat :=
  cs.foldl (fun n c => n * base + digit c) 0

/-- The value of a hexadecimal digit. -/
def hexValue (c : Char) : Nat :=
  if c.isDigit then c.toNat - 48 else if c.toNat < 97 then c.toNat - 55 else c.toNat - 87

/-- Whether a character is a hexadecimal digit. -/
def isHexDigit (c : Char) : Bool :=
  c.isDigit || ('a' ≤ c && c ≤ 'f') || ('A' ≤ c && c ≤ 'F')

/-- The character with a number, if a text may have it. -/
def charOfNumber? (n : Nat) : Option Char := if isXmlCode n then some (Char.ofNat n) else none

/-- Digits up to a semicolon. -/
def scanDigits (isDigit : Char → Bool) (value : List Char → Nat) (cs : List Char) :
    Scan Reference :=
  let digits := cs.takeWhile isDigit
  match cs.dropWhile isDigit with
  | [] => .error .short
  | c :: rest =>
    if c = ';' && !digits.isEmpty then .ok (.character (charOfNumber? (value digits)), rest)
    else .error (.bad (c :: rest).length)

/-- A reference, after its ampersand. -/
def scanReference : List Char → Except ScanFault (Reference × List Char)
  | '#' :: 'x' :: rest => scanDigits isHexDigit (numberOf 16 hexValue) rest
  | '#' :: rest => scanDigits Char.isDigit (numberOf 10 hexValue) rest
  | cs => do
    let (name, rest) ← scanName cs
    match rest with
    | [] => throw .short
    | ';' :: more => pure (.entity name, more)
    | _ => throw (.bad rest.length)

/-! ## Tags -/

/-- The value of an attribute up to its closing quote; `value` holds what was
read, last first. -/
def scanValue (quote : Char) (value : List Char) : List Char → Scan (List Char)
  | [] => .error .short
  | c :: rest =>
    if c = quote then .ok (value.reverse, rest)
    else if c = '<' || !isXmlChar c then .error (.bad (c :: rest).length)
    else if c = '&' then
      match scanReference rest with
      | .error fault => .error fault
      | .ok _ => scanValue quote (c :: value) rest
    else scanValue quote (c :: value) rest

/-- An attribute. -/
def scanAttribute (cs : List Char) : Except ScanFault (RawAttribute × List Char) := do
  let (name, rest) ← scanQualifiedName cs
  match rest.dropWhile isSpace with
  | [] => throw .short
  | '=' :: afterEquals =>
    match afterEquals.dropWhile isSpace with
    | [] => throw .short
    | quote :: body =>
      if quote = '"' || quote = '\'' then
        let (value, after) ← scanValue quote [] body
        pure (⟨name, value, cs.length, after.length + 1⟩, after)
      else throw (.bad (quote :: body).length)
  | other => throw (.bad other.length)

/-- The end of a tag. -/
def scanTagEnd : List Char → Scan Bool
  | [] => .error .short
  | '>' :: rest => .ok (false, rest)
  | '/' :: '>' :: rest => .ok (true, rest)
  | ['/'] => .error .short
  | '/' :: rest => .error (.bad rest.length)
  | cs => .error (.bad cs.length)

/-- Attributes up to the end of a tag, at most `limit` of them; `attributes`
holds those read, last first. -/
def scanAttributes : Nat → List RawAttribute → List Char → Scan (List RawAttribute × Bool)
  | 0, _, _ => .error .short
  | limit + 1, attributes, cs =>
    let next := cs.dropWhile isSpace
    let isName := match next with
      | c :: _ => isNameStart c && next.length < cs.length
      | [] => false
    if isName then
      match scanAttribute next with
      | .error fault => .error fault
      | .ok (a, rest) => scanAttributes limit (a :: attributes) rest
    else match scanTagEnd next with
      | .error fault => .error fault
      | .ok (isEmpty, rest) => .ok ((attributes.reverse, isEmpty), rest)

/-- A tag that starts an element, after its bracket. -/
def scanStartTag (cs : List Char) : Except ScanFault (Tag × List Char) := do
  let (name, rest) ← scanQualifiedName cs
  let ((attributes, isEmpty), after) ← scanAttributes (rest.length + 1) [] rest
  pure (⟨name, attributes, isEmpty⟩, after)

/-- A tag that ends an element, after its slash. -/
def scanEndTag (cs : List Char) : Scan (List Char) :=
  match cs with
  | [] => .error .short
  | c :: rest =>
    if isNameStart c then
      let inName d := isNamePart d || d == ':'
      let name := c :: rest.takeWhile inName
      match (rest.dropWhile inName).dropWhile isSpace with
      | [] => .error .short
      | '>' :: after => .ok (name, after)
      | other => .error (.bad other.length)
    else .error (.bad cs.length)

/-! ## Comments, instructions and character data -/

/-- A comment, after its opening. -/
def scanCommentBody : List Char → Scan Unit
  | [] => .error .short
  | '-' :: '-' :: '>' :: rest => .ok ((), rest)
  | ['-', '-'] => .error .short
  | '-' :: '-' :: rest => .error (.bad rest.length)
  | c :: rest => if isXmlChar c then scanCommentBody rest else .error (.bad (c :: rest).length)

/-- A comment, after its first hyphen. -/
def scanComment : List Char → Scan Unit
  | [] => .error .short
  | '-' :: rest => scanCommentBody rest
  | cs => .error (.bad cs.length)

/-- The body of an instruction up to its end; `body` holds what was read, last
first. -/
def scanInstructionBody (body : List Char) : List Char → Scan (List Char)
  | [] => .error .short
  | '?' :: '>' :: rest => .ok (body.reverse, rest)
  | c :: rest =>
    if isXmlChar c then scanInstructionBody (c :: body) rest
    else .error (.bad (c :: rest).length)

/-- Whether a name is `xml` in any letter case. -/
def isXmlName (name : List Char) : Bool :=
  name.map Char.toLower = ['x', 'm', 'l']

/-- An instruction, after its question mark. Gives the body if the instruction
is the declaration of a document. -/
def scanInstruction (cs : List Char) : Except ScanFault (Option (List Char) × List Char) := do
  let (target, rest) ← scanName cs
  let isDeclaration := target = ['x', 'm', 'l']
  match rest with
  | [] => throw .short
  | c :: more =>
    if isSpace c || c = '?' then
      if isXmlName target && !isDeclaration then throw (.bad rest.length)
      if c = '?' && !more.isEmpty && more.head? ≠ some '>' then throw (.bad more.length)
      let (body, after) ← scanInstructionBody [] rest
      pure (if isDeclaration then some body else none, after)
    else throw (.bad rest.length)

/-- Character data up to the end of its section, with every line end as a line
feed; `data` holds what was read, last first. -/
def scanData (data : List Char) : List Char → Scan (List Char)
  | [] => .error (.openData 0)
  | ']' :: ']' :: '>' :: rest => .ok (data.reverse, rest)
  | [']', ']'] => .error (.openData 2)
  | [']'] => .error (.openData 1)
  | ['\r'] => .error (.openData 1)
  | '\r' :: '\n' :: rest => scanData ('\n' :: data) rest
  | '\r' :: rest => scanData ('\n' :: data) rest
  | c :: rest =>
    if isXmlChar c then scanData (c :: data) rest else .error (.bad (c :: rest).length)

/-- What a section of character data starts with, after its first bracket. -/
def dataMark : List Char := "CDATA[".toList

/-- Passes over a fixed word. -/
def scanWord : List Char → List Char → Scan Unit
  | [], cs => .ok ((), cs)
  | _ :: _, [] => .error .short
  | w :: word, c :: cs => if w = c then scanWord word cs else .error (.bad (c :: cs).length)

/-- A section of character data, after its first bracket. A text that has fewer
bytes left than the mark ends within it, whatever they are; bytes are counted as
in UTF-8. -/
def scanDataSection (cs : List Char) : Except ScanFault (List Char × List Char) := do
  if Text.byteLength (String.ofList (cs.take dataMark.length)) < dataMark.length then throw .short
  let ((), rest) ← scanWord dataMark cs
  scanData [] rest

/-! ## Content -/

/-- A token that starts with `<`, after that character. -/
def scanMarkup (cs : List Char) : Scan ContentToken :=
  match cs with
  | [] => .error .short
  | '!' :: '-' :: rest => (scanComment rest).map fun ((), after) => (.aside, after)
  | '!' :: '[' :: rest => (scanDataSection rest).map fun (data, after) => (.data data, after)
  | ['!'] => .error .short
  | '!' :: rest => .error (.bad rest.length)
  | '?' :: rest => (scanInstruction rest).map fun (body?, after) =>
      (if body?.isSome then .declaration else .aside, after)
  | '/' :: rest => (scanEndTag rest).map fun (name, after) => (.endTag name rest.length, after)
  | _ => (scanStartTag cs).map fun (tag, after) => (.startTag tag, after)

/-- Whether a character stands for itself in content, whatever follows it. -/
def isPlain (c : Char) : Bool :=
  isXmlChar c && c != '<' && c != '&' && c != '\r' && c != '\n' && c != ']'

/-- The token that content starts with. -/
def scanContent (cs : List Char) : Scan ContentToken :=
  match cs with
  | [] => .error .short
  | '<' :: rest => scanMarkup rest
  | '&' :: rest => (scanReference rest).map fun (r, after) => (.reference r, after)
  | '\r' :: '\n' :: rest => .ok (.newline, rest)
  | '\r' :: rest => .ok (.newline, rest)
  | '\n' :: rest => .ok (.newline, rest)
  | ']' :: ']' :: '>' :: rest => .error (.bad (rest.length + 1))
  | c :: rest =>
    if isXmlChar c then
      .ok (.characters (c :: rest.takeWhile isPlain), rest.dropWhile isPlain)
    else .error (.bad cs.length)

end SolutionScript.Xml
