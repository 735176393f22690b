import SolutionScript.Xml.Content
import SolutionScript.Xml.Encoding

/-!
# Documents

Reading a whole document from its bytes: a declaration, which may name the
encoding of what follows it, a document type, the document element, and
nothing but comments and instructions around them. `Document.parse` gives the
tree of the document element.
-/

namespace SolutionScript.Xml

/-- Why bytes are no document that can be read. -/
inductive DocumentFault where
  | malformed (fault : Fault)
  /-- No encoding has the declared name. -/
  | unknownEncoding (name : String)
  /-- The declared encoding takes several bytes for some characters. -/
  | wideEncoding
  /-- The declared name is that of a transformation that gives no text. -/
  | noTextEncoding (name : String)
  /-- The declared encoding fails when it is tried out. -/
  | failingEncoding (name : String) (fault : CodecFault)
  deriving DecidableEq, Repr

namespace Document

/-- What stands before the document element, as far as it was read. -/
structure Heading where
  doctype : Doctype
  hasDoctype : Bool := false

/-- Reads up to the start of the document element, at most `limit` tokens. -/
def readHeading (ending : Option Cause) : Nat → Heading → List Char →
    Except Stop (Doctype × List Char)
  | 0, _, _ => .error ⟨.unexpected, 0⟩
  | limit + 1, h, cs => do
    let l ← lex ending cs
    match l.token with
    | .aside => readHeading ending limit h l.rest
    | .element => pure (h.doctype, cs.dropWhile isSpace)
    | .declaration keyword =>
      if h.hasDoctype || keyword ≠ "DOCTYPE".toList then throw l.refused
      let (doctype, rest) ← readDoctype ending h.doctype l.rest
      readHeading ending limit ⟨doctype, true⟩ rest
    | _ => throw l.refused

/-- Reads what follows the document element, at most `limit` tokens. -/
def readTrailer (ending : Option Cause) : Nat → List Char → Except Stop Unit
  | 0, _ => .ok ()
  | limit + 1, cs =>
    let start := cs.dropWhile isSpace
    if start.isEmpty then
      match ending with
      | some cause => .error ⟨cause, 0⟩
      | none => .ok ()
    else match scanProlog start with
      | .ok (.aside, rest) => readTrailer ending limit rest
      | .ok _ => .error ⟨.junkAfterElement, start.length⟩
      | .error (.bad left) => .error ⟨.invalidToken, left⟩
      | .error _ => .error ⟨ending.getD .unclosedToken, start.length⟩

/-- Reads a document after its declaration. -/
def readBody (ending : Option Cause) (standalone : Bool) (cs : List Char) :
    Except Stop Element := do
  let limit := cs.length + 1
  let (doctype, rest) ← readHeading ending limit { doctype := { standalone } } cs
  let (reading, rest) ← readContent doctype ending (doctype.entities.length + 1) limit [] 0 {} rest
  match reading.root with
  | none => throw ⟨.noElement, rest.length⟩
  | some root =>
    readTrailer ending (rest.length + 1) rest
    pure root

/-- Reads a document whose declaration has been read, `header` being the text up
to there. -/
def readAfter (header : List Char) (standalone : Bool) (decoded : Decoded) :
    Except DocumentFault Element :=
  match readBody decoded.ending standalone decoded.text with
  | .ok e => .ok e
  | .error stop => .error (.malformed (stop.inText (header ++ decoded.text)))

/-- Reads a document that starts with a declaration. `bytes` are those of the
whole document, and `text` is what they stand for in the encoding that they
start in; `body` and `rest` are what the declaration says and what follows. -/
def readDeclared (current : Encoding) (bytes : List UInt8) (decoded : Decoded)
    (body rest : List Char) : Except DocumentFault Element :=
  let text := decoded.text
  let header := text.take (text.length - rest.length)
  let fault (cause : Cause) (left : Nat) : Except DocumentFault Element :=
    .error (.malformed ((Stop.mk cause (left + 2 + rest.length)).inText text))
  match readDeclaration body with
  | .error left => fault .malformedDeclaration left
  | .ok declaration =>
    match declaration.encoding with
    | none => readAfter header declaration.standalone ⟨rest, decoded.ending⟩
    | some (name, nameLeft) =>
      match current.choose name with
      | .use encoding =>
        let width := current.width header
        readAfter (encoding.recount (bytes.take width) header) declaration.standalone
          (encoding.decode (bytes.drop width))
      | .conflict => fault .conflictingEncoding nameLeft
      | .incompatible => fault .unknownEncoding nameLeft
      | .wide => .error .wideEncoding
      | .noText => .error (.noTextEncoding (String.ofList name))
      | .failing fault => .error (.failingEncoding (String.ofList name) fault)
      | .unknown => .error (.unknownEncoding (String.ofList name))

/-- The text after a byte order mark. -/
def afterMark (cs : List Char) : List Char :=
  match cs with
  | '\uFEFF' :: rest => rest
  | _ => cs

/-- The document element of a document. -/
def parse (bytes : List UInt8) : Except DocumentFault Element :=
  if Encoding.isLoneMark bytes then .error (.malformed ⟨.unclosedToken, Position.start⟩)
  else
    let current := Encoding.ofFirstBytes bytes
    let decoded := current.decode bytes
    let start := afterMark decoded.text
    match scanProlog start with
    | .ok (.documentDeclaration body, rest) => readDeclared current bytes decoded body rest
    | _ =>
      readAfter (decoded.text.take (decoded.text.length - start.length)) false
        ⟨start, decoded.ending⟩

end Document

end SolutionScript.Xml
