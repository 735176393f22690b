/-!
# Faults of XML texts

Why a text is not well-formed, and where. Lines count from 1 and columns from
0; a carriage return ends a line, with the line feed after it if there is one.
-/

namespace SolutionScript.Xml

/-- Why a text is not well-formed. -/
inductive Cause where
  | noElement
  | unexpected
  | invalidToken
  | unclosedToken
  | partialCharacter
  | mismatchedTag
  | duplicateAttribute
  | junkAfterElement
  | undefinedEntity
  /-- An entity that a declaration elsewhere might define. -/
  | skippedEntity (name : String)
  | recursiveEntity
  | unbalancedEntity
  | invalidCharacterNumber
  | binaryEntity
  | externalEntityInAttribute
  | misplacedDeclaration
  | unknownEncoding
  | conflictingEncoding
  | unclosedCharacterData
  | unboundPrefix
  | undeclaredPrefix
  | malformedDeclaration
  | invalidPublicId
  | reservedXmlPrefix
  | reservedDeclarationPrefix
  | reservedNamespace
  | misplacedParameterEntity
  deriving DecidableEq, Repr

/-- The cause in words. -/
def Cause.text : Cause → String
  | noElement => "no element found"
  | unexpected => "syntax error"
  | invalidToken => "not well-formed (invalid token)"
  | unclosedToken => "unclosed token"
  | partialCharacter => "partial character"
  | mismatchedTag => "mismatched tag"
  | duplicateAttribute => "duplicate attribute"
  | junkAfterElement => "junk after document element"
  | undefinedEntity => "undefined entity"
  | skippedEntity name => "undefined entity &" ++ name ++ ";"
  | recursiveEntity => "recursive entity reference"
  | unbalancedEntity => "asynchronous entity"
  | invalidCharacterNumber => "reference to invalid character number"
  | binaryEntity => "reference to binary entity"
  | externalEntityInAttribute => "reference to external entity in attribute"
  | misplacedDeclaration => "XML or text declaration not at start of entity"
  | unknownEncoding => "unknown encoding"
  | conflictingEncoding => "encoding specified in XML declaration is incorrect"
  | unclosedCharacterData => "unclosed CDATA section"
  | unboundPrefix => "unbound prefix"
  | undeclaredPrefix => "must not undeclare prefix"
  | malformedDeclaration => "XML declaration not well-formed"
  | invalidPublicId => "illegal character(s) in public id"
  | reservedXmlPrefix =>
    "reserved prefix (xml) must not be undeclared or bound to another namespace name"
  | reservedDeclarationPrefix => "reserved prefix (xmlns) must not be declared or undeclared"
  | reservedNamespace => "prefix must not be bound to one of the reserved namespace names"
  | misplacedParameterEntity => "illegal parameter entity reference"

/-- Why an encoding that exists gives no text. -/
inductive CodecFault where
  /-- It does not pass over bytes that are no character. -/
  | strict
  /-- It takes no bytes at all. -/
  | undefined
  /-- It takes the bytes of ASCII only. -/
  | asciiOnly
  deriving DecidableEq, Repr

/-- The fault of the encoding with a name in words. -/
def CodecFault.text (name : String) : CodecFault → String
  | strict => "decoding with '" ++ name ++
      "' codec failed (UnicodeError: Unsupported error handling replace)"
  | undefined => "decoding with '" ++ name ++ "' codec failed (UnicodeError: undefined encoding)"
  | asciiOnly => "'ascii' codec can't decode byte 0x80 in position 82: ordinal not in range(128)"

/-- A place in a text. -/
structure Position where
  line : Nat
  column : Nat
  deriving DecidableEq, Repr

/-- The place that reading the characters leads to. -/
def Position.after (p : Position) : List Char → Position
  | [] => p
  | '\r' :: '\n' :: rest => Position.after ⟨p.line + 1, 0⟩ rest
  | '\r' :: rest => Position.after ⟨p.line + 1, 0⟩ rest
  | '\n' :: rest => Position.after ⟨p.line + 1, 0⟩ rest
  | _ :: rest => Position.after ⟨p.line, p.column + 1⟩ rest

/-- The place where a text starts. -/
def Position.start : Position := ⟨1, 0⟩

/-- Why and where a text is not well-formed. -/
structure Fault where
  cause : Cause
  position : Position
  deriving DecidableEq, Repr

/-- The fault in words. -/
def Fault.text (f : Fault) : String :=
  f.cause.text ++ ": line " ++ toString f.position.line ++ ", column " ++ toString f.position.column

/-- A fault in a text that is still being read: the place is given by the
number of characters from there to the end. -/
structure Stop where
  cause : Cause
  left : Nat
  deriving DecidableEq, Repr

/-- The fault with its place in the whole text. -/
def Stop.inText (s : Stop) (text : List Char) : Fault :=
  ⟨s.cause, Position.start.after (text.take (text.length - s.left))⟩

end SolutionScript.Xml
