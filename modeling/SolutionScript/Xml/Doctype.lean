import SolutionScript.Xml.Fault
import SolutionScript.Xml.Prolog

/-!
# Document types

Reading a document type declaration: what its entities stand for and which
values attributes have by default. The first declaration of an entity or an
attribute counts. Nothing outside the document is read; once a part outside
has been mentioned, entities without a declaration may be declared there.
-/

namespace SolutionScript.Xml

/-- What an entity stands for. -/
inductive Entity where
  | text (s : List Char)
  /-- Something outside the document. -/
  | external
  /-- Something outside the document that is no XML. -/
  | binary
  deriving DecidableEq, Repr

/-- What is declared about an attribute of an element. -/
structure AttributeRule where
  element : List Char
  name : List Char
  /-- Whether blanks in the value all count. -/
  keepsBlanks : Bool
  default : Option (List Char)
  deriving DecidableEq, Repr

/-- What a document type declares. -/
structure Doctype where
  entities : List (List Char × Entity) := []
  rules : List AttributeRule := []
  /-- Whether parts outside the document are mentioned. -/
  hasOutside : Bool := false
  /-- Whether the document claims that nothing outside matters. -/
  standalone : Bool := false
  /-- Whether declarations still count. -/
  counts : Bool := true
  deriving DecidableEq, Repr

namespace Doctype

/-- What an entity stands for. -/
def entity? (d : Doctype) (name : List Char) : Option Entity :=
  (d.entities.find? (·.1 = name)).map (·.2)

/-- Whether an entity without a declaration is a fault. -/
def isComplete (d : Doctype) : Bool := !d.hasOutside || d.standalone

/-- The rules for the attributes of an element. -/
def rulesFor (d : Doctype) (element : List Char) : List AttributeRule :=
  d.rules.filter (·.element = element)

/-- Whether blanks in the value of an attribute all count. -/
def keepsBlanks (d : Doctype) (element name : List Char) : Bool :=
  match (d.rulesFor element).find? (·.name = name) with
  | some rule => rule.keepsBlanks
  | none => true

/-- Declares an entity, unless it is declared. -/
def declareEntity (d : Doctype) (name : List Char) (e : Entity) : Doctype :=
  if !d.counts || (d.entity? name).isSome then d
  else { d with entities := d.entities ++ [(name, e)] }

/-- Declares an attribute, unless it is declared. -/
def declareAttribute (d : Doctype) (rule : AttributeRule) : Doctype :=
  if !d.counts || (d.rulesFor rule.element).any (·.name = rule.name) then d
  else { d with rules := d.rules ++ [rule] }

end Doctype

/-- The character that an entity stands for in every document. -/
def predefined? (name : List Char) : Option Char :=
  match String.ofList name with
  | "lt" => some '<'
  | "gt" => some '>'
  | "amp" => some '&'
  | "quot" => some '"'
  | "apos" => some '\''
  | _ => none

/-! ## Attribute values -/

/-- A fault in an attribute value; without a number of characters it is a fault
of the whole tag. -/
structure ValueFault where
  cause : Cause
  left : Option Nat
  deriving DecidableEq, Repr

/-- A blank at the end of a value that is read, last character first. Where not
all blanks count, a blank at the start or after another is dropped. -/
def pushBlank (keepsBlanks : Bool) (value : List Char) : List Char :=
  if !keepsBlanks && (value.isEmpty || value.head? = some ' ') then value else ' ' :: value

/-- A character at the end of a value that is read, last character first. -/
def pushReferenced (keepsBlanks : Bool) (value : List Char) (c : Char) : List Char :=
  if c = ' ' then pushBlank keepsBlanks value else c :: value

/-- Expands a value; `value` holds what was read, last first, `opened` the
entities being expanded, `depth` how many more may be, and `limit` bounds the
steps in the current text. -/
def expandFrom (d : Doctype) (keepsBlanks : Bool) (depth limit : Nat) (opened : List (List Char))
    (value : List Char) (cs : List Char) : Except ValueFault (List Char) :=
  match limit, cs with
  | 0, _ => .ok value
  | _, [] => .ok value
  | limit + 1, '&' :: rest =>
    match scanReference rest with
    | .error (.bad left) => .error ⟨.invalidToken, some left⟩
    | .error _ => .error ⟨.invalidToken, some cs.length⟩
    | .ok (.character none, _) => .error ⟨.invalidCharacterNumber, some cs.length⟩
    | .ok (.character (some c), after) =>
      expandFrom d keepsBlanks depth limit opened (pushReferenced keepsBlanks value c) after
    | .ok (.entity name, after) =>
      match predefined? name with
      | some c => expandFrom d keepsBlanks depth limit opened (c :: value) after
      | none =>
        match d.entity? name with
        | none =>
          if d.isComplete then .error ⟨.undefinedEntity, none⟩
          else expandFrom d keepsBlanks depth limit opened value after
        | some .binary => .error ⟨.binaryEntity, some cs.length⟩
        | some .external => .error ⟨.externalEntityInAttribute, some cs.length⟩
        | some (.text s) =>
          match depth with
          | 0 => .error ⟨.recursiveEntity, none⟩
          | depth + 1 =>
            if opened.contains name then .error ⟨.recursiveEntity, none⟩
            else
              match expandFrom d keepsBlanks depth (s.length + 1) (name :: opened) value s with
              | .error fault => .error { fault with left := none }
              | .ok value => expandFrom d keepsBlanks (depth + 1) limit opened value after
  | _, '<' :: rest => .error ⟨.invalidToken, some (rest.length + 1)⟩
  | limit + 1, '\r' :: '\n' :: rest =>
    expandFrom d keepsBlanks depth limit opened (pushBlank keepsBlanks value) rest
  | limit + 1, c :: rest =>
    expandFrom d keepsBlanks depth limit opened
      (if isSpace c then pushBlank keepsBlanks value else c :: value) rest
termination_by (depth, limit)

/-- The value of an attribute, with its references expanded, while the given
entities are being expanded. -/
def expandValue (d : Doctype) (opened : List (List Char)) (keepsBlanks : Bool) (raw : List Char) :
    Except ValueFault (List Char) :=
  (expandFrom d keepsBlanks (d.entities.length + 1) (raw.length + 1) opened [] raw).map fun value =>
    (if !keepsBlanks && value.head? = some ' ' then value.drop 1 else value).reverse

/-! ## Declarations -/

/-- A token with the number of characters from its start to the end of the
text, and the text after it. -/
structure Lexed where
  token : PrologToken
  left : Nat
  rest : List Char

/-- The next token other than space. `ending` is what is wrong with the end of
the text, if anything is. -/
def lex (ending : Option Cause) (cs : List Char) : Except Stop Lexed :=
  let start := cs.dropWhile isSpace
  if start.isEmpty then .error ⟨ending.getD .noElement, 0⟩
  else match scanProlog start with
    | .ok (token, rest) => .ok ⟨token, start.length, rest⟩
    | .error (.bad left) => .error ⟨.invalidToken, left⟩
    | .error _ => .error ⟨ending.getD .unclosedToken, start.length⟩

/-- The fault of a token that can not stand where it does. -/
def Lexed.refused (l : Lexed) : Stop :=
  match l.token with
  | .parameterEntity _ => ⟨.misplacedParameterEntity, l.left⟩
  | .documentDeclaration _ => ⟨.misplacedDeclaration, l.left⟩
  | _ => ⟨.unexpected, l.left⟩

/-- Whether a token is this keyword. -/
def PrologToken.isWord (token : PrologToken) (word : String) : Bool :=
  token == .name word.toList .once

/-- The name that a token is, with a prefix or without. -/
def PrologToken.anyName? : PrologToken → Option (List Char)
  | .name s .once => some s
  | .prefixedName s .once => some s
  | _ => none

/-- Passes over one given token. -/
def expect (ending : Option Cause) (token : PrologToken) (cs : List Char) :
    Except Stop (List Char) := do
  let l ← lex ending cs
  if l.token = token then pure l.rest else throw l.refused

/-- A quoted text, with the number of characters after it. -/
def expectLiteral (ending : Option Cause) (cs : List Char) :
    Except Stop (List Char × Nat × List Char) := do
  let l ← lex ending cs
  match l.token with
  | .literal s => pure (s, l.rest.length + 1, l.rest)
  | _ => throw l.refused

/-- A public identifier. -/
def expectPublicId (ending : Option Cause) (cs : List Char) : Except Stop (List Char) := do
  let (s, after, rest) ← expectLiteral ending cs
  let bad := s.dropWhile isPublicIdChar
  if bad.isEmpty then pure rest else throw ⟨.invalidPublicId, bad.length + after⟩

/-- The text that a declared entity stands for; `text` holds what was read,
last first, and `after` is the number of characters after the declared value. -/
def entityText (after : Nat) (text : List Char) (limit : Nat) (cs : List Char) :
    Except Stop (List Char) :=
  match limit, cs with
  | 0, _ => .ok text.reverse
  | _, [] => .ok text.reverse
  | limit + 1, '&' :: rest =>
    match scanReference rest with
    | .error (.bad left) => .error ⟨.invalidToken, left + after⟩
    | .error _ => .error ⟨.invalidToken, cs.length + after⟩
    | .ok (.character none, _) => .error ⟨.invalidCharacterNumber, cs.length + after⟩
    | .ok (.character (some c), more) => entityText after (c :: text) limit more
    | .ok (.entity _, _) => entityText after ('&' :: text) limit rest
  | _, '%' :: rest =>
    match scanPercent rest with
    | .error (.bad left) => .error ⟨.invalidToken, left + after⟩
    | .error _ => .error ⟨.invalidToken, cs.length + after⟩
    | .ok (.percent, more) => .error ⟨.invalidToken, more.length + after⟩
    | .ok _ => .error ⟨.misplacedParameterEntity, cs.length + after⟩
  | limit + 1, '\r' :: '\n' :: rest => entityText after ('\n' :: text) limit rest
  | limit + 1, c :: rest => entityText after ((if c = '\r' then '\n' else c) :: text) limit rest

/-- What follows the name of an entity: the entity, unless it is written out. -/
def readEntityValue (ending : Option Cause) (d : Doctype) (l : Lexed) :
    Except Stop (Entity × List Char) := do
  match l.token with
  | .literal s =>
    let text ← if d.counts then entityText (l.rest.length + 1) [] (s.length + 1) s else pure []
    pure (.text text, l.rest)
  | token =>
    if token.isWord "SYSTEM" then
      let (_, _, rest) ← expectLiteral ending l.rest
      pure (.external, rest)
    else if token.isWord "PUBLIC" then
      let rest ← expectPublicId ending l.rest
      let (_, _, rest) ← expectLiteral ending rest
      pure (.external, rest)
    else throw l.refused

/-- The declaration of an entity, after its keyword. -/
def readEntity (ending : Option Cause) (d : Doctype) (cs : List Char) :
    Except Stop (Doctype × List Char) := do
  let l ← lex ending cs
  match l.token with
  | .percent =>
    let named ← lex ending l.rest
    match named.token with
    | .name _ .once =>
      let (_, rest) ← readEntityValue ending d (← lex ending named.rest)
      pure (d, ← expect ending .close rest)
    | _ => throw named.refused
  | .name name .once =>
    let (entity, rest) ← readEntityValue ending d (← lex ending l.rest)
    let declare (e : Entity) :=
      if (predefined? name).isSome then d else d.declareEntity name e
    let next ← lex ending rest
    if next.token = .close then pure (declare entity, next.rest)
    else if entity = .external && next.token.isWord "NDATA" then
      let notation_ ← lex ending next.rest
      match notation_.token with
      | .name _ .once => pure (declare .binary, ← expect ending .close notation_.rest)
      | _ => throw notation_.refused
    else throw next.refused
  | _ => throw l.refused

/-- Names between bars up to a closing parenthesis, at most `limit` of them. -/
def readChoices (ending : Option Cause) (accepts : PrologToken → Bool) :
    Nat → List Char → Except Stop (List Char)
  | 0, _ => .error ⟨.unexpected, 0⟩
  | limit + 1, cs => do
    let l ← lex ending cs
    if !accepts l.token then throw l.refused
    let next ← lex ending l.rest
    match next.token with
    | .closeParen .once => pure next.rest
    | .bar => readChoices ending accepts limit next.rest
    | _ => throw next.refused

/-- The types of attributes in whose values not all blanks count. -/
def tokenTypes : List String :=
  ["ID", "IDREF", "IDREFS", "ENTITY", "ENTITIES", "NMTOKEN", "NMTOKENS"]

/-- The type of an attribute: whether blanks all count in its values. -/
def readAttributeType (ending : Option Cause) (cs : List Char) :
    Except Stop (Bool × List Char) := do
  let l ← lex ending cs
  match l.token with
  | .openParen =>
    let accepts : PrologToken → Bool
      | .name _ .once => true
      | .prefixedName _ .once => true
      | .nameToken _ => true
      | _ => false
    pure (false, ← readChoices ending accepts (l.rest.length + 1) l.rest)
  | token =>
    if token.isWord "CDATA" then pure (true, l.rest)
    else if tokenTypes.any token.isWord then pure (false, l.rest)
    else if token.isWord "NOTATION" then
      let rest ← expect ending .openParen l.rest
      let accepts : PrologToken → Bool
        | .name _ .once => true
        | _ => false
      pure (false, ← readChoices ending accepts (rest.length + 1) rest)
    else throw l.refused

/-- The default value of an attribute, already quoted in the text. -/
def readDefault (d : Doctype) (keepsBlanks : Bool) (l : Lexed) (s : List Char) :
    Except Stop (Option (List Char) × List Char) :=
  if d.counts then
    match expandValue d [] keepsBlanks s with
    | .ok value => .ok (some value, l.rest)
    | .error ⟨cause, some left⟩ => .error ⟨cause, left + l.rest.length + 1⟩
    | .error ⟨cause, none⟩ => .error ⟨cause, l.left⟩
  else .ok (none, l.rest)

/-- What an attribute is by default. -/
def readAttributeDefault (ending : Option Cause) (d : Doctype) (keepsBlanks : Bool)
    (cs : List Char) : Except Stop (Option (List Char) × List Char) := do
  let l ← lex ending cs
  match l.token with
  | .literal s => readDefault d keepsBlanks l s
  | token =>
    if token = .keyword "IMPLIED".toList || token = .keyword "REQUIRED".toList then
      pure (none, l.rest)
    else if token = .keyword "FIXED".toList then
      let fixed ← lex ending l.rest
      match fixed.token with
      | .literal s => readDefault d keepsBlanks fixed s
      | _ => throw fixed.refused
    else throw l.refused

/-- The declarations of attributes of an element, at most `limit` of them. -/
def readAttributes (ending : Option Cause) (element : List Char) :
    Nat → Doctype → List Char → Except Stop (Doctype × List Char)
  | 0, _, _ => .error ⟨.unexpected, 0⟩
  | limit + 1, d, cs => do
    let l ← lex ending cs
    match l.token.anyName? with
    | some name =>
      let (keepsBlanks, rest) ← readAttributeType ending l.rest
      let (value, rest) ← readAttributeDefault ending d keepsBlanks rest
      readAttributes ending element limit
        (d.declareAttribute ⟨element, name, keepsBlanks, value⟩) rest
    | none => if l.token = .close then pure (d, l.rest) else throw l.refused

/-- A content model after its first opening parenthesis: `level` parentheses
are open, and `wantsItem` tells whether an item has to come next. The
connectors of the open groups are remembered. -/
def readModel (ending : Option Cause) :
    Nat → (connectors : List (Option PrologToken)) → (wantsItem : Bool) → List Char →
      Except Stop (List Char)
  | 0, _, _, _ => .error ⟨.unexpected, 0⟩
  | limit + 1, connectors, true, cs => do
    let l ← lex ending cs
    match l.token with
    | .openParen => readModel ending limit (none :: connectors) true l.rest
    | .name _ _ => readModel ending limit connectors false l.rest
    | .prefixedName _ .once => readModel ending limit connectors false l.rest
    | _ => throw l.refused
  | limit + 1, connectors, false, cs => do
    let l ← lex ending cs
    match l.token, connectors with
    | .closeParen _, _ :: [] => pure l.rest
    | .closeParen _, _ :: outer => readModel ending limit outer false l.rest
    | token, used :: outer =>
      if (token = .comma || token = .bar) && used.all (· = token) then
        readModel ending limit (some token :: outer) true l.rest
      else throw l.refused
    | _, [] => throw l.refused

/-- A content model of text and elements, after the keyword for text. -/
def readMixed (ending : Option Cause) (any : Bool) :
    Nat → List Char → Except Stop (List Char)
  | 0, _ => .error ⟨.unexpected, 0⟩
  | limit + 1, cs => do
    let l ← lex ending cs
    match l.token with
    | .closeParen .anyNumber => pure l.rest
    | .closeParen .once => if any then throw l.refused else pure l.rest
    | .bar =>
      let item ← lex ending l.rest
      if item.token.anyName?.isSome then readMixed ending true limit item.rest
      else throw item.refused
    | _ => throw l.refused

/-- The declaration of an element, after its keyword. -/
def readElementType (ending : Option Cause) (cs : List Char) : Except Stop (List Char) := do
  let named ← lex ending cs
  if named.token.anyName?.isNone then throw named.refused
  let l ← lex ending named.rest
  let rest ←
    if l.token.isWord "EMPTY" || l.token.isWord "ANY" then pure l.rest
    else if l.token = .openParen then do
      let first ← lex ending l.rest
      if first.token = .keyword "PCDATA".toList then
        readMixed ending false (first.rest.length + 1) first.rest
      else readModel ending (l.rest.length + 1) [none] true l.rest
    else throw l.refused
  expect ending .close rest

/-- The declaration of a notation, after its keyword. -/
def readNotation (ending : Option Cause) (cs : List Char) : Except Stop (List Char) := do
  let named ← lex ending cs
  match named.token with
  | .name _ .once =>
    let l ← lex ending named.rest
    if l.token.isWord "SYSTEM" then
      let (_, _, rest) ← expectLiteral ending l.rest
      expect ending .close rest
    else if l.token.isWord "PUBLIC" then
      let rest ← expectPublicId ending l.rest
      let next ← lex ending rest
      match next.token with
      | .literal _ => expect ending .close next.rest
      | .close => pure next.rest
      | _ => throw next.refused
    else throw l.refused
  | _ => throw named.refused

/-- The declarations between brackets, at most `limit` of them. -/
def readSubset (ending : Option Cause) : Nat → Doctype → List Char →
    Except Stop (Doctype × List Char)
  | 0, _, _ => .error ⟨.unexpected, 0⟩
  | limit + 1, d, cs => do
    let l ← lex ending cs
    match l.token with
    | .aside => readSubset ending limit d l.rest
    | .closeBracket => pure (d, l.rest)
    | .parameterEntity _ =>
      readSubset ending limit { d with hasOutside := true, counts := d.standalone } l.rest
    | .declaration keyword =>
      match String.ofList keyword with
      | "ENTITY" =>
        let (d, rest) ← readEntity ending d l.rest
        readSubset ending limit d rest
      | "ATTLIST" =>
        let named ← lex ending l.rest
        match named.token.anyName? with
        | some element =>
          let (d, rest) ← readAttributes ending element (named.rest.length + 1) d named.rest
          readSubset ending limit d rest
        | none => throw named.refused
      | "ELEMENT" => readSubset ending limit d (← readElementType ending l.rest)
      | "NOTATION" => readSubset ending limit d (← readNotation ending l.rest)
      | _ => throw l.refused
    | _ => throw l.refused

/-- The end of a document type declaration, with its declarations if it has any. -/
def readDoctypeEnd (ending : Option Cause) (d : Doctype) (l : Lexed) :
    Except Stop (Doctype × List Char) := do
  match l.token with
  | .close => pure (d, l.rest)
  | .openBracket =>
    let (d, rest) ← readSubset ending (l.rest.length + 1) d l.rest
    pure (d, ← expect ending .close rest)
  | _ => throw l.refused

/-- A document type declaration, after its keyword. -/
def readDoctype (ending : Option Cause) (d : Doctype) (cs : List Char) :
    Except Stop (Doctype × List Char) := do
  let named ← lex ending cs
  if named.token.anyName?.isNone then throw named.refused
  let l ← lex ending named.rest
  if l.token.isWord "SYSTEM" || l.token.isWord "PUBLIC" then
    let rest ← if l.token.isWord "PUBLIC" then expectPublicId ending l.rest else pure l.rest
    let (_, _, rest) ← expectLiteral ending rest
    readDoctypeEnd ending { d with hasOutside := true } (← lex ending rest)
  else readDoctypeEnd ending d l

end SolutionScript.Xml
