import SolutionScript.Xml.Token

/-!
# Tokens outside content

Taking apart what stands before and after the document element, and the
markup declarations of a document type. A token here may reach to the end of
the text.
-/

namespace SolutionScript.Xml

/-- How often an item of a content model may occur. -/
inductive Occurrence where
  | once
  | optional
  | anyNumber
  | atLeastOnce
  deriving DecidableEq, Repr

/-- A token outside content. -/
inductive PrologToken where
  | space
  | literal (s : List Char)
  /-- A markup declaration, with its keyword. -/
  | declaration (keyword : List Char)
  | sectionStart
  | sectionEnd
  /-- A comment or an instruction. -/
  | aside
  /-- The declaration of a document, with its body. -/
  | documentDeclaration (body : List Char)
  /-- The start of an element. -/
  | element
  | parameterEntity (name : List Char)
  | percent
  | comma
  | bar
  | openBracket
  | closeBracket
  | openParen
  | closeParen (occurrence : Occurrence)
  | close
  /-- A keyword after a number sign. -/
  | keyword (name : List Char)
  | name (s : List Char) (occurrence : Occurrence)
  | prefixedName (s : List Char) (occurrence : Occurrence)
  /-- Name characters that are no name. -/
  | nameToken (s : List Char)
  deriving DecidableEq, Repr

/-- A quoted text after its quote; `text` holds what was read, last first. -/
def scanLiteral (quote : Char) (text : List Char) : List Char → Scan PrologToken
  | [] => .error .short
  | c :: rest =>
    if c = quote then
      match rest with
      | [] => .ok (.literal text.reverse, rest)
      | d :: _ =>
        if isSpace d || d = '>' || d = '%' || d = '[' then .ok (.literal text.reverse, rest)
        else .error (.bad rest.length)
    else if isXmlChar c then scanLiteral quote (c :: text) rest
    else .error (.bad (c :: rest).length)

/-- The keyword of a markup declaration. -/
def scanKeyword (cs : List Char) : Scan PrologToken :=
  match cs.dropWhile fun c => c.isAlpha || c == '_' with
  | [] => .error .short
  | c :: rest =>
    let done := isSpace c || (c = '%' && match rest with
      | d :: _ => !isSpace d && d != '%'
      | [] => false)
    if done then .ok (.declaration (cs.take (cs.length - rest.length - 1)), c :: rest)
    else if c = '%' && rest.isEmpty then .error .short
    else .error (.bad (c :: rest).length)

/-- What follows `<!`. -/
def scanDeclaration (cs : List Char) : Scan PrologToken :=
  match cs with
  | [] => .error .short
  | '-' :: rest => (scanComment rest).map fun ((), after) => (.aside, after)
  | '[' :: rest => .ok (.sectionStart, rest)
  | c :: _ => if c.isAlpha || c = '_' then scanKeyword cs else .error (.bad cs.length)

/-- What follows a percent sign. -/
def scanPercent (cs : List Char) : Scan PrologToken :=
  match cs with
  | [] => .error .short
  | c :: _ =>
    if isSpace c || c = '%' then .ok (.percent, cs)
    else match scanName cs with
      | .error fault => .error fault
      | .ok (_, []) => .error .short
      | .ok (name, ';' :: after) => .ok (.parameterEntity name, after)
      | .ok (_, other) => .error (.bad other.length)

/-- What follows a number sign. -/
def scanPound (cs : List Char) : Scan PrologToken :=
  match scanName cs with
  | .error fault => .error fault
  | .ok (name, []) => .ok (.keyword name, [])
  | .ok (name, c :: rest) =>
    if isSpace c || c = ')' || c = '>' || c = '%' || c = '|' then .ok (.keyword name, c :: rest)
    else .error (.bad (c :: rest).length)

/-- The forms that a run of name characters has while it is read. -/
inductive NameForm where
  | name
  | prefixedName
  | nameToken
  deriving DecidableEq, Repr

/-- The token for a run of name characters. -/
def NameForm.token (form : NameForm) (s : List Char) (occurrence : Occurrence) : PrologToken :=
  match form with
  | name => .name s occurrence
  | prefixedName => .prefixedName s occurrence
  | nameToken => .nameToken s

/-- The rest of a run of name characters; `text` holds what was read, last
first. -/
def scanNameRun (form : NameForm) (text : List Char) : List Char → Scan PrologToken
  | [] => .ok (form.token text.reverse .once, [])
  | c :: rest =>
    let counted (occurrence : Occurrence) : Scan PrologToken :=
      if form = .nameToken then .error (.bad (c :: rest).length)
      else .ok (.name text.reverse occurrence, rest)
    if isNamePart c then scanNameRun form (c :: text) rest
    else if c = ':' then
      match form, rest with
      | .name, [] => .error .short
      | .name, d :: _ =>
        scanNameRun (if isNamePart d then .prefixedName else .nameToken) (c :: text) rest
      | _, _ => scanNameRun .nameToken (c :: text) rest
    else if isSpace c || c = '>' || c = ')' || c = ',' || c = '|' || c = '[' || c = '%' then
      .ok (form.token text.reverse .once, c :: rest)
    else if c = '+' then counted .atLeastOnce
    else if c = '*' then counted .anyNumber
    else if c = '?' then counted .optional
    else .error (.bad (c :: rest).length)

/-- What follows a closing parenthesis. -/
def scanCloseParen (cs : List Char) : Scan PrologToken :=
  match cs with
  | [] => .ok (.closeParen .once, [])
  | c :: rest =>
    if c = '*' then .ok (.closeParen .anyNumber, rest)
    else if c = '?' then .ok (.closeParen .optional, rest)
    else if c = '+' then .ok (.closeParen .atLeastOnce, rest)
    else if isSpace c || c = '>' || c = ',' || c = '|' || c = ')' then .ok (.closeParen .once, cs)
    else .error (.bad cs.length)

/-- What follows `<` outside content. Any character outside ASCII counts as the
start of an element, whose name is looked at when the element is read. -/
def scanOpening (cs : List Char) : Scan PrologToken :=
  match cs with
  | [] => .error .short
  | '!' :: rest => scanDeclaration rest
  | '?' :: rest => (scanInstruction rest).map fun (body?, after) =>
      (match body? with
        | some body => .documentDeclaration body
        | none => .aside, after)
  | c :: _ =>
    if isNameStart c || 128 ≤ c.toNat then .ok (.element, cs) else .error (.bad cs.length)

/-- The token that a text outside content starts with. -/
def scanProlog (cs : List Char) : Scan PrologToken :=
  match cs with
  | [] => .error .short
  | '"' :: rest => scanLiteral '"' [] rest
  | '\'' :: rest => scanLiteral '\'' [] rest
  | '<' :: rest => scanOpening rest
  | '%' :: rest => scanPercent rest
  | ',' :: rest => .ok (.comma, rest)
  | '[' :: rest => .ok (.openBracket, rest)
  | ']' :: ']' :: '>' :: rest => .ok (.sectionEnd, rest)
  | [']', ']'] => .error .short
  | ']' :: rest => .ok (.closeBracket, rest)
  | '(' :: rest => .ok (.openParen, rest)
  | ')' :: rest => scanCloseParen rest
  | '|' :: rest => .ok (.bar, rest)
  | '>' :: rest => .ok (.close, rest)
  | '#' :: rest => scanPound rest
  | c :: rest =>
    if isSpace c then .ok (.space, rest.dropWhile isSpace)
    else if isNameStart c then scanNameRun .name [c] rest
    else if isNamePart c || c = ':' then scanNameRun .nameToken [c] rest
    else .error (.bad cs.length)

/-! ## The declaration of a document -/

/-- A part of the declaration of a document, with the numbers of characters
from its name and from its value to the end of the declaration. -/
structure DeclarationPart where
  name : List Char
  nameLeft : Nat
  value : List Char
  valueLeft : Nat
  deriving DecidableEq, Repr

/-- What the declaration of a document says. -/
structure DocumentDeclaration where
  /-- The name of the encoding, with the number of characters from it to the
  end of the declaration. -/
  encoding : Option (List Char × Nat) := none
  standalone : Bool := false
  deriving DecidableEq, Repr

/-- Whether a character may stand in a value of the declaration. -/
def isDeclarationChar (c : Char) : Bool := c.isAlphanum || c == '.' || c == '-' || c == '_'

/-- The next part of the declaration, if there is one; else the number of
characters from the fault on. -/
def scanPart (cs : List Char) : Except Nat (Option (DeclarationPart × List Char)) :=
  match cs with
  | [] => .ok none
  | c :: _ =>
    if !isSpace c then .error cs.length
    else
      let named := cs.dropWhile isSpace
      let inName c := c.toNat < 128 && c != '=' && !isSpace c
      let name := named.takeWhile inName
      let equals := (named.dropWhile inName).dropWhile isSpace
      if named.isEmpty then .ok none
      else if equals.head? ≠ some '=' || name.isEmpty then .error equals.length
      else
        let opening := (equals.drop 1).dropWhile isSpace
        match opening with
        | [] => .error 0
        | quote :: body =>
          let value := body.takeWhile isDeclarationChar
          let after := body.dropWhile isDeclarationChar
          if quote ≠ '"' && quote ≠ '\'' then .error opening.length
          else if after.head? ≠ some quote then .error after.length
          else .ok (some (⟨name, named.length, value, body.length⟩, after.drop 1))

/-- The standalone part, which ends a declaration. -/
def readStandalone (declaration : DocumentDeclaration) (part : DeclarationPart)
    (rest : List Char) : Except Nat DocumentDeclaration :=
  if part.name ≠ "standalone".toList then .error part.nameLeft
  else if part.value ≠ "yes".toList && part.value ≠ "no".toList then .error part.valueLeft
  else
    let after := rest.dropWhile isSpace
    if after.isEmpty then .ok { declaration with standalone := part.value = "yes".toList }
    else .error after.length

/-- The body of a declaration: a version, perhaps an encoding, perhaps whether
the document stands alone. A fault is given by the number of characters from
there to the end of the body. -/
def readDeclaration (body : List Char) : Except Nat DocumentDeclaration := do
  let some (version, rest) ← scanPart body | throw body.length
  if version.name ≠ "version".toList then throw version.nameLeft
  let some (second, rest) ← scanPart rest | pure {}
  if second.name = "encoding".toList then
    if !(match second.value with
      | c :: _ => c.isAlpha
      | [] => false) then throw second.valueLeft
    let declaration : DocumentDeclaration := { encoding := some (second.value, second.valueLeft) }
    let some (third, rest) ← scanPart rest | pure declaration
    readStandalone declaration third rest
  else readStandalone {} second rest

end SolutionScript.Xml
