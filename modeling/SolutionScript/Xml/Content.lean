import SolutionScript.Xml.Namespace

/-!
# Content

Reading the content of a document into a tree. Elements that have started and
not ended form a stack. The text of an entity is read as content in place of
its reference and has to end as many elements as it starts; whatever is wrong
with it is a fault at the reference.
-/

namespace SolutionScript.Xml

/-- An element that has started; its content holds what was read, last first. -/
structure OpenElement where
  rawName : List Char
  element : Element
  bindings : Bindings

/-- The elements that have started, the innermost first, and the document
element once it has ended. -/
structure Reading where
  stack : List OpenElement := []
  root : Option Element := none

namespace Reading

/-- The prefixes that hold at the place reached. -/
def bindings (r : Reading) : Bindings :=
  match r.stack with
  | top :: _ => top.bindings
  | [] => Bindings.initial

/-- A piece of content in the innermost element. -/
def push (r : Reading) (node : Node) : Reading :=
  match r.stack with
  | [] => r
  | top :: rest =>
    { r with stack :=
        { top with element := { top.element with content := node :: top.element.content } } ::
          rest }

/-- Characters in the innermost element, joined to those right before them. -/
def pushText (r : Reading) (cs : List Char) : Reading :=
  match r.stack with
  | [] => r
  | top :: rest =>
    match top.element.content with
    | .text s :: content =>
      { r with stack :=
          { top with element :=
              { top.element with content := .text (s ++ String.ofList cs) :: content } } :: rest }
    | _ => if cs.isEmpty then r else r.push (.text (String.ofList cs))

/-- Ends an element that is no longer on the stack. -/
def close (r : Reading) (e : Element) : Reading :=
  let done := { e with content := e.content.reverse }
  match r.stack with
  | [] => { r with root := some done }
  | _ :: _ => r.push done.toNode

/-- What a tag that starts an element leads to. -/
def start (r : Reading) (d : Doctype) (opened : List (List Char)) (tag : Tag) (left : Nat) :
    Except Stop Reading :=
  match openTag d opened r.bindings tag with
  | .error fault => .error ⟨fault.cause, fault.left.getD left⟩
  | .ok (element, bindings) =>
    if tag.isEmpty then .ok (r.close element)
    else .ok { r with stack := ⟨tag.name, element, bindings⟩ :: r.stack }

/-- What a tag that ends an element leads to; the lowest `floor` elements on
the stack may not be ended. -/
def finish (r : Reading) (floor : Nat) (name : List Char) (nameLeft left : Nat) :
    Except Stop Reading :=
  match r.stack with
  | [] => .error ⟨.unbalancedEntity, left⟩
  | top :: rest =>
    if r.stack.length = floor then .error ⟨.unbalancedEntity, left⟩
    else if top.rawName = name then .ok ({ r with stack := rest }.close top.element)
    else .error ⟨.mismatchedTag, nameLeft⟩

end Reading

/-- What is wrong where content ends. The document has to end its element; an
entity has to end what it has started. -/
def endContent (ending : Option Cause) (floor : Nat) (r : Reading) (left : Nat) :
    Except Stop (Reading × List Char) :=
  if floor = 0 then .error ⟨ending.getD .noElement, left⟩
  else if r.stack.length = floor then .ok (r, [])
  else .error ⟨.unbalancedEntity, left⟩

/-- The fault of a token that can not be read, `size` characters before the end. -/
def ScanFault.stop (ending : Option Cause) (size : Nat) : ScanFault → Stop
  | .short => ⟨ending.getD .unclosedToken, size⟩
  | .bad left => ⟨.invalidToken, left⟩
  | .openData left =>
    if ending = some .partialCharacter then ⟨.partialCharacter, 0⟩
    else ⟨.unclosedCharacterData, left⟩

/-- Reads content up to the end of the document element, or of an entity's
text: `opened` are the entities being read, `depth` bounds how many more may
be, `limit` bounds the tokens of the current text, and the `floor` lowest
elements have started before that text. -/
def readContent (d : Doctype) (ending : Option Cause) (depth limit : Nat)
    (opened : List (List Char)) (floor : Nat) (r : Reading) (cs : List Char) :
    Except Stop (Reading × List Char) :=
  match limit with
  | 0 => .ok (r, cs)
  | limit + 1 =>
    if r.root.isSome then .ok (r, cs)
    else if cs.isEmpty then endContent ending floor r 0
    else if cs = ['\r'] && floor = 0 && ending ≠ some .partialCharacter then
      .error ⟨.noElement, 1⟩
    else
      match scanContent cs with
      | .error fault => .error (fault.stop ending cs.length)
      | .ok (.characters s, rest) =>
        readContent d ending depth limit opened floor (r.pushText s) rest
      | .ok (.newline, rest) =>
        readContent d ending depth limit opened floor (r.pushText ['\n']) rest
      | .ok (.data s, rest) => readContent d ending depth limit opened floor (r.pushText s) rest
      | .ok (.aside, rest) => readContent d ending depth limit opened floor r rest
      | .ok (.declaration, _) => .error ⟨.misplacedDeclaration, cs.length⟩
      | .ok (.startTag tag, rest) =>
        match r.start d opened tag cs.length with
        | .error stop => .error stop
        | .ok r => readContent d ending depth limit opened floor r rest
      | .ok (.endTag name nameLeft, rest) =>
        match r.finish floor name nameLeft cs.length with
        | .error stop => .error stop
        | .ok r => readContent d ending depth limit opened floor r rest
      | .ok (.reference (.character none), _) => .error ⟨.invalidCharacterNumber, cs.length⟩
      | .ok (.reference (.character (some c)), rest) =>
        readContent d ending depth limit opened floor (r.pushText [c]) rest
      | .ok (.reference (.entity name), rest) =>
        match predefined? name with
        | some c => readContent d ending depth limit opened floor (r.pushText [c]) rest
        | none =>
          match d.entity? name with
          | none =>
            .error ⟨if d.isComplete then .undefinedEntity
              else .skippedEntity (String.ofList name), cs.length⟩
          | some .external => .error ⟨.skippedEntity (String.ofList name), cs.length⟩
          | some .binary => .error ⟨.binaryEntity, cs.length⟩
          | some (.text s) =>
            match depth with
            | 0 => .error ⟨.recursiveEntity, cs.length⟩
            | depth + 1 =>
              if opened.contains name then .error ⟨.recursiveEntity, cs.length⟩
              else
                match readContent d none depth (s.length + 1) (name :: opened) r.stack.length r s
                with
                | .error stop => .error { stop with left := cs.length }
                | .ok (r, _) => readContent d ending (depth + 1) limit opened floor r rest
termination_by (depth, limit)

end SolutionScript.Xml
