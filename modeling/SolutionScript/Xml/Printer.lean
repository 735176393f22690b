import SolutionScript.Text.Blank
import SolutionScript.Xml.Node

/-!
# Writing XML

The text of a tree, and trees with line breaks and indentation. Attribute
values and character data are written so that a reader gives them back as they
are. Comments are written as they stand. Indenting adds blank text only.
-/

namespace SolutionScript.Xml

/-- A character as it stands in an attribute value. -/
def attributeChar (c : Char) : List Char :=
  match c with
  | '&' => "&amp;".toList
  | '<' => "&lt;".toList
  | '>' => "&gt;".toList
  | '"' => "&quot;".toList
  | '\r' => "&#13;".toList
  | '\n' => "&#10;".toList
  | '\t' => "&#09;".toList
  | _ => [c]

/-- A character as it stands in character data. -/
def dataChar (c : Char) : List Char :=
  match c with
  | '&' => "&amp;".toList
  | '<' => "&lt;".toList
  | '>' => "&gt;".toList
  | _ => [c]

/-- An attribute in a tag. -/
def attributeText (name value : String) : List Char :=
  ' ' :: name.toList ++ '=' :: '"' :: value.toList.flatMap attributeChar ++ ['"']

/-- The attributes in a tag. -/
def attributesText (attributes : Keyed String) : List Char :=
  attributes.flatMap fun (name, value) => attributeText name value

mutual

/-- The text of a piece of content. -/
def Node.render : Node → List Char
  | .text s => s.toList.flatMap dataChar
  | .comment s => "<!--".toList ++ s.toList ++ "-->".toList
  | .element name attributes content =>
    let start := '<' :: name.toList ++ attributesText attributes
    match content with
    | [] => start ++ " />".toList
    | first :: rest =>
      start ++ '>' :: (Node.render first ++ renderAll rest) ++ "</".toList ++ name.toList ++ ['>']

/-- The text of some content. -/
def renderAll : List Node → List Char
  | [] => []
  | node :: rest => Node.render node ++ renderAll rest

end

/-! ## Indentation -/

/-- The spaces of one level. -/
def indentUnit : List Char := "    ".toList

/-- A line break and the spaces of a level. -/
def lineBreak (level : Nat) : Node :=
  .text (String.ofList ('\n' :: (List.replicate level indentUnit).flatten))

mutual

/-- A piece of content with its own content on lines of its own. -/
def Node.indent (level : Nat) : Node → Node
  | .element name attributes (first :: rest) =>
    .element name attributes
      (lineBreak (level + 1) :: Node.indent (level + 1) first :: indentRest level rest)
  | node => node

/-- What follows the first piece of the content of an element at a level. -/
def indentRest (level : Nat) : List Node → List Node
  | [] => [lineBreak level]
  | node :: rest => lineBreak (level + 1) :: Node.indent (level + 1) node :: indentRest level rest

end

end SolutionScript.Xml
