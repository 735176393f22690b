import SolutionScript.Keyed

/-!
# XML trees

An element has a name, attributes and content. A name in a namespace is
written as the namespace in braces before the local name.
-/

namespace SolutionScript.Xml

/-- A piece of the content of a document. -/
inductive Node where
  | element (name : String) (attributes : Keyed String) (content : List Node)
  | text (s : String)
  | comment (s : String)

/-- An element of a document. -/
structure Element where
  name : String
  attributes : Keyed String
  content : List Node

/-- A name without its namespace. -/
def localPart (name : String) : String :=
  match name.toList with
  | '\x7b' :: rest => String.ofList ((rest.dropWhile (· != '\x7d')).drop 1)
  | _ => name

namespace Element

/-- The element as a piece of content. -/
def toNode (e : Element) : Node := .element e.name e.attributes e.content

/-- The piece of content as an element, if it is one. -/
def ofNode? : Node → Option Element
  | .element name attributes content => some ⟨name, attributes, content⟩
  | _ => none

/-- The name without its namespace. -/
def localName (e : Element) : String := localPart e.name

/-- The elements in the content. -/
def children (e : Element) : List Element := e.content.filterMap ofNode?

/-- The elements in the content with a local name. -/
def childrenNamed (e : Element) (name : String) : List Element :=
  e.children.filter (·.localName = name)

/-- The first element in the content with a local name. -/
def child? (e : Element) (name : String) : Option Element :=
  e.children.find? (·.localName = name)

/-- The value of an attribute. -/
def value? (e : Element) (name : String) : Option String := e.attributes.get? name

/-- The value of an attribute, empty if it is missing. -/
def value (e : Element) (name : String) : String := (e.value? name).getD ""

/-- The text at the start of some content. -/
def leadingText : List Node → String
  | .text s :: rest => s ++ leadingText rest
  | .comment _ :: rest => leadingText rest
  | _ => ""

/-- The text before the first element in the content. -/
def text (e : Element) : String := leadingText e.content

end Element

end SolutionScript.Xml
