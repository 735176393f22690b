import SolutionScript.Text.Split
import SolutionScript.Xml.Doctype
import SolutionScript.Xml.Node

/-!
# Namespaces

What prefixes stand for, and the attributes of a tag once declarations of
prefixes are taken out and names are expanded. An expanded name is the
namespace in braces and the local name. A prefix holds for the tag that
declares it and for its content.
-/

namespace SolutionScript.Xml

/-- What prefixes stand for, the innermost declaration first. The empty prefix
is the one of names without prefix; the empty namespace is none. -/
abbrev Bindings := List (List Char × List Char)

/-- The namespace that the prefix `xml` always stands for. -/
def xmlNamespace : List Char := "http://www.w3.org/XML/1998/namespace".toList

/-- The namespace of declarations of prefixes, which no prefix may stand for. -/
def declarationNamespace : List Char := "http://www.w3.org/2000/xmlns/".toList

namespace Bindings

/-- What holds outside of all elements. -/
def initial : Bindings := [("xml".toList, xmlNamespace)]

/-- The namespace of a prefix. -/
def namespace? (b : Bindings) (pre : List Char) : Option (List Char) :=
  (b.find? (·.1 = pre)).map (·.2)

/-- Lets a prefix stand for a namespace. -/
def declare (b : Bindings) (pre uri : List Char) : Except Cause Bindings :=
  if uri.isEmpty && !pre.isEmpty then .error .undeclaredPrefix
  else if pre = "xmlns".toList then .error .reservedDeclarationPrefix
  else if uri.contains '\x7d' then .error .unexpected
  else if pre = "xml".toList then
    if uri = xmlNamespace then .ok ((pre, uri) :: b) else .error .reservedXmlPrefix
  else if uri = xmlNamespace || uri = declarationNamespace then .error .reservedNamespace
  else .ok ((pre, uri) :: b)

end Bindings

/-- A name split at its colon; without one the prefix is empty. -/
def splitPrefix (name : List Char) : List Char × List Char :=
  match Text.splitAtWord [':'] name with
  | some parts => parts
  | none => ([], name)

/-- A name in a namespace, as trees hold it. -/
def expandedName (uri localName : List Char) : String :=
  String.ofList (if uri.isEmpty then localName else '\x7b' :: uri ++ '\x7d' :: localName)

/-- The prefix that an attribute declares, if it is a declaration. -/
def declaredPrefix? (name : List Char) : Option (List Char) :=
  if name = "xmlns".toList then some []
  else
    let (pre, rest) := splitPrefix name
    if pre = "xmlns".toList then some rest else none

/-- A fault in a tag; without a number of characters it is a fault of the whole
tag. -/
abbrev TagFault := ValueFault

/-- The attributes of a tag as they are written, and what prefixes stand for. -/
structure TagScope where
  bindings : Bindings
  /-- Names with their values, last first. -/
  attributes : List (List Char × List Char) := []

namespace TagScope

/-- One more attribute, or one more declaration of a prefix. -/
def add (scope : TagScope) (name value : List Char) : Except TagFault TagScope :=
  match declaredPrefix? name with
  | none => .ok { scope with attributes := (name, value) :: scope.attributes }
  | some pre =>
    match scope.bindings.declare pre value with
    | .ok bindings => .ok { scope with bindings }
    | .error cause => .error ⟨cause, none⟩

/-- The attributes written in a tag; `seen` holds their names so far. -/
def addWritten (d : Doctype) (opened : List (List Char)) (element : List Char) :
    List (List Char) → TagScope → List RawAttribute → Except TagFault TagScope
  | _, scope, [] => .ok scope
  | seen, scope, a :: rest => do
    if seen.contains a.name then throw ⟨.duplicateAttribute, some a.left⟩
    let value ← match expandValue d opened (d.keepsBlanks element a.name) a.value with
      | .ok value => pure value
      | .error fault => throw { fault with left := fault.left.map (· + a.after) }
    addWritten d opened element (a.name :: seen) (← scope.add a.name value) rest

/-- The attributes that a tag has by default. -/
def addDefaults (written : List (List Char)) (scope : TagScope) (rules : List AttributeRule) :
    Except TagFault TagScope :=
  rules.foldlM (fun scope rule =>
    match rule.default with
    | some value => if written.contains rule.name then pure scope else scope.add rule.name value
    | none => pure scope) scope

/-- The attributes with their names expanded. -/
def expand (scope : TagScope) : Except TagFault (Keyed String) :=
  scope.attributes.reverse.foldlM (fun (done : Keyed String) (name, value) => do
    let (pre, rest) := splitPrefix name
    let expanded ←
      if pre.isEmpty then pure (expandedName [] name)
      else match scope.bindings.namespace? pre with
        | some uri => pure (expandedName uri rest)
        | none => throw ⟨.unboundPrefix, none⟩
    if !pre.isEmpty && done.has expanded then throw ⟨.duplicateAttribute, none⟩
    pure (done.put expanded (String.ofList value))) []

end TagScope

/-- What a tag starts: an element without content yet, and the prefixes that
hold in it. -/
def openTag (d : Doctype) (opened : List (List Char)) (b : Bindings) (tag : Tag) :
    Except TagFault (Element × Bindings) := do
  let written ← TagScope.addWritten d opened tag.name [] { bindings := b } tag.attributes
  let scope ← written.addDefaults (tag.attributes.map (·.name)) (d.rulesFor tag.name)
  let attributes ← scope.expand
  let (pre, rest) := splitPrefix tag.name
  match scope.bindings.namespace? pre with
  | some uri => pure (⟨expandedName uri rest, attributes, []⟩, scope.bindings)
  | none =>
    if pre.isEmpty then pure (⟨expandedName [] rest, attributes, []⟩, scope.bindings)
    else throw ⟨.unboundPrefix, none⟩

end SolutionScript.Xml
