import SolutionScript.Proofs.Xml.Content

/-!
# Elements without text

What is read off the names, the attributes and the elements in an element does not depend on the
text and the comments in it: an element and the same one without them have the same children
(`children_outlined`), which are found in the same way.
-/

namespace SolutionScript.Xml.Element

/-- An element without the text and the comments in it. -/
def outlined (e : Element) : Element := { e with content := outlineAll e.content }

variable {e e' : Element}

theorem value_outlined (e : Element) : e.outlined.value = e.value := rfl

theorem localName_outlined (e : Element) : e.outlined.localName = e.localName := rfl

theorem children_outlined (e : Element) : e.outlined.children = e.children.map outlined := by
  obtain ⟨name, attributes, content⟩ := e
  rw [children, outlined, children]
  induction content with
  | nil => rfl
  | cons node content ih =>
    rw [outlineAll, List.filterMap_append, ih]
    cases node <;> rfl

theorem childrenNamed_outlined (e : Element) (name : String) :
    e.outlined.childrenNamed name = (e.childrenNamed name).map outlined := by
  rw [childrenNamed, childrenNamed, children_outlined, List.filter_map]
  rfl

/-- Elements that differ in text and comments only. -/
theorem outlined_eq (hname : e.name = e'.name) (hattributes : e.attributes = e'.attributes)
    (hcontent : outlineAll e.content = outlineAll e'.content) : e.outlined = e'.outlined := by
  rw [outlined, outlined, hname, hattributes, hcontent]

end SolutionScript.Xml.Element
