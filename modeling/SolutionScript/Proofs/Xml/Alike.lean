import Mathlib.Data.List.Forall2
import SolutionScript.Text.Blank
import SolutionScript.Xml.Node

/-!
# Elements that read alike

Who looks at the local names of elements, at some of their attributes, at the text at their start
without blanks around it and at the elements in them sees no other differences: namespaces, other
attributes, comments, and the blanks by which a tree is indented (`Element.Alike`).
-/

namespace SolutionScript.Xml.Element

/-- Elements that differ in nothing but namespaces, other attributes than those with the names,
blanks and comments. -/
inductive Alike (names : List String) : Element → Element → Prop
  | intro {e e' : Element} (name : e.localName = e'.localName)
      (values : ∀ name ∈ names, e.value name = e'.value name)
      (text : Text.trim e.text = Text.trim e'.text)
      (children : List.Forall₂ (Alike names) e.children e'.children) : Alike names e e'

variable {names : List String} {e e' : Element}

namespace Alike

theorem localName_eq (h : Alike names e e') : e.localName = e'.localName := by
  cases h with
  | intro name values text children => exact name

theorem value_eq (h : Alike names e e') {name : String} (hname : name ∈ names) :
    e.value name = e'.value name := by
  cases h with
  | intro _ values _ _ => exact values name hname

theorem trim_text (h : Alike names e e') : Text.trim e.text = Text.trim e'.text := by
  cases h with
  | intro name values text children => exact text

theorem children (h : Alike names e e') : List.Forall₂ (Alike names) e.children e'.children := by
  cases h with
  | intro name values text children => exact children

theorem childrenNamed (h : Alike names e e') (name : String) :
    List.Forall₂ (Alike names) (e.childrenNamed name) (e'.childrenNamed name) :=
  List.rel_filter (fun _ _ hchild => by simp [hchild.localName_eq]) h.children

theorem child? (h : Alike names e e') (name : String) :
    Option.Rel (Alike names) (e.child? name) (e'.child? name) := by
  have hchildren := h.children
  rw [Element.child?, Element.child?]
  generalize e.children = cs, e'.children = cs' at hchildren
  induction hchildren with
  | nil => exact .none
  | cons hchild _ ih =>
    rw [List.find?_cons, List.find?_cons, hchild.localName_eq]
    split
    · exact .some hchild
    · exact ih

/-- The elements in an element are smaller. -/
theorem sizeOf_lt_of_mem_children {child : Element} (h : child ∈ e.children) :
    sizeOf child < sizeOf e := by
  obtain ⟨node, hnode, hchild⟩ := List.mem_filterMap.1 h
  have hsize := List.sizeOf_lt_of_mem hnode
  obtain ⟨name, attributes, content⟩ := e
  cases node with
  | element n a c =>
    cases hchild
    simp only [Node.element.sizeOf_spec, mk.sizeOf_spec] at hsize ⊢
    omega
  | text s => cases hchild
  | comment s => cases hchild

protected theorem refl (e : Element) : Alike names e e :=
  .intro rfl (fun _ _ => rfl) rfl (List.forall₂_same.2 fun child hchild =>
    have := sizeOf_lt_of_mem_children hchild
    Alike.refl child)
termination_by sizeOf e

end Alike

end SolutionScript.Xml.Element
