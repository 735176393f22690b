import SolutionScript.Proofs.Xml.Document

/-!
# Documents without indentation

The text of a tree of elements that hold nothing but elements or a single plain text is read as the
tree itself, at every depth (`reaches_compact`). So a document of it has it as its element
(`Document.parse_compact`).
-/

namespace SolutionScript.Xml

open Text

/-- Attributes that can be written. -/
def areWritable (attributes : Keyed String) : Bool :=
  attributes.all (fun a => isPlainName a.1.toList && a.2.toList.all isXmlChar) &&
    attributes.keys.Nodup

theorem attributes_of_areWritable {attributes : Keyed String} (h : areWritable attributes = true) :
    Attributes attributes := by
  simp only [areWritable, Bool.and_eq_true, List.all_eq_true, decide_eq_true_eq] at h
  exact ⟨fun a ha => (h.1 a ha).1, h.2, fun a ha => (h.1 a ha).2⟩

/-- Whether a character is written in content as itself and read from there as itself. -/
def standsForItself (c : Char) : Bool := isPlain c && c != '>'

theorem dataChar_of_standsForItself {c : Char} (h : standsForItself c = true) :
    dataChar c = [c] := by
  rw [dataChar]
  all_goals
    rintro rfl
    revert h
    decide

mutual

/-- Whether an element holds nothing but such elements or a single plain text. -/
def Node.isCompact : Node → Bool
  | .element name attributes [.text s] =>
    isPlainName name.toList && areWritable attributes && s != "" && s.toList.all standsForItself
  | .element name attributes content =>
    isPlainName name.toList && areWritable attributes && allCompact content
  | .text _ => false
  | .comment _ => false

/-- Whether all pieces are elements that hold nothing but such elements or a plain text. -/
def allCompact : List Node → Bool
  | [] => true
  | node :: rest => Node.isCompact node && allCompact rest

end

section

variable {d : Doctype} {r : Reading} {outer : List OpenElement} {name : String}
  {attributes : Keyed String} {content : List Node}

/-- A text is read up to the tag behind it. -/
theorem reaches_text {s : String} (hne : s ≠ "") (hs : ∀ c ∈ s.toList, standsForItself c = true)
    (more : List Char) :
    Reaches d (within outer name attributes []) ((Node.text s).render ++ '<' :: more)
      (within outer name attributes [.text s]) ('<' :: more) := by
  have hrender : (Node.text s).render = s.toList := by
    rw [Node.render, List.flatMap_congr fun c hc => dataChar_of_standsForItself (hs c hc),
      List.flatMap_singleton']
  have hplain : ∀ c ∈ s.toList, isPlain c = true := fun c hc => (Bool.and_eq_true _ _ ▸ hs c hc).1
  obtain ⟨c, cs, hcs⟩ := List.exists_cons_of_ne_nil (mt String.toList_eq_nil_iff.1 hne)
  have hscan : scanContent (s.toList ++ '<' :: more) = .ok (.characters s.toList, '<' :: more) := by
    rw [hcs, List.forall_mem_cons] at hplain
    have hstop : StopsAt isPlain ('<' :: more) := stopsAt_cons.2 (by decide)
    have hc : isXmlChar c = true := by
      have := hplain.1
      simp only [isPlain, Bool.and_eq_true] at this
      exact this.1.1.1.1.1
    rw [hcs, List.cons_append, scanContent, if_pos hc, takeWhile_run hplain.2 hstop,
      dropWhile_run hplain.2 hstop]
    -- No mark of markup, of a reference or of a line end is plain.
    all_goals
      intros
      subst_vars
      have := hplain.1
      contradiction
  have hpush : (within outer name attributes []).pushText s.toList =
      within outer name attributes [.text s] := by
    simp [within, Reading.pushText, Reading.push, hne]
  have hlength : ('<' :: more).length < (s.toList ++ '<' :: more).length := by
    rw [List.length_append, hcs, List.length_cons]
    exact Nat.lt_add_of_pos_left (Nat.succ_pos _)
  rw [hrender, ← hpush]
  exact reaches_token rfl (by simp [hcs]) hscan hlength (.characters _)

/-- An element is read from its text once its content is. -/
theorem reaches_compactElement (hd : d.rules = []) (hname : isPlainName name.toList = true)
    (hattributes : Attributes attributes) (hroot : r.root = none)
    (hbindings : r.bindings = Bindings.initial) (hcontent : ∀ more,
      Reaches d (within r.stack name attributes []) (renderAll content ++ '<' :: more)
        (within r.stack name attributes content.reverse) ('<' :: more)) (rest : List Char) :
    Reaches d r ((Node.element name attributes content).render ++ rest)
      (r.close ⟨name, attributes, content.reverse⟩) rest := by
  cases content with
  | nil =>
    have htag := reaches_startTag hd hname hattributes hroot hbindings (endsTag_empty rest)
      (by simp only [List.length_cons]; omega)
    rw [Node.render]
    simpa using htag
  | cons node content =>
    have hstart := reaches_startTag hd hname hattributes hroot hbindings
      (endsTag_close (renderAll (node :: content) ++ '<' :: '/' :: (name.toList ++ '>' :: rest)))
      (by simp)
    have hclose : Reading.close ⟨r.stack, none⟩ ⟨name, attributes, (node :: content).reverse⟩ =
        r.close ⟨name, attributes, (node :: content).reverse⟩ := by
      rw [← hroot]
    have htext : (Node.element name attributes (node :: content)).render ++ rest =
        '<' :: (name.toList ++ (attributesText attributes ++
          '>' :: (renderAll (node :: content) ++ '<' :: '/' :: (name.toList ++ '>' :: rest)))) := by
      simp [Node.render, renderAll]
    rw [htext, ← hclose]
    exact hstart.trans ((hcontent _).trans (reaches_endTag r.stack hname rest))

/-- What a compact element is made of. -/
theorem compact_cases (h : (Node.element name attributes content).isCompact = true) :
    isPlainName name.toList = true ∧ Attributes attributes ∧
      ((∃ s, content = [.text s] ∧ s ≠ "" ∧ ∀ c ∈ s.toList, standsForItself c = true) ∨
        allCompact content = true) := by
  rw [Node.isCompact.eq_def] at h
  split at h
  · rename_i hnode
    cases hnode
    simp only [Bool.and_eq_true, List.all_eq_true, bne_iff_ne] at h
    exact ⟨h.1.1.1, attributes_of_areWritable h.1.1.2, .inl ⟨_, rfl, h.1.2, h.2⟩⟩
  · rename_i hnode
    cases hnode
    simp only [Bool.and_eq_true] at h
    exact ⟨h.1.1, attributes_of_areWritable h.1.2, .inr h.2⟩
  · contradiction
  · contradiction

mutual

/-- The content of a compact element is read up to the tag that ends the element. -/
theorem reaches_compactContent (hd : d.rules = []) {name : String} {attributes : Keyed String}
    {content : List Node} (h : (Node.element name attributes content).isCompact = true)
    (outer : List OpenElement) (more : List Char) :
    Reaches d (within outer name attributes []) (renderAll content ++ '<' :: more)
      (within outer name attributes content.reverse) ('<' :: more) := by
  obtain ⟨-, -, ⟨s, rfl, hne, hs⟩ | hall⟩ := compact_cases h
  · rw [renderAll, renderAll, List.append_nil]
    exact reaches_text hne hs more
  · have hreads := reaches_allCompact hd hall outer name attributes [] more
    rwa [List.append_nil] at hreads
termination_by (sizeOf content, 1)

theorem reaches_allCompact (hd : d.rules = []) {nodes : List Node} (h : allCompact nodes = true)
    (outer : List OpenElement) (name : String) (attributes : Keyed String) (before : List Node)
    (more : List Char) :
    Reaches d (within outer name attributes before) (renderAll nodes ++ '<' :: more)
      (within outer name attributes (nodes.reverse ++ before)) ('<' :: more) := by
  match nodes, h with
  | [], _ => exact ⟨0, by simp [renderAll], fun _ _ => rfl⟩
  | .element n a content :: nodes, h =>
    rw [allCompact, Bool.and_eq_true] at h
    obtain ⟨hname, hattributes, -⟩ := compact_cases h.1
    have hfirst := reaches_compactElement hd hname hattributes
      (show (within outer name attributes before).root = none from rfl) rfl
      (reaches_compactContent hd h.1 _) (renderAll nodes ++ '<' :: more)
    have hclose : (within outer name attributes before).close ⟨n, a, content.reverse⟩ =
        within outer name attributes (.element n a content :: before) := by
      simp [within, Reading.close, Reading.push, Element.toNode]
    have hrest := reaches_allCompact hd h.2 outer name attributes
      (.element n a content :: before) more
    rw [hclose] at hfirst
    rw [renderAll, List.append_assoc, List.reverse_cons, List.append_assoc, List.singleton_append]
    exact hfirst.trans hrest
termination_by (sizeOf nodes, 0)

end

end

/-- The text of a compact element as the element of a document. -/
theorem reaches_compact {e : Element} (h : e.toNode.isCompact = true) (rest : List Char) :
    ∃ name cs, isPlainName name = true ∧ e.toNode.render ++ rest = '<' :: (name ++ cs) ∧
      Reaches {} {} ('<' :: (name ++ cs)) ⟨[], some e⟩ rest := by
  obtain ⟨name, attributes, content⟩ := e
  rw [Element.toNode] at h ⊢
  obtain ⟨hname, hattributes, -⟩ := compact_cases h
  obtain ⟨cs, hcs⟩ : ∃ cs, (Node.element name attributes content).render ++ rest =
      '<' :: (name.toList ++ cs) := by
    cases content with
    | nil => exact ⟨_, by rw [Node.render]; simp; rfl⟩
    | cons node content => exact ⟨_, by rw [Node.render]; simp; rfl⟩
  have hreaches := @reaches_compactElement {} {} name attributes content rfl hname hattributes rfl
    rfl (reaches_compactContent rfl h _) rest
  exact ⟨name.toList, cs, hname, hcs, by simpa [Reading.close, ← hcs] using hreaches⟩

namespace Document

/-- A document of the text of a compact element has the element as it is. -/
theorem parse_compact {e : Element} (h : e.toNode.isCompact = true) :
    parse (encode (String.ofList (utf8Declaration ++ '\n' :: e.toNode.render))) = .ok e := by
  obtain ⟨name, cs, hname, hcs, hreaches⟩ := reaches_compact h []
  rw [List.append_nil] at hcs
  rw [parse_declared, hcs]
  exact readAfter_of_reaches (List.forall_mem_singleton.2 rfl) hname (List.forall_mem_nil _)
    hreaches

end Document

end SolutionScript.Xml
