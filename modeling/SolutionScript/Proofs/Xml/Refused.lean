import SolutionScript.Proofs.Xml.Document

/-!
# Comments that are refused

Two hyphens in a comment have to end it. A document whose content starts with a comment that has
others is refused there (`Document.parse_refused`).
-/

namespace SolutionScript.Xml

open Text

section

variable {d : Doctype} {r r' : Reading} {cs rest : List Char} {cause : Cause}

/-- Reading content stops for a cause if it has more steps left than there are characters. -/
def Refuses (d : Doctype) (r : Reading) (cs : List Char) (cause : Cause) : Prop :=
  ∀ depth limit, cs.length < limit →
    ∃ left, readContent d none depth limit [] 0 r cs = .error ⟨cause, left⟩

theorem Reaches.refuses (h : Reaches d r cs r' rest) (hrest : Refuses d r' rest cause) :
    Refuses d r cs cause := by
  obtain ⟨steps, hsteps, hreads⟩ := h
  intro depth limit hlimit
  have hread := hreads depth (limit - steps)
  rw [Nat.sub_add_cancel (by omega)] at hread
  rw [hread]
  exact hrest depth (limit - steps) (by omega)

theorem refuses_token {left : ℕ} (hroot : r.root = none) (hcs : cs ≠ ['\r'])
    (hscan : scanContent cs = .error (.bad left)) : Refuses d r cs .invalidToken := by
  intro depth limit hlimit
  obtain ⟨limit, rfl⟩ := Nat.exists_eq_add_of_lt (Nat.zero_lt_of_lt hlimit)
  have hne : cs.isEmpty = false := by
    cases cs with
    | nil => cases hscan
    | cons c cs => rfl
  refine ⟨left, ?_⟩
  rw [Nat.zero_add, readContent]
  simp [hroot, hne, hcs, hscan, ScanFault.stop]

/-! ## Comments -/

/-- A text with two hyphens that do not end the comment in which it stands. -/
def IsBroken (s : List Char) : Prop :=
  ∃ before c after, s = before ++ '-' :: '-' :: c :: after ∧ IsRemark before ∧ c ≠ '>'

theorem scanCommentBody_broken {s : List Char} (h : IsBroken s) (rest : List Char) :
    ∃ left, scanCommentBody (s ++ rest) = .error (.bad left) := by
  obtain ⟨before, c, after, rfl, hbefore, hc⟩ := h
  refine ⟨(c :: (after ++ rest)).length, ?_⟩
  have htext : before ++ '-' :: '-' :: c :: after ++ rest =
      before ++ '-' :: '-' :: c :: (after ++ rest) := by
    simp
  rw [htext, scanCommentBody_append hbefore, scanCommentBody]
  · intro more hmore
    exact hc (List.cons.inj hmore).1
  · simp

theorem refuses_comment {s : String} (h : IsBroken s.toList) (hroot : r.root = none)
    (rest : List Char) : Refuses d r ((Node.comment s).render ++ rest) .invalidToken := by
  have htext : (Node.comment s).render ++ rest =
      '<' :: '!' :: '-' :: '-' :: (s.toList ++ ("-->".toList ++ rest)) := by
    rw [Node.render, List.append_assoc, List.append_assoc]
    rfl
  obtain ⟨left, hbody⟩ := scanCommentBody_broken h ("-->".toList ++ rest)
  have hscan : scanContent ('<' :: '!' :: '-' :: '-' :: (s.toList ++ ("-->".toList ++ rest))) =
      .error (.bad left) := by
    show (scanCommentBody _).map _ = _
    rw [hbody]
    rfl
  rw [htext]
  exact refuses_token hroot (by simp) hscan

variable {name s : String} {attributes : Keyed String} {content : List Node}

/-- An element whose content starts with such a comment is refused. -/
theorem refuses_element (hd : d.rules = []) (hname : isPlainName name.toList = true)
    (hattributes : Attributes attributes) (hs : IsBroken s.toList) (hroot : r.root = none)
    (hbindings : r.bindings = Bindings.initial) (level : ℕ) (rest : List Char) :
    Refuses d r
      (((Node.element name attributes (.comment s :: content)).indent level).render ++ rest)
      .invalidToken := by
  -- What stands after the comment is not read.
  let more := renderAll (indentRest level content) ++ '<' :: '/' :: (name.toList ++ '>' :: rest)
  have hcomment : (Node.comment s).render ++ more =
      '<' :: ('!' :: '-' :: '-' :: (s.toList ++ ("-->".toList ++ more))) := by
    rw [Node.render, List.append_assoc, List.append_assoc]
    rfl
  have htext :
      ((Node.element name attributes (.comment s :: content)).indent level).render ++ rest =
      '<' :: (name.toList ++ (attributesText attributes ++
        '>' :: ((lineBreak (level + 1)).render ++ ((Node.comment s).render ++ more)))) := by
    simp [Node.indent, Node.render, renderAll, more]
  have hstart := reaches_startTag hd hname hattributes hroot hbindings
    (endsTag_close ((lineBreak (level + 1)).render ++ ((Node.comment s).render ++ more))) (by simp)
  obtain ⟨between, -, hbreak⟩ := @reaches_lineBreak d r.stack name attributes [] (level + 1)
    ('!' :: '-' :: '-' :: (s.toList ++ ("-->".toList ++ more)))
  rw [← hcomment] at hbreak
  rw [htext]
  exact (hstart.trans hbreak).refuses (refuses_comment hs rfl more)

end

/-- A document whose content starts with such a comment is malformed. -/
theorem Document.parse_refused {name s : String} {attributes : Keyed String} {content : List Node}
    (hname : isPlainName name.toList = true) (hattributes : Attributes attributes)
    (hs : IsBroken s.toList) :
    ∃ position, parse (encode (String.ofList (utf8Declaration ++ '\n' ::
        (((Node.element name attributes (.comment s :: content)).indent 0).render ++ ['\n'])))) =
      .error (.malformed ⟨.invalidToken, position⟩) := by
  obtain ⟨cs, hcs⟩ : ∃ cs,
      ((Node.element name attributes (.comment s :: content)).indent 0).render ++ ['\n'] =
        '<' :: (name.toList ++ cs) := ⟨_, by simp [Node.indent, Node.render]; rfl⟩
  obtain ⟨left, hrefused⟩ := @refuses_element {} {} name s attributes content rfl hname hattributes
    hs
    rfl rfl 0 ['\n'] 1 ('\n' :: '<' :: (name.toList ++ cs)).length.succ
    (by rw [hcs]; simp only [List.length_cons]; omega)
  rw [hcs] at hrefused ⊢
  refine ⟨(Stop.inText ⟨.invalidToken, left⟩
    (utf8Declaration ++ '\n' :: '<' :: (name.toList ++ cs))).position, ?_⟩
  rw [parse_declared, readAfter, readBody]
  simp only [readHeading_element hname, bind, Except.bind]
  simp only [List.length_nil, Nat.zero_add, Nat.succ_eq_add_one] at hrefused ⊢
  simp only [hrefused]
  rfl

end SolutionScript.Xml
