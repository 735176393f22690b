import SolutionScript.Proofs.Xml.Tag

/-!
# Content as it is written

The text of a tree of elements and comments, indented or not, is read as content that has
the same elements with the same attributes, at every depth (`Legible.reaches`).
-/

namespace SolutionScript.Xml

open Text

/-! ## The elements of content -/

mutual

/-- A piece of content without the text and the comments in it. -/
def Node.outline : Node → List Node
  | .element name attributes content => [.element name attributes (outlineAll content)]
  | .text _ => []
  | .comment _ => []

/-- Content without the text and the comments in it. -/
def outlineAll : List Node → List Node
  | [] => []
  | node :: rest => Node.outline node ++ outlineAll rest

end

theorem outlineAll_append (content more : List Node) :
    outlineAll (content ++ more) = outlineAll content ++ outlineAll more := by
  induction content with
  | nil => rfl
  | cons node content ih => rw [List.cons_append, outlineAll, outlineAll, ih, List.append_assoc]

/-- One more piece of content, which is held last first. -/
theorem outlineAll_reverse_cons (node : Node) (content : List Node) :
    outlineAll (node :: content).reverse = outlineAll content.reverse ++ node.outline := by
  rw [List.reverse_cons, outlineAll_append, outlineAll, outlineAll, List.append_nil]

theorem outlineAll_eq_self {content : List Node} (h : ∀ node ∈ content, node.outline = [node]) :
    outlineAll content = content := by
  induction content with
  | nil => rfl
  | cons node content ih =>
    rw [List.forall_mem_cons] at h
    rw [outlineAll, h.1, ih h.2, List.singleton_append]

theorem outline_element {name : String} {attributes : Keyed String} {content : List Node}
    (h : ∀ node ∈ content, node.outline = [node]) :
    (Node.element name attributes content).outline = [.element name attributes content] := by
  rw [Node.outline, outlineAll_eq_self h]

/-! ## Steps -/

/-- Reading content gets from one place to another in no more steps than there are characters
between them. -/
def Reaches (d : Doctype) (r : Reading) (cs : List Char) (r' : Reading) (rest : List Char) : Prop :=
  ∃ steps, steps + rest.length ≤ cs.length ∧ ∀ depth limit,
    readContent d none depth (limit + steps) [] 0 r cs = readContent d none depth limit [] 0 r' rest

section

variable {d : Doctype} {r r' r'' : Reading} {cs cs' cs'' rest : List Char}

theorem Reaches.trans (h : Reaches d r cs r' cs') (h' : Reaches d r' cs' r'' cs'') :
    Reaches d r cs r'' cs'' := by
  obtain ⟨n, hn, h⟩ := h
  obtain ⟨m, hm, h'⟩ := h'
  refine ⟨m + n, by omega, fun depth limit => ?_⟩
  rw [← Nat.add_assoc, h, h']

/-- What a token does to the elements read so far. -/
inductive Acts (d : Doctype) (r : Reading) : ContentToken → Reading → Prop
  | characters (s : List Char) : Acts d r (.characters s) (r.pushText s)
  | newline : Acts d r .newline (r.pushText ['\n'])
  | aside : Acts d r .aside r
  | startTag {tag : Tag} {r' : Reading} (h : ∀ left, r.start d [] tag left = .ok r') :
      Acts d r (.startTag tag) r'
  | endTag {name : List Char} {nameLeft : ℕ} {r' : Reading}
      (h : ∀ left, r.finish 0 name nameLeft left = .ok r') : Acts d r (.endTag name nameLeft) r'

theorem reaches_token {token : ContentToken} (hroot : r.root = none) (hcs : cs ≠ ['\r'])
    (hscan : scanContent cs = .ok (token, rest)) (hlength : rest.length < cs.length)
    (h : Acts d r token r') : Reaches d r cs r' rest := by
  refine ⟨1, by omega, fun depth limit => ?_⟩
  have hne : cs.isEmpty = false := by
    cases cs with
    | nil => simp at hlength
    | cons c cs => rfl
  rw [readContent]
  simp only [hroot, Option.isSome_none, Bool.false_eq_true, if_false, hne, hcs, decide_false,
    Bool.false_and, hscan]
  cases h with
  | characters s => rfl
  | newline => rfl
  | aside => rfl
  | startTag h => simp only [h]
  | endTag h => simp only [h]

/-! ## Text between elements -/

/-- An element has started within others, and this is its content so far, last first. -/
def within (outer : List OpenElement) (name : String) (attributes : Keyed String)
    (content : List Node) : Reading :=
  ⟨⟨name.toList, ⟨name, attributes, content⟩, Bindings.initial⟩ :: outer, none⟩

variable {outer : List OpenElement} {name : String} {attributes : Keyed String}
  {content : List Node}

/-- Characters are of no account for the elements read. -/
theorem exists_pushText (content : List Node) {s : List Char} (hs : s ≠ []) :
    ∃ content', (within outer name attributes content).pushText s =
        within outer name attributes content' ∧
      outlineAll content'.reverse = outlineAll content.reverse := by
  cases content with
  | nil =>
    exact ⟨[.text (String.ofList s)], by simp [within, Reading.pushText, Reading.push, hs], rfl⟩
  | cons node content =>
    cases node with
    | text t =>
      refine ⟨.text (t ++ String.ofList s) :: content, rfl, ?_⟩
      rw [outlineAll_reverse_cons, outlineAll_reverse_cons, Node.outline, Node.outline]
    | comment t =>
      refine ⟨.text (String.ofList s) :: .comment t :: content,
        by simp [within, Reading.pushText, Reading.push, hs], ?_⟩
      rw [outlineAll_reverse_cons, Node.outline, List.append_nil]
    | element n a c =>
      refine ⟨.text (String.ofList s) :: .element n a c :: content,
        by simp [within, Reading.pushText, Reading.push, hs], ?_⟩
      rw [outlineAll_reverse_cons (.text _), Node.outline, List.append_nil]

theorem render_lineBreak (level : ℕ) :
    (lineBreak level).render = '\n' :: List.replicate (4 * level) ' ' := by
  have hspaces : (List.replicate level indentUnit).flatten = List.replicate (4 * level) ' ' := by
    induction level with
    | zero => rfl
    | succ level ih =>
      rw [List.replicate_succ, List.flatten_cons, ih, Nat.mul_succ, Nat.add_comm,
        List.replicate_add]
      rfl
  have hplain : ∀ n, (List.replicate n ' ').flatMap dataChar = List.replicate n ' ' := by
    intro n
    induction n with
    | zero => rfl
    | succ n ih => rw [List.replicate_succ, List.flatMap_cons, ih]; rfl
  rw [lineBreak, Node.render, String.toList_ofList, List.flatMap_cons, hspaces, hplain]
  rfl

theorem reaches_spaces (content : List Node) (n : ℕ) (more : List Char) :
    ∃ content', outlineAll content'.reverse = outlineAll content.reverse ∧
      Reaches d (within outer name attributes content) (List.replicate n ' ' ++ '<' :: more)
        (within outer name attributes content') ('<' :: more) := by
  cases n with
  | zero => exact ⟨content, rfl, 0, by simp, fun _ _ => rfl⟩
  | succ n =>
    obtain ⟨content', hpush, hcontent⟩ := @exists_pushText outer name attributes content
      (' ' :: List.replicate n ' ') (by simp)
    have hplain : ∀ c ∈ List.replicate n ' ', isPlain c = true := by
      intro c hc
      rw [List.eq_of_mem_replicate hc]
      decide
    have hscan : scanContent (List.replicate (n + 1) ' ' ++ '<' :: more) =
        .ok (.characters (' ' :: List.replicate n ' '), '<' :: more) := by
      have hstop : StopsAt isPlain ('<' :: more) := stopsAt_cons.2 (by decide)
      rw [List.replicate_succ, List.cons_append, scanContent, if_pos (by decide),
        takeWhile_run hplain hstop, dropWhile_run hplain hstop]
      all_goals simp
    refine ⟨content', hcontent, reaches_token rfl (by simp [List.replicate_succ]) hscan
      (by simp) ?_⟩
    rw [← hpush]
    exact .characters _

/-- A line break is of no account for the elements read. -/
theorem reaches_lineBreak (content : List Node) (level : ℕ) (more : List Char) :
    ∃ content', outlineAll content'.reverse = outlineAll content.reverse ∧
      Reaches d (within outer name attributes content) ((lineBreak level).render ++ '<' :: more)
        (within outer name attributes content') ('<' :: more) := by
  obtain ⟨between, hpush, hbetween⟩ :=
    @exists_pushText outer name attributes content ['\n'] (by simp)
  obtain ⟨content', hcontent, hspaces⟩ :=
    @reaches_spaces d outer name attributes between (4 * level) more
  refine ⟨content', hcontent.trans hbetween, .trans ?_ hspaces⟩
  rw [render_lineBreak, List.cons_append, ← hpush]
  exact reaches_token rfl (by simp) rfl (by simp) .newline

/-! ## Comments -/

/-- A text that can stand in a comment. -/
structure IsRemark (s : List Char) : Prop where
  chars : ∀ c ∈ s, isXmlChar c = true
  hyphens : ¬ ['-', '-'] <:+: s ++ ['-']

theorem scanCommentBody_cons {c : Char} (h : ¬ ['-', '-'] <+: c :: cs) :
    scanCommentBody (c :: cs) =
      if isXmlChar c then scanCommentBody cs else .error (.bad (c :: cs).length) := by
  rw [scanCommentBody]
  all_goals
    intros
    subst_vars
    exact h ⟨_, rfl⟩

/-- A comment is read up to the first two hyphens. -/
theorem scanCommentBody_append {s : List Char} (h : IsRemark s) (rest : List Char) :
    scanCommentBody (s ++ '-' :: rest) = scanCommentBody ('-' :: rest) := by
  obtain ⟨hchars, hhyphens⟩ := h
  induction s with
  | nil => rfl
  | cons c s ih =>
    rw [List.forall_mem_cons] at hchars
    rw [List.cons_append, List.infix_cons_iff, not_or] at hhyphens
    have hpair : ¬ ['-', '-'] <+: c :: (s ++ '-' :: rest) := by
      rintro ⟨more, hmore⟩
      cases s with
      | nil =>
        obtain ⟨rfl, -⟩ := List.cons.inj hmore
        exact hhyphens.1 ⟨[], rfl⟩
      | cons e s =>
        obtain ⟨rfl, htail⟩ := List.cons.inj hmore
        obtain ⟨rfl, -⟩ := List.cons.inj htail
        exact hhyphens.1 ⟨s ++ ['-'], rfl⟩
    rw [List.cons_append, scanCommentBody_cons hpair, if_pos hchars.1, ih hchars.2 hhyphens.2]

theorem scanCommentBody_remark {s : List Char} (h : IsRemark s) (rest : List Char) :
    scanCommentBody (s ++ '-' :: '-' :: '>' :: rest) = .ok ((), rest) := by
  rw [scanCommentBody_append h]
  rfl

/-- A comment is of no account for the elements read. -/
theorem reaches_comment {s : String} (h : IsRemark s.toList) (hroot : r.root = none)
    (rest : List Char) : Reaches d r ((Node.comment s).render ++ rest) r rest := by
  have htext : (Node.comment s).render ++ rest =
      '<' :: '!' :: '-' :: '-' :: (s.toList ++ '-' :: '-' :: '>' :: rest) := by
    rw [Node.render, List.append_assoc, List.append_assoc]
    rfl
  have hscan : scanContent ('<' :: '!' :: '-' :: '-' :: (s.toList ++ '-' :: '-' :: '>' :: rest)) =
      .ok (.aside, rest) := by
    show (scanCommentBody _).map _ = _
    rw [scanCommentBody_remark h]
    rfl
  rw [htext]
  refine reaches_token hroot (by simp) hscan ?_ .aside
  simp only [List.length_cons, List.length_append]
  omega

/-! ## Elements -/

variable {isEmpty : Bool} {tagEnd : List Char}

theorem scanContent_startTag {cs : List Char} {tag : Tag} (hname : isPlainName name.toList = true)
    (hscan : scanStartTag (name.toList ++ cs) = .ok (tag, rest)) :
    scanContent ('<' :: (name.toList ++ cs)) = .ok (.startTag tag, rest) := by
  obtain ⟨c, more, hcons, hstart⟩ := exists_isNameStart hname
  rw [hcons, List.cons_append] at hscan ⊢
  show scanMarkup _ = _
  rw [scanMarkup, hscan]
  · rfl
  -- No mark of other markup starts a name.
  all_goals
    intros
    simp_all [isNameStart]

theorem reaches_startTag (hd : d.rules = []) (hname : isPlainName name.toList = true)
    (h : Attributes attributes) (hroot : r.root = none) (hbindings : r.bindings = Bindings.initial)
    (hend : EndsTag isEmpty tagEnd rest) (hlength : rest.length < tagEnd.length) :
    Reaches d r ('<' :: (name.toList ++ (attributesText attributes ++ tagEnd)))
      (if isEmpty then r.close ⟨name, attributes, []⟩ else within r.stack name attributes [])
      rest := by
  obtain ⟨raws, hraws, hstart⟩ := scanStartTag_written hname h hend
  have hscan : scanContent ('<' :: (name.toList ++ (attributesText attributes ++ tagEnd))) =
      .ok (.startTag ⟨name.toList, raws, isEmpty⟩, rest) := scanContent_startTag hname hstart
  have hopen := @openTag_written name.toList isEmpty d hd [] hname attributes h raws hraws
  refine reaches_token hroot (by simp) hscan ?_ (.startTag fun left => ?_)
  · simp only [List.length_cons, List.length_append]
    omega
  · rw [Reading.start, hbindings, hopen]
    simp only [String.ofList_toList]
    cases isEmpty with
    | true => rfl
    | false => rw [within, ← hroot]; rfl

theorem scanEndTag_plain {name : List Char} (hname : isPlainName name = true) (rest : List Char) :
    scanEndTag (name ++ '>' :: rest) = .ok (name, rest) := by
  cases name with
  | nil => cases hname
  | cons c name =>
    simp only [isPlainName, Bool.and_eq_true, List.all_eq_true] at hname
    have hrun : ∀ d ∈ name, (isNamePart d || d == ':') = true := fun d hd => by
      rw [hname.1.2 d hd, Bool.true_or]
    have hstop : StopsAt (fun d => isNamePart d || d == ':') ('>' :: rest) :=
      stopsAt_cons.2 (by decide)
    rw [List.cons_append, scanEndTag, if_pos hname.1.1]
    simp only [takeWhile_run hrun hstop, dropWhile_run hrun hstop]
    rfl

theorem reaches_endTag (outer : List OpenElement) (hname : isPlainName name.toList = true)
    (rest : List Char) :
    Reaches d (within outer name attributes content) ("</".toList ++ (name.toList ++ '>' :: rest))
      (Reading.close ⟨outer, none⟩ ⟨name, attributes, content⟩) rest := by
  have hscan : scanContent ("</".toList ++ (name.toList ++ '>' :: rest)) =
      .ok (.endTag name.toList (name.toList ++ '>' :: rest).length, rest) := by
    show (scanEndTag (name.toList ++ '>' :: rest)).map _ = _
    rw [scanEndTag_plain hname]
    rfl
  refine reaches_token rfl (by simp) hscan ?_ (.endTag fun left => ?_)
  · simp only [List.length_append, List.length_cons]
    omega
  · rw [Reading.finish, within]
    simp

/-! ## Trees -/

/-- A tree of elements and comments that can be written. -/
inductive Legible : Node → Prop
  | element {name : String} {attributes : Keyed String} {content : List Node}
      (hname : isPlainName name.toList = true) (hattributes : Attributes attributes)
      (hcontent : ∀ node ∈ content, Legible node) : Legible (.element name attributes content)
  | comment {s : String} (h : IsRemark s.toList) : Legible (.comment s)

/-- The elements of a piece of content are read back from its indented text, whatever follows
it. -/
def ReadsBack (d : Doctype) (node : Node) : Prop :=
  ∀ level outer name attributes content rest, ∃ content',
    outlineAll content'.reverse = outlineAll content.reverse ++ node.outline ∧
      Reaches d (within outer name attributes content) ((node.indent level).render ++ rest)
        (within outer name attributes content') rest

theorem Legible.exists_render {node : Node} (h : Legible node) (level : ℕ) :
    ∃ more, (node.indent level).render = '<' :: more := by
  cases h with
  | comment h => exact ⟨_, rfl⟩
  | @element name attributes content hname hattributes hcontent =>
    cases content with
    | nil => exact ⟨_, rfl⟩
    | cons node content => exact ⟨_, rfl⟩

/-- The content of an element up to the tag that ends it. -/
theorem reaches_content {nodes : List Node} (hlegible : ∀ node ∈ nodes, Legible node)
    (hreads : ∀ node ∈ nodes, ReadsBack d node) (level : ℕ) (content : List Node)
    (more : List Char) :
    ∃ content', outlineAll content'.reverse = outlineAll content.reverse ++ outlineAll nodes ∧
      Reaches d (within outer name attributes content)
        (renderAll (indentRest level nodes) ++ '<' :: more)
        (within outer name attributes content') ('<' :: more) := by
  induction nodes generalizing content with
  | nil =>
    obtain ⟨content', hcontent, hbreak⟩ :=
      @reaches_lineBreak d outer name attributes content level more
    refine ⟨content', by rw [hcontent, outlineAll, List.append_nil], ?_⟩
    rw [indentRest, renderAll, renderAll, List.append_nil]
    exact hbreak
  | cons node nodes ih =>
    rw [List.forall_mem_cons] at hlegible hreads
    obtain ⟨text, htext⟩ := hlegible.1.exists_render (level + 1)
    obtain ⟨before, hbefore, hbreak⟩ :=
      @reaches_lineBreak d outer name attributes content (level + 1)
        (text ++ (renderAll (indentRest level nodes) ++ '<' :: more))
    obtain ⟨after, hafter, hnode⟩ := hreads.1 (level + 1) outer name attributes before
      (renderAll (indentRest level nodes) ++ '<' :: more)
    obtain ⟨content', hcontent, hrest⟩ := ih hlegible.2 hreads.2 after
    refine ⟨content', by rw [hcontent, hafter, hbefore, outlineAll, List.append_assoc], ?_⟩
    rw [indentRest, renderAll, renderAll, List.append_assoc, List.append_assoc]
    rw [htext] at hnode ⊢
    exact hbreak.trans (hnode.trans hrest)

/-- An element is read from its indented text. -/
theorem reaches_element (hd : d.rules = []) (hname : isPlainName name.toList = true)
    (hattributes : Attributes attributes) (hlegible : ∀ node ∈ content, Legible node)
    (hreads : ∀ node ∈ content, ReadsBack d node) (hroot : r.root = none)
    (hbindings : r.bindings = Bindings.initial) (level : ℕ) (rest : List Char) :
    ∃ content', outlineAll content'.reverse = outlineAll content ∧
      Reaches d r (((Node.element name attributes content).indent level).render ++ rest)
        (r.close ⟨name, attributes, content'⟩) rest := by
  cases content with
  | nil =>
    refine ⟨[], rfl, ?_⟩
    have htag := reaches_startTag hd hname hattributes hroot hbindings (endsTag_empty rest)
      (by simp only [List.length_cons]; omega)
    rw [Node.indent, Node.render]
    · simpa using htag
    · simp
  | cons node content =>
    obtain ⟨content', hcontent, hinside⟩ := @reaches_content d r.stack name attributes
      (node :: content) hlegible hreads level [] ('/' :: (name.toList ++ '>' :: rest))
    refine ⟨content', by simpa [outlineAll] using hcontent, ?_⟩
    have hstart := reaches_startTag hd hname hattributes hroot hbindings
      (endsTag_close (renderAll (indentRest level (node :: content)) ++
        '<' :: '/' :: (name.toList ++ '>' :: rest))) (by simp)
    have hclose : Reading.close ⟨r.stack, none⟩ ⟨name, attributes, content'⟩ =
        r.close ⟨name, attributes, content'⟩ := by
      rw [← hroot]
    have htext : ((Node.element name attributes (node :: content)).indent level).render ++ rest =
        '<' :: (name.toList ++ (attributesText attributes ++
          '>' :: (renderAll (indentRest level (node :: content)) ++
            '<' :: '/' :: (name.toList ++ '>' :: rest)))) := by
      simp [Node.indent, Node.render, indentRest, renderAll]
    rw [htext, ← hclose]
    exact hstart.trans (hinside.trans (reaches_endTag r.stack hname rest))

/-- A tree is read back from its indented text. -/
theorem Legible.readsBack (hd : d.rules = []) {node : Node} (h : Legible node) :
    ReadsBack d node := by
  induction h with
  | @element name attributes content hname hattributes hcontent ih =>
    intro level outer outerName outerAttributes before rest
    obtain ⟨content', hcontent', hreaches⟩ := reaches_element hd hname hattributes hcontent ih
      (show (within outer outerName outerAttributes before).root = none from rfl) rfl level rest
    refine ⟨.element name attributes content'.reverse :: before, ?_, hreaches⟩
    rw [outlineAll_reverse_cons, Node.outline, Node.outline, hcontent']
  | comment h =>
    intro level outer name attributes content rest
    refine ⟨content, ?_, reaches_comment h rfl rest⟩
    rw [Node.outline, List.append_nil]

/-- Once the document element has ended, reading has ended, with all steps that it has left. -/
theorem readContent_of_reaches {e : Element} (h : Reaches d {} cs ⟨[], some e⟩ rest)
    {depth limit : ℕ} (hlimit : cs.length ≤ limit) :
    readContent d none depth limit [] 0 {} cs = .ok (⟨[], some e⟩, rest) := by
  obtain ⟨steps, hsteps, hreads⟩ := h
  have hread := hreads depth (limit - steps)
  rw [Nat.sub_add_cancel (by omega)] at hread
  rw [hread]
  cases limit - steps with
  | zero => rw [readContent]
  | succ n => rw [readContent]; rfl

/-- The document element is read back from its indented text. -/
theorem reaches_document (hd : d.rules = []) (hname : isPlainName name.toList = true)
    (hattributes : Attributes attributes) (hlegible : ∀ node ∈ content, Legible node) (level : ℕ)
    (rest : List Char) :
    ∃ content', outlineAll content' = outlineAll content ∧
      Reaches d {} (((Node.element name attributes content).indent level).render ++ rest)
        ⟨[], some ⟨name, attributes, content'⟩⟩ rest := by
  obtain ⟨content', hcontent, hreaches⟩ := @reaches_element d {} name attributes content hd
    hname hattributes hlegible (fun node hnode => (hlegible node hnode).readsBack hd) rfl rfl
    level rest
  exact ⟨content'.reverse, hcontent, hreaches⟩

end

end SolutionScript.Xml
