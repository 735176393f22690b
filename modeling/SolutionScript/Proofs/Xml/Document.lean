import SolutionScript.Proofs.Text.Encode
import SolutionScript.Proofs.Xml.Content
import SolutionScript.Proofs.Xml.Markup

/-!
# Documents as they are written

A document of a declaration that names UTF-8 and the indented text of a tree is read back from
its bytes, up to text and comments (`Document.parse_written`). Without a declaration, or with other
spaces around the element, it is read as well (`parse_undeclared`, `readAfter_of_reaches`).
-/

namespace SolutionScript.Xml

open Text

/-! ## Bytes -/

namespace Encoding

/-- The bytes of a text are read as the text. -/
theorem decodeUtf8_flatMap (text cs : List Char) :
    decodeUtf8 text (cs.flatMap String.utf8EncodeChar) = ⟨text.reverse ++ cs, none⟩ := by
  induction cs generalizing text with
  | nil => rw [List.flatMap_nil, decodeUtf8, List.append_nil]
  | cons c cs ih =>
    obtain ⟨b, more, hbytes, ⟨low, high, hlead⟩, hread⟩ := exists_utf8EncodeChar c
    have hcut : isCut b (more ++ cs.flatMap String.utf8EncodeChar) = false := by
      simp [isCut, hlead]
    rw [List.flatMap_cons, hbytes, List.cons_append, decodeUtf8, if_neg (by simp [hcut]), hread]
    simp only [List.drop_left]
    rw [ih]
    simp

end Encoding

namespace Document

/-- The declaration of a document in UTF-8. -/
def utf8Declaration : List Char := "<?xml version=\"1.0\" encoding=\"utf-8\"?>".toList

/-- The bytes of the declaration. -/
theorem flatMap_utf8Declaration :
    utf8Declaration.flatMap String.utf8EncodeChar =
      utf8Declaration.map fun c => UInt8.ofNat c.toNat := by
  decide

/-- What the declaration says. -/
def utf8DeclarationBody : List Char := " version=\"1.0\" encoding=\"utf-8\"".toList

theorem scanProlog_declared (cs : List Char) :
    scanProlog (utf8Declaration ++ cs) = .ok (.documentDeclaration utf8DeclarationBody, cs) :=
  rfl

theorem readDeclaration_utf8 :
    readDeclaration utf8DeclarationBody = .ok { encoding := some ("utf-8".toList, 6) } :=
  rfl

theorem choose_utf8 : Encoding.utf8.choose "utf-8".toList = .use .utf8 := by
  decide

/-- What follows the declaration is read as UTF-8. -/
theorem parse_declared (cs : List Char) :
    parse (encode (String.ofList (utf8Declaration ++ cs))) =
      readAfter utf8Declaration false ⟨cs, none⟩ := by
  have hdecode := decode_encode (String.ofList (utf8Declaration ++ cs))
  have hheader : (utf8Declaration ++ cs).take ((utf8Declaration ++ cs).length - cs.length) =
      utf8Declaration := by
    rw [List.length_append, Nat.add_sub_cancel, List.take_left]
  have hrest : Encoding.utf8.decode ((encode (String.ofList (utf8Declaration ++ cs))).drop
      (Encoding.utf8.width utf8Declaration)) = ⟨cs, none⟩ := by
    have hwidth : Encoding.utf8.width utf8Declaration =
        (utf8Declaration.map fun c => UInt8.ofNat c.toNat).length := by
      decide
    rw [encode_ofList, List.flatMap_append, flatMap_utf8Declaration, hwidth, List.drop_left,
      Encoding.decode, Encoding.decodeUtf8_flatMap]
    rfl
  rw [String.toList_ofList] at hdecode
  have hlength : 1 < (utf8Declaration ++ cs).length := by
    rw [List.length_append]
    exact Nat.lt_add_right _ (by decide)
  have hnull : '\x00' ∉ (utf8Declaration ++ cs).take 2 := by
    show '\x00' ∉ ['<', '?']
    decide
  have hmark : (utf8Declaration ++ cs).head? ≠ some '\uFEFF' := by
    show some '<' ≠ some '\uFEFF'
    decide
  rw [parse_of_decode hdecode hlength hnull hmark, scanProlog_declared]
  dsimp only
  rw [readDeclared, readDeclaration_utf8]
  simp only [choose_utf8, hheader, hrest]
  rfl

theorem scanProlog_startTag {name cs : List Char} (hname : isPlainName name = true) :
    scanProlog ('<' :: (name ++ cs)) = .ok (.element, name ++ cs) := by
  obtain ⟨c, more, rfl, hstart⟩ := exists_isNameStart hname
  show scanOpening (c :: (more ++ cs)) = _
  -- No mark of other markup starts a name.
  rw [scanOpening]
  · rw [if_pos (by simp [hstart])]
    rfl
  all_goals
    intros
    simp_all [isNameStart]

/-- A document without a declaration is read as it is. -/
theorem parse_undeclared {name cs : List Char} (hname : isPlainName name = true) :
    parse (encode (String.ofList ('<' :: (name ++ cs)))) =
      readAfter [] false ⟨'<' :: (name ++ cs), none⟩ := by
  have hdecode := decode_encode (String.ofList ('<' :: (name ++ cs)))
  have hlength : 1 < ('<' :: (name ++ cs)).length := by
    obtain ⟨c, more, rfl, -⟩ := exists_isNameStart hname
    simp
  have hnull : '\x00' ∉ ('<' :: (name ++ cs)).take 2 := by
    obtain ⟨c, more, rfl, hstart⟩ := exists_isNameStart hname
    have hne : c ≠ '\x00' := by
      rintro rfl
      exact absurd hstart (by decide)
    simp [hne.symm]
  rw [String.toList_ofList] at hdecode
  rw [parse_of_decode hdecode hlength hnull (by simp), scanProlog_startTag hname]

/-- Spaces before the element are passed over. -/
theorem readHeading_spaces {limit : ℕ} {h : Heading} {spaces name cs : List Char}
    (hspaces : ∀ c ∈ spaces, isSpace c = true) (hname : isPlainName name = true) :
    readHeading none (limit + 1) h (spaces ++ '<' :: (name ++ cs)) =
      .ok (h.doctype, '<' :: (name ++ cs)) := by
  have hspace : (spaces ++ '<' :: (name ++ cs)).dropWhile isSpace = '<' :: (name ++ cs) :=
    dropWhile_run hspaces (stopsAt_cons.2 (by decide))
  have hlex : lex none (spaces ++ '<' :: (name ++ cs)) =
      .ok ⟨.element, ('<' :: (name ++ cs)).length, name ++ cs⟩ := by
    rw [lex]
    simp only [hspace, List.isEmpty_cons, Bool.false_eq_true, if_false, scanProlog_startTag hname]
  rw [readHeading, hlex]
  simp only [bind, Except.bind, hspace]
  rfl

theorem readHeading_element {limit : ℕ} {h : Heading} {name cs : List Char}
    (hname : isPlainName name = true) :
    readHeading none (limit + 1) h ('\n' :: '<' :: (name ++ cs)) =
      .ok (h.doctype, '<' :: (name ++ cs)) :=
  @readHeading_spaces limit h ['\n'] name cs (by decide) hname

/-- A document is read once its element is, if there are only spaces around the element. -/
theorem readAfter_of_reaches {header spaces name cs trailer : List Char} {e : Element}
    (hspaces : ∀ c ∈ spaces, isSpace c = true) (hname : isPlainName name = true)
    (htrailer : ∀ c ∈ trailer, isSpace c = true)
    (h : Reaches {} {} ('<' :: (name ++ cs)) ⟨[], some e⟩ trailer) :
    readAfter header false ⟨spaces ++ '<' :: (name ++ cs), none⟩ = .ok e := by
  have hread := @readContent_of_reaches {} _ _ e h 1
    ((spaces ++ '<' :: (name ++ cs)).length + 1) (by rw [List.length_append]; omega)
  have hend : readTrailer none (trailer.length + 1) trailer = .ok () := by
    have hnothing : trailer.dropWhile isSpace = [] := List.dropWhile_eq_nil_iff.2 htrailer
    rw [readTrailer, hnothing]
    rfl
  rw [readAfter, readBody]
  simp only [readHeading_spaces hspaces hname, bind, Except.bind]
  simp only [List.length_nil, Nat.zero_add] at hread ⊢
  simp only [hread, hend, pure, Except.pure]

/-- A tree is read back from the document that it is written to. -/
theorem parse_written {name : String} {attributes : Keyed String} {content : List Node}
    (h : Legible (.element name attributes content)) :
    ∃ content', outlineAll content' = outlineAll content ∧
      parse (encode (String.ofList (utf8Declaration ++ '\n' ::
          (((Node.element name attributes content).indent 0).render ++ ['\n'])))) =
        .ok ⟨name, attributes, content'⟩ := by
  cases h with
  | element hname hattributes hcontent =>
    obtain ⟨cs, hcs⟩ : ∃ cs, ((Node.element name attributes content).indent 0).render ++ ['\n'] =
        '<' :: (name.toList ++ cs) := by
      cases content with
      | nil => exact ⟨_, by rw [Node.indent, Node.render] <;> simp; rfl⟩
      | cons node content => exact ⟨_, by simp [Node.indent, Node.render]; rfl⟩
    obtain ⟨content', hcontent', hreaches⟩ := reaches_document (d := {}) rfl hname hattributes
      hcontent 0 ['\n']
    refine ⟨content', hcontent', ?_⟩
    rw [hcs] at hreaches ⊢
    rw [parse_declared]
    exact readAfter_of_reaches (List.forall_mem_singleton.2 rfl) hname
      (List.forall_mem_singleton.2 rfl) hreaches

end Document

end SolutionScript.Xml
