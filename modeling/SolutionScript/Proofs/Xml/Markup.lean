import SolutionScript.Proofs.Text.Encode
import SolutionScript.Xml.Document

/-!
# Documents start with markup

A document that is a text in UTF-8 is read from the text (`Document.parse_of_decode`). Before the
element of a document stands nothing but markup (`scanProlog_isMarkup`). So bytes that
are a text in UTF-8, with a byte order mark or without one, are no document if the text starts with
anything else after its spaces (`Document.parse_of_plain`).
-/

namespace SolutionScript

namespace Xml

open Text

variable {bytes rest : List UInt8} {cs text : List Char} {c : Char} {b : UInt8} {taken : ℕ}

namespace Encoding

theorem isCut_of_readChar (h : readChar b rest = (.ok c, taken)) : isCut b rest = false := by
  unfold readChar at h
  unfold isCut
  split at h
  · cases h
  · rename_i n low high hfollowers
    have hlen := le_length_of_readFollowers h
    simp only [hfollowers, List.length_take, decide_eq_false_iff_not]
    omega

/-- What is a text in UTF-8 is the same text in a document. -/
theorem decodeUtf8_of_decodeFrom (h : decodeFrom text bytes = .ok cs) :
    decodeUtf8 text bytes = ⟨cs, none⟩ := by
  fun_induction decodeFrom text bytes with
  | case1 text =>
    cases h
    rw [decodeUtf8]
  | case2 text b rest c taken hread ih =>
    rw [decodeUtf8, isCut_of_readChar hread, hread]
    exact ih h
  | case3 => cases h

/-- Bytes of a text that does not start with null characters are not taken for UTF-16. -/
theorem ofFirstBytes_of_decode (h : Text.decode bytes = .ok cs) (hnull : '\x00' ∉ cs.take 2) :
    ofFirstBytes bytes = .utf8 := by
  match bytes with
  | [] => rfl
  | [_] => rfl
  | a :: b :: rest =>
    obtain ⟨c, taken, cs', hread, hrest, rfl⟩ := decode_cons_eq_ok h
    have hmark {x : UInt8} (hx : followers x = none) : a ≠ x := by
      rintro rfl
      rw [readChar, hx] at hread
      cases hread
    have hzero (rest : List UInt8) : readChar 0 rest = (.ok '\x00', 0) := rfl
    have ha : a ≠ 0 := by
      rintro rfl
      cases (hzero _).symm.trans hread
      simp at hnull
    have hb : b ≠ 0 := by
      rintro rfl
      unfold readChar at hread
      split at hread
      · cases hread
      · rename_i n low high hfollowers
        cases n with
        | zero =>
          cases hread
          obtain ⟨c', taken', cs'', hread', -, rfl⟩ := decode_cons_eq_ok hrest
          cases (hzero _).symm.trans hread'
          simp at hnull
        | succ n =>
          have hlow := le_of_followers hfollowers
          have hnot : (low ≤ 0 && 0 ≤ high) = false := by
            have : ¬ low ≤ 0 := fun hle => absurd (UInt8.le_trans hlow hle) (by decide)
            simp [this]
          rw [readFollowers, hnot] at hread
          cases hread
    have hFE : a ≠ 0xFE := hmark rfl
    have hFF : a ≠ 0xFF := hmark rfl
    simp [ofFirstBytes, ha, hb, hFE, hFF]

/-- Bytes of a text of several characters are more than a mark. -/
theorem isLoneMark_of_decode (h : Text.decode bytes = .ok cs) (hlength : 1 < cs.length) :
    isLoneMark bytes = false := by
  match bytes with
  | [] => rfl
  | [a] =>
    obtain ⟨_, taken, cs', -, hrest, rfl⟩ := decode_cons_eq_ok h
    rw [List.drop_nil, Text.decode, decodeFrom] at hrest
    cases hrest
    contradiction
  | [a, b] =>
    rw [Bool.eq_false_iff]
    intro hmark
    simp only [isLoneMark, Bool.and_eq_true, decide_eq_true_eq] at hmark
    obtain ⟨rfl, rfl⟩ := hmark
    obtain ⟨_, _, _, hread, -⟩ := decode_cons_eq_ok h
    cases hread
  | _ :: _ :: _ :: _ => rfl

end Encoding

/-! ## Tokens before the element -/

/-- Whether a token opens markup. -/
def PrologToken.isMarkup : PrologToken → Bool
  | .aside | .element | .declaration _ | .documentDeclaration _ => true
  | _ => false

variable {token : PrologToken} {left : List Char}

theorem scanLiteral_isMarkup {quote : Char}
    (h : scanLiteral quote text cs = .ok (token, left)) : token.isMarkup = false := by
  induction cs generalizing text with
  | nil => cases h
  | cons c cs ih =>
    unfold scanLiteral at h
    split at h
    · split at h
      · cases h
        rfl
      · split at h
        · cases h
          rfl
        · cases h
    · split at h
      · exact ih h
      · cases h

theorem scanPercent_isMarkup (h : scanPercent cs = .ok (token, left)) :
    token.isMarkup = false := by
  unfold scanPercent at h
  repeat' split at h
  all_goals
    cases h
    try rfl

theorem scanPound_isMarkup (h : scanPound cs = .ok (token, left)) : token.isMarkup = false := by
  unfold scanPound at h
  repeat' split at h
  all_goals
    cases h
    try rfl

theorem scanCloseParen_isMarkup (h : scanCloseParen cs = .ok (token, left)) :
    token.isMarkup = false := by
  unfold scanCloseParen at h
  repeat' split at h
  all_goals
    cases h
    try rfl

theorem NameForm.isMarkup_token (form : NameForm) (s : List Char) (occurrence : Occurrence) :
    (form.token s occurrence).isMarkup = false := by
  cases form <;> rfl

theorem scanNameRun_isMarkup {form : NameForm} (h : scanNameRun form text cs = .ok (token, left)) :
    token.isMarkup = false := by
  induction cs generalizing form text with
  | nil =>
    cases h
    exact form.isMarkup_token _ _
  | cons c cs ih =>
    unfold scanNameRun at h
    dsimp only at h
    repeat' split at h
    all_goals first
      | exact ih h
      | cases h <;> first | rfl | exact form.isMarkup_token _ _

/-- Markup starts with its opening bracket. -/
theorem scanProlog_isMarkup (h : scanProlog cs = .ok (token, left))
    (hmarkup : token.isMarkup = true) :
    cs.head? = some '<' := by
  by_contra hne
  refine absurd hmarkup (Bool.eq_false_iff.1 ?_)
  unfold scanProlog at h
  split at h
  all_goals first
    | exact scanLiteral_isMarkup h
    | exact scanPercent_isMarkup h
    | exact scanPound_isMarkup h
    | exact scanCloseParen_isMarkup h
    | exact absurd rfl hne
    | cases h <;> rfl
    | skip
  repeat' split at h
  all_goals first
    | exact scanNameRun_isMarkup h
    | cases h <;> rfl

/-! ## Documents -/

namespace Document

/-- Before the element of a document stands nothing but markup. -/
theorem exists_readHeading_error {ending : Option Cause} {limit : ℕ} {heading : Heading}
    (h : (cs.dropWhile isSpace).head? ≠ some '<') :
    ∃ stop, readHeading ending (limit + 1) heading cs = .error stop := by
  rw [readHeading, lex]
  dsimp only
  split
  · exact ⟨_, rfl⟩
  · split
    · rename_i token rest hscan
      have hmarkup : ¬ token.isMarkup = true := fun hmarkup => h (scanProlog_isMarkup hscan hmarkup)
      cases token with
      | aside => exact absurd rfl hmarkup
      | element => exact absurd rfl hmarkup
      | declaration => exact absurd rfl hmarkup
      | _ => exact ⟨_, rfl⟩
    · exact ⟨_, rfl⟩
    · exact ⟨_, rfl⟩

theorem readAfter_of_plain {header : List Char} {standalone : Bool} {decoded : Decoded}
    (h : (decoded.text.dropWhile isSpace).head? ≠ some '<') :
    ∃ fault, readAfter header standalone decoded = .error (.malformed fault) := by
  obtain ⟨stop, hstop⟩ := @exists_readHeading_error decoded.text decoded.ending decoded.text.length
    { doctype := { standalone } } h
  refine ⟨stop.inText (header ++ decoded.text), ?_⟩
  rw [readAfter, readBody]
  simp only [hstop, bind, Except.bind]

theorem afterMark_eq_self (h : cs.head? ≠ some '\uFEFF') : afterMark cs = cs := by
  unfold afterMark
  split
  · exact absurd rfl h
  · rfl

/-- A document that is a text in UTF-8 is read from the text, by its declaration if it starts with
one. -/
theorem parse_of_decode (hdecode : Text.decode bytes = .ok cs) (hlength : 1 < cs.length)
    (hnull : '\x00' ∉ cs.take 2) (hmark : cs.head? ≠ some '\uFEFF') :
    parse bytes = match scanProlog cs with
      | .ok (.documentDeclaration body, rest) => readDeclared .utf8 bytes ⟨cs, none⟩ body rest
      | _ => readAfter [] false ⟨cs, none⟩ := by
  have hfirst := Encoding.ofFirstBytes_of_decode hdecode hnull
  have hdecoded : Encoding.utf8.decode bytes = ⟨cs, none⟩ :=
    Encoding.decodeUtf8_of_decodeFrom hdecode
  rw [parse, Encoding.isLoneMark_of_decode hdecode hlength, if_neg Bool.false_ne_true]
  dsimp only
  rw [hfirst, hdecoded, afterMark_eq_self hmark]
  cases scanProlog cs with
  | error fault => rw [Nat.sub_self, List.take_zero]
  | ok found =>
    obtain ⟨token, rest⟩ := found
    cases token <;> simp

/-- A text in UTF-8 is the text of a document, with a byte order mark or without one. -/
theorem afterMark_of_decode (hdecode : Text.decode (dropByteOrderMark bytes) = .ok cs)
    (hnull : '\x00' ∉ cs.take 2) (hmark : cs.head? ≠ some '\uFEFF')
    (hlone : Encoding.isLoneMark bytes = false) :
    ∃ text, (Encoding.ofFirstBytes bytes).decode bytes = ⟨text, none⟩ ∧ afterMark text = cs := by
  unfold dropByteOrderMark at hdecode
  split at hdecode
  · rename_i hbegin
    obtain ⟨tail, rfl⟩ := List.isPrefixOf_iff_prefix.1 hbegin
    have happend := decodeFrom_append [] ['\uFEFF'] tail
    have htail : decodeFrom [] tail = .ok cs := hdecode
    rw [htail] at happend
    have hfirst : Text.decode (byteOrderMark ++ tail) = .ok ('\uFEFF' :: cs) := by
      have hread : readChar 0xEF (0xBB :: 0xBF :: tail) = (.ok '\uFEFF', 2) := rfl
      rw [byteOrderMark, List.cons_append, List.cons_append, List.singleton_append, Text.decode,
        decodeFrom, hread]
      exact happend
    exact ⟨_, Encoding.decodeUtf8_of_decodeFrom hfirst, rfl⟩
  · split at hdecode
    · rename_i hshort
      rcases bytes with - | ⟨a, - | ⟨b, - | ⟨c, rest⟩⟩⟩
      · exact ⟨cs, Encoding.decodeUtf8_of_decodeFrom hdecode, afterMark_eq_self hmark⟩
      · simp_all [Encoding.isLoneMark, byteOrderMark, List.isPrefixOf]
      · simp_all [Encoding.isLoneMark, byteOrderMark, List.isPrefixOf]
      · simp only [List.length_cons, Bool.and_eq_true, decide_eq_true_eq] at hshort
        omega
    · rw [Encoding.ofFirstBytes_of_decode hdecode hnull]
      exact ⟨cs, Encoding.decodeUtf8_of_decodeFrom hdecode, afterMark_eq_self hmark⟩

/-- A text that starts with anything but markup is no document. -/
theorem parse_of_plain (hdecode : Text.decode (dropByteOrderMark bytes) = .ok cs)
    (hnull : '\x00' ∉ cs.take 2) (hmark : cs.head? ≠ some '\uFEFF')
    (hplain : (cs.dropWhile isSpace).head? ≠ some '<') :
    ∃ fault, parse bytes = .error (.malformed fault) := by
  rw [parse]
  split
  · exact ⟨_, rfl⟩
  · rename_i hlone
    obtain ⟨text, htext, hstart⟩ := afterMark_of_decode hdecode hnull hmark (by simpa using hlone)
    simp only [htext, hstart]
    split
    · rename_i body rest hscan
      refine absurd ?_ hplain
      have hhead : cs.head? = some '<' := scanProlog_isMarkup hscan rfl
      obtain ⟨rest, rfl⟩ := List.head?_eq_some_iff.1 hhead
      rfl
    · exact readAfter_of_plain hplain

/-- A text that is refused before its element, and starts with no markup, is refused there. -/
theorem parse_of_readHeading (hdecode : Text.decode bytes = .ok cs) (hlength : 1 < cs.length)
    (hnull : '\x00' ∉ cs.take 2) (hmark : cs.head? ≠ some '\uFEFF') (hplain : cs.head? ≠ some '<')
    {stop : Stop}
    (hstop : readHeading none (cs.length + 1) { doctype := {} } cs = .error stop) :
    parse bytes = .error (.malformed (stop.inText cs)) := by
  rw [parse_of_decode hdecode hlength hnull hmark]
  split
  · rename_i hscan
    exact absurd (scanProlog_isMarkup hscan rfl) hplain
  · rw [readAfter, readBody]
    simp only [hstop, bind, Except.bind, List.nil_append]

end Document

end Xml

end SolutionScript
