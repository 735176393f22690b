import Mathlib.Data.List.Forall2
import SolutionScript.Proofs.Text.Span
import SolutionScript.Proofs.Text.Split
import SolutionScript.Xml.Content
import SolutionScript.Xml.Printer

/-!
# Tags as they are written

A tag with names that have no prefixes and with escaped attribute values is scanned
as it was written (`scanStartTag_written`), and opens an element with these attributes
(`openTag_written`).
-/

namespace SolutionScript.Xml

open Text

/-! ## Names -/

/-- Whether a text is a name without a prefix that declares no prefix. -/
def isPlainName : List Char → Bool
  | [] => false
  | c :: rest => isNameStart c && rest.all isNamePart && c :: rest != "xmlns".toList

variable {name rest : List Char}

theorem scanName_plain (hname : isPlainName name = true) (hrest : StopsAt isNamePart rest) :
    scanName (name ++ rest) = .ok (name, rest) := by
  cases name with
  | nil => cases hname
  | cons c name =>
    simp only [isPlainName, Bool.and_eq_true, List.all_eq_true] at hname
    rw [List.cons_append, scanName, if_pos hname.1.1, takeWhile_run hname.1.2 hrest,
      dropWhile_run hname.1.2 hrest]

/-- What follows a name that has ended. -/
def EndsName (rest : List Char) : Prop :=
  ∃ c more, rest = c :: more ∧ isNamePart c = false ∧ c ≠ ':'

theorem EndsName.stopsAt (h : EndsName rest) : StopsAt isNamePart rest := by
  obtain ⟨c, more, rfl, hc, -⟩ := h
  exact stopsAt_cons.2 hc

theorem scanQualifiedName_plain (hname : isPlainName name = true) (hrest : EndsName rest) :
    scanQualifiedName (name ++ rest) = .ok (name, rest) := by
  rw [scanQualifiedName, scanName_plain hname hrest.stopsAt]
  obtain ⟨c, more, rfl, -, hc⟩ := hrest
  simp only [bind, Except.bind]
  split
  · rename_i heq
    cases heq
    exact absurd rfl hc
  · rfl

theorem not_mem_colon (hname : isPlainName name = true) : ':' ∉ name := by
  cases name with
  | nil => cases hname
  | cons c name =>
    simp only [isPlainName, Bool.and_eq_true, List.all_eq_true] at hname
    intro hmem
    rcases List.mem_cons.1 hmem with rfl | hmem
    · exact absurd hname.1.1 (by decide)
    · exact absurd (hname.1.2 _ hmem) (by decide)

theorem splitPrefix_of_not_mem {name : List Char} (h : ':' ∉ name) :
    splitPrefix name = ([], name) := by
  rw [splitPrefix, splitAtWord_of_not_mem h]

theorem splitPrefix_plain (hname : isPlainName name = true) : splitPrefix name = ([], name) :=
  splitPrefix_of_not_mem (not_mem_colon hname)

theorem declaredPrefix?_plain (hname : isPlainName name = true) : declaredPrefix? name = none := by
  have hne : name ≠ "xmlns".toList := by
    cases name with
    | nil => simp
    | cons c name =>
      simp only [isPlainName, Bool.and_eq_true, bne_iff_ne] at hname
      exact hname.2
  rw [declaredPrefix?, if_neg hne, splitPrefix_plain hname]
  simp

/-! ## Attribute values -/

/-- A character has a reference in place of it in attribute values. -/
structure Escaped (c : Char) (body : List Char) (r : Reference) : Prop where
  written : attributeChar c = '&' :: body
  plain : ∀ d ∈ body, d ≠ '"' ∧ d ≠ '<' ∧ d ≠ '&' ∧ isXmlChar d = true
  scan : ∀ more, scanReference (body ++ more) = .ok (r, more)
  stands : r = .character (some c) ∧ c ≠ ' ' ∨ ∃ name, r = .entity name ∧ predefined? name = some c

/-- A character stands for itself in attribute values. -/
structure Unescaped (c : Char) : Prop where
  written : attributeChar c = [c]
  plain : c ≠ '"' ∧ c ≠ '<' ∧ c ≠ '&' ∧ c ≠ '\r'
  space : isSpace c = true → c = ' '

theorem escaped_of_entity {c : Char} (name : List Char)
    (hwritten : attributeChar c = '&' :: (name ++ [';']))
    (hplain : ∀ d ∈ name ++ [';'], d ≠ '"' ∧ d ≠ '<' ∧ d ≠ '&' ∧ isXmlChar d = true)
    (hscan : ∀ more, scanReference (name ++ ';' :: more) = .ok (.entity name, more))
    (hstands : predefined? name = some c) : ∃ body r, Escaped c body r :=
  ⟨name ++ [';'], .entity name, hwritten, hplain, fun more => by simpa using hscan more,
    .inr ⟨name, rfl, hstands⟩⟩

theorem escaped_of_number {c : Char} (digits : List Char) (hne : c ≠ ' ')
    (hwritten : attributeChar c = '&' :: '#' :: (digits ++ [';']))
    (hplain : ∀ d ∈ '#' :: (digits ++ [';']), d ≠ '"' ∧ d ≠ '<' ∧ d ≠ '&' ∧ isXmlChar d = true)
    (hscan :
      ∀ more, scanReference ('#' :: (digits ++ ';' :: more)) = .ok (.character (some c), more)) :
    ∃ body r, Escaped c body r :=
  ⟨'#' :: (digits ++ [';']), .character (some c), hwritten, hplain,
    fun more => by simpa using hscan more, .inl ⟨rfl, hne⟩⟩

/-- The characters that are not written as they are. -/
def escapedChars : List Char := ['&', '<', '>', '"', '\r', '\n', '\t']

theorem exists_escaped {c : Char} (h : c ∈ escapedChars) : ∃ body r, Escaped c body r := by
  simp only [escapedChars, List.mem_cons, List.not_mem_nil, or_false] at h
  rcases h with rfl | rfl | rfl | rfl | rfl | rfl | rfl
  · exact escaped_of_entity "amp".toList rfl (by decide) (fun _ => rfl) rfl
  · exact escaped_of_entity "lt".toList rfl (by decide) (fun _ => rfl) rfl
  · exact escaped_of_entity "gt".toList rfl (by decide) (fun _ => rfl) rfl
  · exact escaped_of_entity "quot".toList rfl (by decide) (fun _ => rfl) rfl
  · exact escaped_of_number "13".toList (by decide) rfl (by decide) (fun _ => rfl)
  · exact escaped_of_number "10".toList (by decide) rfl (by decide) (fun _ => rfl)
  · exact escaped_of_number "09".toList (by decide) rfl (by decide) (fun _ => rfl)

theorem unescaped_of_not_mem {c : Char} (h : c ∉ escapedChars) : Unescaped c := by
  simp only [escapedChars, List.mem_cons, List.not_mem_nil, or_false, not_or] at h
  obtain ⟨hamp, hlt, hgt, hquote, hreturn, hfeed, htab⟩ := h
  refine ⟨?_, ⟨hquote, hlt, hamp, hreturn⟩, fun hspace => ?_⟩
  · unfold attributeChar
    split <;> first | rfl | contradiction
  · simpa [isSpace, hreturn, hfeed, htab] using hspace

/-- A value as it is written. -/
def escape (value : List Char) : List Char := value.flatMap attributeChar

/-- Characters other than references and quotes are passed over. -/
theorem scanValue_plain {body : List Char}
    (h : ∀ d ∈ body, d ≠ '"' ∧ d ≠ '<' ∧ d ≠ '&' ∧ isXmlChar d = true) (value rest : List Char) :
    scanValue '"' value (body ++ rest) = scanValue '"' (body.reverse ++ value) rest := by
  induction body generalizing value with
  | nil => rfl
  | cons d body ih =>
    rw [List.forall_mem_cons] at h
    obtain ⟨⟨hquote, hlt, hamp, hxml⟩, h⟩ := h
    rw [List.cons_append, scanValue, if_neg hquote, if_neg (by simp [hlt, hxml]), if_neg hamp, ih h]
    simp

/-- An escaped value is scanned up to its quote. -/
theorem scanValue_escape {cs : List Char} (h : ∀ c ∈ cs, isXmlChar c = true)
    (value rest : List Char) :
    scanValue '"' value (escape cs ++ '"' :: rest) = .ok (value.reverse ++ escape cs, rest) := by
  induction cs generalizing value with
  | nil => simp [escape, scanValue]
  | cons c cs ih =>
    rw [List.forall_mem_cons] at h
    rw [escape, List.flatMap_cons, ← escape, List.append_assoc]
    by_cases hc : c ∈ escapedChars
    · obtain ⟨body, r, hwritten, hplain, hscan, -⟩ := exists_escaped hc
      rw [hwritten, List.cons_append, scanValue, if_neg (by decide), if_neg (by decide),
        if_pos rfl, hscan]
      simp only
      rw [scanValue_plain hplain, ih h.2]
      simp
    · obtain ⟨hwritten, ⟨hquote, hlt, hamp, -⟩, -⟩ := unescaped_of_not_mem hc
      rw [hwritten, scanValue_plain (by simp [hquote, hlt, hamp, h.1]), ih h.2]
      simp

/-- Expanding an escaped value gives the value. -/
theorem expandFrom_escape (d : Doctype) (depth : ℕ) (opened : List (List Char)) {limit : ℕ}
    {cs : List Char} (hlimit : cs.length ≤ limit) (value : List Char) :
    expandFrom d true depth (limit + 1) opened value (escape cs) = .ok (cs.reverse ++ value) := by
  induction cs generalizing limit value with
  | nil => simp [escape, expandFrom]
  | cons c cs ih =>
    cases limit with
    | zero => simp at hlimit
    | succ limit =>
      have hlimit : cs.length ≤ limit := by simpa using hlimit
      rw [escape, List.flatMap_cons, ← escape]
      by_cases hc : c ∈ escapedChars
      · obtain ⟨body, r, hwritten, -, hscan, hstands⟩ := exists_escaped hc
        rw [hwritten, List.cons_append, expandFrom, hscan]
        rcases hstands with ⟨rfl, hspace⟩ | ⟨name, rfl, hstands⟩
        · simp only
          rw [pushReferenced, if_neg hspace, ih hlimit]
          simp
        · simp only [hstands]
          rw [ih hlimit]
          simp
      · obtain ⟨hwritten, ⟨-, hlt, hamp, hreturn⟩, hspace⟩ := unescaped_of_not_mem hc
        rw [hwritten, List.singleton_append, expandFrom]
        · have hpush :
              (if isSpace c = true then pushBlank true value else c :: value) = c :: value := by
            split
            · rename_i hblank
              rw [hspace hblank]
              rfl
            · rfl
          rw [hpush, ih hlimit]
          simp
        all_goals simp [hlt, hamp, hreturn]

theorem length_le_escape (cs : List Char) : cs.length ≤ (escape cs).length := by
  induction cs with
  | nil => simp
  | cons c cs ih =>
    have hpos : 0 < (attributeChar c).length := by
      by_cases hc : c ∈ escapedChars
      · obtain ⟨body, r, hwritten, -⟩ := exists_escaped hc
        simp [hwritten]
      · simp [(unescaped_of_not_mem hc).written]
    rw [escape, List.flatMap_cons, ← escape, List.length_append, List.length_cons]
    omega

theorem expandValue_escape (d : Doctype) (opened : List (List Char)) (cs : List Char) :
    expandValue d opened true (escape cs) = .ok cs := by
  rw [expandValue, expandFrom_escape d _ opened (length_le_escape cs)]
  simp [Except.map]

/-! ## Scanning a tag -/

/-- Attributes that can be written: different plain names, and values that an XML text may
have. -/
structure Attributes (attributes : Keyed String) : Prop where
  names : ∀ a ∈ attributes, isPlainName a.1.toList = true
  nodup : attributes.keys.Nodup
  values : ∀ a ∈ attributes, ∀ c ∈ a.2.toList, isXmlChar c = true

theorem attributes_nil : Attributes [] := ⟨by simp, List.nodup_nil, by simp⟩

theorem Attributes.tail {a : String × String} {attributes : Keyed String}
    (h : Attributes (a :: attributes)) : Attributes attributes :=
  ⟨fun b hb => h.names b (List.mem_cons_of_mem _ hb), (List.nodup_cons.1 h.nodup).2,
    fun b hb => h.values b (List.mem_cons_of_mem _ hb)⟩

/-- An attribute as it is scanned. -/
structure Written (a : String × String) (raw : RawAttribute) : Prop where
  name : raw.name = a.1.toList
  value : raw.value = escape a.2.toList

theorem isSpace_of_isNameStart {c : Char} (h : isNameStart c = true) : isSpace c = false := by
  by_contra hspace
  rw [Bool.not_eq_false] at hspace
  simp only [isSpace, Bool.or_eq_true, beq_iff_eq] at hspace
  rcases hspace with ((rfl | rfl) | rfl) | rfl
  all_goals exact absurd h (by decide)

theorem exists_isNameStart (hname : isPlainName name = true) :
    ∃ c more, name = c :: more ∧ isNameStart c = true := by
  cases name with
  | nil => cases hname
  | cons c more =>
    simp only [isPlainName, Bool.and_eq_true] at hname
    exact ⟨c, more, rfl, hname.1.1⟩

theorem scanAttribute_written (hname : isPlainName name = true) {value : List Char}
    (hvalue : ∀ c ∈ value, isXmlChar c = true) (rest : List Char) :
    ∃ left after, scanAttribute (name ++ '=' :: '"' :: (escape value ++ '"' :: rest)) =
      .ok (⟨name, escape value, left, after⟩, rest) := by
  have hends : EndsName ('=' :: '"' :: (escape value ++ '"' :: rest)) :=
    ⟨_, _, rfl, by decide, by decide⟩
  have hequals : ('=' :: '"' :: (escape value ++ '"' :: rest)).dropWhile isSpace =
      '=' :: '"' :: (escape value ++ '"' :: rest) := rfl
  have hquote : ('"' :: (escape value ++ '"' :: rest)).dropWhile isSpace =
      '"' :: (escape value ++ '"' :: rest) := rfl
  refine ⟨(name ++ '=' :: '"' :: (escape value ++ '"' :: rest)).length, rest.length + 1, ?_⟩
  rw [scanAttribute, scanQualifiedName_plain hname hends]
  simp only [bind, Except.bind, hequals, hquote, scanValue_escape hvalue]
  rfl

/-- What ends a tag, and the text after it. -/
structure EndsTag (isEmpty : Bool) (cs rest : List Char) : Prop where
  name : EndsName cs
  scan : ∀ limit attributes,
    scanAttributes (limit + 1) attributes cs = .ok ((attributes.reverse, isEmpty), rest)

theorem endsTag_close (rest : List Char) : EndsTag false ('>' :: rest) rest :=
  ⟨⟨_, _, rfl, by decide, by decide⟩, fun _ _ => rfl⟩

theorem endsTag_empty (rest : List Char) : EndsTag true (' ' :: '/' :: '>' :: rest) rest :=
  ⟨⟨_, _, rfl, by decide, by decide⟩, fun _ _ => rfl⟩

theorem endsTag_tight (rest : List Char) : EndsTag true ('/' :: '>' :: rest) rest :=
  ⟨⟨_, _, rfl, by decide, by decide⟩, fun _ _ => rfl⟩

variable {isEmpty : Bool} {tagEnd : List Char}

theorem scanAttributes_written {attributes : Keyed String} (h : Attributes attributes)
    (hend : EndsTag isEmpty tagEnd rest) {limit : ℕ} (hlimit : attributes.length ≤ limit)
    (done : List RawAttribute) :
    ∃ raws, List.Forall₂ Written attributes raws ∧
      scanAttributes (limit + 1) done (attributesText attributes ++ tagEnd) =
        .ok ((done.reverse ++ raws, isEmpty), rest) := by
  induction attributes generalizing limit done with
  | nil => exact ⟨[], .nil, by simpa [attributesText] using hend.scan limit done⟩
  | cons a attributes ih =>
    obtain ⟨limit, rfl⟩ : ∃ k, limit = k + 1 := ⟨limit - 1, by simp at hlimit; omega⟩
    have hname := h.names a (by simp)
    obtain ⟨left, after, hscan⟩ := scanAttribute_written hname (h.values a (by simp))
      (attributesText attributes ++ tagEnd)
    obtain ⟨raws, hraws, hattributes⟩ := ih h.tail (by simpa using hlimit)
      (⟨a.1.toList, escape a.2.toList, left, after⟩ :: done)
    refine ⟨⟨a.1.toList, escape a.2.toList, left, after⟩ :: raws, .cons ⟨rfl, rfl⟩ hraws, ?_⟩
    obtain ⟨c, more, hcons, hstart⟩ := exists_isNameStart hname
    have htext : attributesText (a :: attributes) ++ tagEnd = ' ' :: (a.1.toList ++
        '=' :: '"' :: (escape a.2.toList ++ '"' :: (attributesText attributes ++ tagEnd))) := by
      simp [attributesText, attributeText, escape]
    rw [htext, scanAttributes, hcons]
    rw [hcons] at hscan hattributes
    have hspace : (' ' :: (c :: more ++ '=' :: '"' :: (escape a.2.toList ++
        '"' :: (attributesText attributes ++ tagEnd)))).dropWhile isSpace =
        c :: more ++ '=' :: '"' :: (escape a.2.toList ++
          '"' :: (attributesText attributes ++ tagEnd)) := by
      rw [List.dropWhile_cons, if_pos (by decide), List.cons_append, List.dropWhile_cons,
        isSpace_of_isNameStart hstart]
      rfl
    simp only [hspace, hscan, hattributes]
    simp [hstart]

theorem length_le_attributesText (attributes : Keyed String) :
    attributes.length ≤ (attributesText attributes).length := by
  induction attributes with
  | nil => simp
  | cons a attributes ih =>
    simp only [attributesText, List.flatMap_cons, List.length_append, attributeText,
      List.length_cons] at ih ⊢
    omega

theorem scanStartTag_written (hname : isPlainName name = true) {attributes : Keyed String}
    (h : Attributes attributes) (hend : EndsTag isEmpty tagEnd rest) :
    ∃ raws, List.Forall₂ Written attributes raws ∧
      scanStartTag (name ++ (attributesText attributes ++ tagEnd)) =
        .ok (⟨name, raws, isEmpty⟩, rest) := by
  have hends : EndsName (attributesText attributes ++ tagEnd) := by
    cases attributes with
    | nil => exact hend.name
    | cons a attributes => exact ⟨' ', _, rfl, by decide, by decide⟩
  have hlimit : attributes.length ≤ (attributesText attributes ++ tagEnd).length := by
    rw [List.length_append]
    have := length_le_attributesText attributes
    omega
  obtain ⟨raws, hraws, hscan⟩ := scanAttributes_written h hend hlimit []
  refine ⟨raws, hraws, ?_⟩
  rw [scanStartTag, scanQualifiedName_plain hname hends]
  simp only [bind, Except.bind, hscan]
  rfl

/-! ## Opening an element -/

theorem rulesFor_eq_nil {d : Doctype} (hd : d.rules = []) (element : List Char) :
    d.rulesFor element = [] := by
  rw [Doctype.rulesFor, hd, List.filter_nil]

theorem addWritten_written {d : Doctype} (hd : d.rules = []) (opened : List (List Char))
    {attributes : Keyed String} (h : Attributes attributes) {raws : List RawAttribute}
    (hraws : List.Forall₂ Written attributes raws) {seen : List (List Char)}
    (hseen : ∀ a ∈ attributes, a.1.toList ∉ seen) (scope : TagScope) :
    TagScope.addWritten d opened name seen scope raws =
      .ok { scope with attributes :=
        (attributes.map fun a => (a.1.toList, a.2.toList)).reverse ++ scope.attributes } := by
  induction hraws generalizing seen scope with
  | nil => rfl
  | @cons a raw attributes raws hraw hraws ih =>
    have hkeeps : d.keepsBlanks name raw.name = true := by
      rw [Doctype.keepsBlanks, rulesFor_eq_nil hd]
      rfl
    have hnew : raw.name ∉ seen := hraw.name ▸ hseen a (by simp)
    have hadd : scope.add raw.name a.2.toList =
        .ok { scope with attributes := (a.1.toList, a.2.toList) :: scope.attributes } := by
      rw [TagScope.add, hraw.name, declaredPrefix?_plain (h.names a (by simp))]
    have hrest : ∀ b ∈ attributes, b.1.toList ∉ raw.name :: seen := by
      intro b hb hmem
      rcases List.mem_cons.1 hmem with heq | hmem
      · rw [hraw.name, String.toList_inj] at heq
        have hkey : b.1 ∈ Keyed.keys attributes := List.mem_map_of_mem hb
        exact (List.nodup_cons.1 h.nodup).1 (by simpa [heq, Keyed.keys] using hkey)
      · exact hseen b (List.mem_cons_of_mem _ hb) hmem
    rw [TagScope.addWritten, if_neg (by simp [hnew]), hkeeps, hraw.value, expandValue_escape]
    simp only [bind, Except.bind, pure, Except.pure, hadd, ih h.tail hrest]
    simp

/-- Putting pairs with new names one after the other adds them at the end. -/
theorem foldlM_put {ε : Type} {f : Keyed String → String × String → Except ε (Keyed String)}
    {pairs : Keyed String} (hf : ∀ done, ∀ a ∈ pairs, f done a = .ok (done.put a.1 a.2))
    (hnodup : pairs.keys.Nodup) {done : Keyed String} (hnew : ∀ a ∈ pairs, a.1 ∉ done.keys) :
    pairs.foldlM f done = .ok (done ++ pairs) := by
  induction pairs generalizing done with
  | nil => simp [pure, Except.pure]
  | cons a pairs ih =>
    have hnodup := List.nodup_cons.1 hnodup
    have hrest : ∀ b ∈ pairs, b.1 ∉ Keyed.keys (done ++ [a]) := by
      intro b hb hmem
      simp only [Keyed.keys, List.map_append, List.map_cons, List.map_nil, List.mem_append,
        List.mem_singleton] at hmem
      rcases hmem with hmem | heq
      · exact hnew b (List.mem_cons_of_mem _ hb) hmem
      · have hkey : b.1 ∈ Keyed.keys pairs := List.mem_map_of_mem hb
        exact hnodup.1 (by simpa [heq, Keyed.keys] using hkey)
    rw [List.foldlM_cons, hf done a (by simp), Keyed.put_of_not_mem (hnew a (by simp))]
    simp only [bind, Except.bind]
    rw [ih (fun done b hb => hf done b (List.mem_cons_of_mem _ hb)) hnodup.2 hrest]
    simp

/-- Names without a prefix stay as they are. -/
theorem expand_written (bindings : Bindings) {attributes : Keyed String}
    (h : Attributes attributes) :
    TagScope.expand ⟨bindings, (attributes.map fun a => (a.1.toList, a.2.toList)).reverse⟩ =
      .ok attributes := by
  rw [TagScope.expand, List.reverse_reverse, List.foldlM_map]
  refine foldlM_put (fun done a ha => ?_) h.nodup (by simp [Keyed.keys])
  simp [splitPrefix_plain (h.names a ha), expandedName, bind, Except.bind, pure, Except.pure]

/-- A tag opens the element that it was written for. -/
theorem openTag_written {d : Doctype} (hd : d.rules = []) (opened : List (List Char))
    (hname : isPlainName name = true) {attributes : Keyed String} (h : Attributes attributes)
    {raws : List RawAttribute} (hraws : List.Forall₂ Written attributes raws) :
    openTag d opened Bindings.initial ⟨name, raws, isEmpty⟩ =
      .ok (⟨String.ofList name, attributes, []⟩, Bindings.initial) := by
  rw [openTag, addWritten_written hd opened h hraws (by simp)]
  simp only [bind, Except.bind, rulesFor_eq_nil hd, TagScope.addDefaults, List.foldlM_nil, pure,
    Except.pure, List.append_nil, expand_written _ h, splitPrefix_plain hname]
  rfl

end SolutionScript.Xml
