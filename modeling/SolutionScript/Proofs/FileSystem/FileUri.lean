import SolutionScript.FileSystem.FileUri
import SolutionScript.Proofs.Text.Encode
import SolutionScript.Proofs.Text.Span
import SolutionScript.Proofs.Text.Split

/-!
# Paths as file URIs

Clients write a path as a URI by its bytes: letters, digits, four marks and slashes as they are, and
every other byte as an escape (`FileUri.ofPath`). No character of such a URI means anything to the
reader of URIs (`IsPlain`), and each escape is read as its byte (`unescape_escape`), so that the URI
of a rooted path names that path (`path?_ofPath`), two slashes at its start and all.

* `parse_render`: a path in normal form is read from its text as it is;
* `decodeRuns_of_ascii`: a text in ASCII is decoded as one run of bytes.
-/

namespace SolutionScript

open Text

/-! ## Paths in normal form -/

namespace HostPath

/-- The names of a path are as reading leaves them: none is empty or a single dot, and none has a
slash in it. -/
def IsNormal (p : HostPath) : Prop :=
  ∀ name ∈ p.names, name ≠ "" ∧ name ≠ "." ∧ '/' ∉ name.toList

instance (p : HostPath) : Decidable p.IsNormal := List.decidableBAll _ _

variable {p : HostPath}

theorem render_of_isAbsolute (h : p.isAbsolute = true) :
    p.render = rootText p.root ++ Text.join "/" p.names := by
  have hroot : p.root ≠ .relative := by simpa [isAbsolute] using h
  rw [render, if_neg (by simp [hroot])]

theorem exists_toList_render (h : p.isAbsolute = true) : ∃ cs, p.render.toList = '/' :: cs := by
  rw [render_of_isAbsolute h, String.toList_append]
  cases hroot : p.root with
  | relative => simp [isAbsolute, hroot] at h
  | single => exact ⟨_, rfl⟩
  | double => exact ⟨_, rfl⟩

/-- The root of a text is that of the slashes before the first name. -/
theorem rootOf_rootText {cs : List Char} (h : StopsAt (· == '/') cs) (root : HostRoot) :
    rootOf ((rootText root).toList ++ cs) = root := by
  cases root <;> simp [rootOf, rootText, h.takeWhile_eq]

/-- The slashes of a root are followed by empty names only. -/
theorem names_rootText (root : HostRoot) (s : String) :
    (parse (rootText root ++ s)).names = (parse s).names := by
  cases root <;> simp [parse, rootText, splitAt, splitList]

theorem names_join (h : p.IsNormal) : (parse (Text.join "/" p.names)).names = p.names := by
  by_cases hnames : p.names = []
  · rw [hnames]
    decide
  · have hparts : p.names.flatMap (splitAt '/') = p.names :=
      flatMap_splitAt_eq_self.2 fun name hname => (h name hname).2.2
    rw [parse, splitAt_join rfl hnames, hparts, List.filter_eq_self]
    intro name hname
    obtain ⟨hempty, hdot, -⟩ := h name hname
    simp [hempty, hdot]

theorem stopsAt_join (h : p.IsNormal) : StopsAt (· == '/') (Text.join "/" p.names).toList := by
  cases hnames : p.names with
  | nil => decide
  | cons name names =>
    obtain ⟨hempty, -, hslash⟩ := h name (by rw [hnames]; exact List.mem_cons_self)
    obtain ⟨c, cs, hname⟩ : ∃ c cs, name.toList = c :: cs :=
      List.exists_cons_of_ne_nil (by simpa using hempty)
    have hc : c ≠ '/' := fun heq => hslash (by rw [hname, heq]; exact List.mem_cons_self)
    have hhead : (Text.join "/" (name :: names)).toList.head? = some c := by
      rw [Text.join, String.toList_intercalate]
      cases names <;> simp [hname]
    intro c' hc'
    obtain rfl : c = c' := by simpa [hhead] using hc'
    simpa using hc

/-- A path in normal form is read from its text as it is. -/
theorem parse_render (h : p.IsNormal) (habs : p.isAbsolute = true) : parse p.render = p := by
  have hrender := render_of_isAbsolute habs
  have hroot : (parse p.render).root = p.root := by
    rw [hrender]
    show rootOf (rootText p.root ++ Text.join "/" p.names).toList = p.root
    rw [String.toList_append, rootOf_rootText (stopsAt_join h)]
  have hnames : (parse p.render).names = p.names := by
    rw [hrender, names_rootText, names_join h]
  cases hp : parse p.render with
  | mk root names =>
    rw [hp] at hroot hnames
    subst hroot hnames
    rfl

end HostPath

namespace FileSystem.FileUri

/-! ## Bytes and escapes -/

/-- Whether a byte of a path is written as it is: a letter or a digit, one of four marks, or a
slash. -/
def isKept (b : UInt8) : Bool :=
  (Char.ofNat b.toNat).isAlphanum || "_.-~/".toList.contains (Char.ofNat b.toNat)

/-- A digit of an escape. -/
def hexDigit (n : Nat) : Char := Char.ofNat (if n < 10 then 48 + n else 55 + n)

/-- A byte as it is written. -/
def escapeByte (b : UInt8) : List Char :=
  if isKept b then [Char.ofNat b.toNat]
  else ['%', hexDigit (b.toNat / 16), hexDigit (b.toNat % 16)]

/-- A path as it is written in a URI. -/
def escape (p : HostPath) : List Char := (encode p.render).flatMap escapeByte

/-- The URI of a path. -/
def ofPath (p : HostPath) : String := "file://" ++ String.ofList (escape p)

/-- The character means nothing to the reader of a URI: it is visible ASCII, and neither starts a
query nor a fragment. -/
def IsPlain (c : Char) : Prop := 32 < c.toNat ∧ c.toNat < 128 ∧ c ≠ '#' ∧ c ≠ '?'

instance (c : Char) : Decidable (IsPlain c) := inferInstanceAs (Decidable (_ ∧ _))

/-- What holds of the bytes by their numbers holds of all bytes. -/
theorem forall_byte {P : UInt8 → Prop} (h : ∀ n < 256, P (UInt8.ofNat n)) (b : UInt8) : P b := by
  have hb := h b.toNat b.toNat_lt
  rwa [UInt8.ofNat_toNat] at hb

theorem isPlain_of_mem_escapeByte (b : UInt8) : ∀ c ∈ escapeByte b, IsPlain c :=
  forall_byte (P := fun b => ∀ c ∈ escapeByte b, IsPlain c) (by decide +kernel) b

theorem isPlain_of_mem_escape {p : HostPath} {c : Char} (h : c ∈ escape p) : IsPlain c := by
  obtain ⟨b, -, hc⟩ := List.mem_flatMap.1 h
  exact isPlain_of_mem_escapeByte b c hc

/-- A byte that is written as it is, is the number of its character. -/
theorem ofNat_of_isKept (b : UInt8) :
    isKept b = true → Char.ofNat b.toNat ≠ '%' ∧ UInt8.ofNat (Char.ofNat b.toNat).toNat = b :=
  forall_byte (P := fun b => isKept b = true →
    Char.ofNat b.toNat ≠ '%' ∧ UInt8.ofNat (Char.ofNat b.toNat).toNat = b) (by decide +kernel) b

theorem hexValue?_hexDigit : ∀ n < 16, hexValue? (hexDigit n) = some n := by
  decide

theorem unescape_cons {c : Char} (h : c ≠ '%') (rest : List Char) :
    unescape (c :: rest) = UInt8.ofNat c.toNat :: unescape rest := by
  rw [unescape]
  rintro a b more rfl
  exact absurd rfl h

/-- A byte is read from what it is written as, whatever follows. -/
theorem unescape_escapeByte (b : UInt8) (rest : List Char) :
    unescape (escapeByte b ++ rest) = b :: unescape rest := by
  unfold escapeByte
  split
  · rename_i hkept
    obtain ⟨hne, hbyte⟩ := ofNat_of_isKept b hkept
    rw [List.singleton_append, unescape_cons hne, hbyte]
  · have hb := b.toNat_lt
    have hdigits : b.toNat / 16 * 16 + b.toNat % 16 = b.toNat := by omega
    rw [List.cons_append, List.cons_append, List.singleton_append, unescape,
      hexValue?_hexDigit _ (by omega), hexValue?_hexDigit _ (by omega)]
    simp only [hdigits, UInt8.ofNat_toNat]

/-- Escapes are read as the bytes that they stand for. -/
theorem unescape_escape (bytes : List UInt8) : unescape (bytes.flatMap escapeByte) = bytes := by
  induction bytes with
  | nil => rfl
  | cons b bytes ih => rw [List.flatMap_cons, unescape_escapeByte, ih]

/-! ## Reading -/

/-- A text in ASCII is one run. -/
theorem decodeRuns_of_ascii {cs : List Char} (h : ∀ c ∈ cs, c.toNat < 128) (run : List Char) :
    decodeRuns run cs = decodeLossy (unescape (run.reverse ++ cs)) := by
  induction cs generalizing run with
  | nil => rw [decodeRuns, List.append_nil]
  | cons c cs ih =>
    rw [List.forall_mem_cons] at h
    rw [decodeRuns, if_pos h.1, ih h.2, List.reverse_cons, List.append_assoc, List.singleton_append]

/-- What is escaped is decoded as it was. -/
theorem decodeRuns_escape (p : HostPath) : decodeRuns [] (escape p) = p.render.toList := by
  have hascii : ∀ c ∈ escape p, c.toNat < 128 := fun c hc => (isPlain_of_mem_escape hc).2.1
  rw [decodeRuns_of_ascii hascii, List.reverse_nil, List.nil_append, escape, unescape_escape,
    decodeLossy_encode]

/-- Nothing is dropped from a text of plain characters. -/
theorem filter_plain {cs : List Char} (h : ∀ c ∈ cs, IsPlain c) :
    (cs.dropWhile fun c => c.toNat ≤ 32).filter (fun c => c != '\t' && c != '\r' && c != '\n') =
      cs := by
  have hstart : StopsAt (fun c : Char => decide (c.toNat ≤ 32)) cs := by
    intro c hc
    have := (h c (List.mem_of_mem_head? hc)).1
    simpa using this
  rw [hstart.dropWhile_eq, List.filter_eq_self]
  intro c hc
  have hvisible := (h c hc).1
  have hne (blank : Char) (hblank : blank.toNat ≤ 32) : c ≠ blank := by
    rintro rfl
    omega
  simp [hne '\t' (by decide), hne '\r' (by decide), hne '\n' (by decide)]

/-- An empty host stands before a rooted path. -/
theorem afterHost?_slash {cs : List Char} (h : cs.head? = some '/') :
    afterHost? ('/' :: '/' :: cs) = some cs := by
  have hstops : StopsAt (fun c => c != '/' && c != '?' && c != '#') cs := by
    intro c hc
    obtain rfl : '/' = c := by simpa [h] using hc
    rfl
  rw [afterHost?, hstops.takeWhile_eq, hstops.dropWhile_eq, if_pos (by decide)]

/-- What is written of a rooted path starts with a slash. -/
theorem head?_escape {p : HostPath} (habs : p.isAbsolute = true) : (escape p).head? = some '/' := by
  obtain ⟨cs, hcs⟩ := HostPath.exists_toList_render habs
  have hbytes : encode p.render = 47 :: cs.flatMap String.utf8EncodeChar := by
    rw [← String.ofList_toList (s := p.render), encode_ofList, hcs, List.flatMap_cons]
    rfl
  have hslash : escapeByte 47 = ['/'] := by decide
  rw [escape, hbytes, List.flatMap_cons, hslash]
  rfl

/-- The URI of a rooted path in normal form names the path, whatever characters it has. -/
theorem path?_ofPath {p : HostPath} (hp : p.IsNormal) (habs : p.isAbsolute = true) :
    path? (ofPath p) = some p := by
  have htext : (ofPath p).toList = ['f', 'i', 'l', 'e'] ++ ':' :: '/' :: '/' :: escape p := by
    simp only [ofPath, String.toList_append, String.toList_ofList]
    rfl
  have hplain : ∀ c ∈ ['f', 'i', 'l', 'e'] ++ ':' :: '/' :: '/' :: escape p, IsPlain c := by
    simp only [List.forall_mem_append, List.forall_mem_cons]
    exact ⟨by decide, by decide, by decide, by decide, fun c => isPlain_of_mem_escape⟩
  have hpath : (escape p).takeWhile (fun c => c != '#' && c != '?') = escape p := by
    rw [List.takeWhile_eq_self_iff]
    intro c hc
    obtain ⟨-, -, hfragment, hquery⟩ := isPlain_of_mem_escape hc
    simp [hfragment, hquery]
  have hscheme : lowerList ['f', 'i', 'l', 'e'] = "file".toList := by decide
  rw [path?, htext, filter_plain hplain, splitAtWord_append (by decide)]
  simp [hscheme, afterHost?_slash (head?_escape habs), hpath, decodeRuns_escape,
    HostPath.parse_render hp habs, habs]

/-- A path with characters that URIs, paths or texts give a meaning to. -/
def markedPath : HostPath := ⟨.double, ["my app", "50%#a?b;c", "..", "é文😀", "\t\n\x00", "~._-"]⟩

theorem escape_markedPath : String.ofList (escape markedPath) =
    "//my%20app/50%25%23a%3Fb%3Bc/../%C3%A9%E6%96%87%F0%9F%98%80/%09%0A%00/~._-" := by
  have hrender : markedPath.render = String.ofList markedPath.render.toList :=
    String.ofList_toList.symm
  rw [escape, hrender, encode_ofList]
  decide

/-- Two slashes at the start are kept, and so is every character of the names. -/
theorem path?_ofPath_marked : markedPath.IsNormal ∧ markedPath.isAbsolute = true ∧
    path? ("file://" ++
        "//my%20app/50%25%23a%3Fb%3Bc/../%C3%A9%E6%96%87%F0%9F%98%80/%09%0A%00/~._-") =
      some ⟨.double, ["my app", "50%#a?b;c", "..", "é文😀", "\t\n\x00", "~._-"]⟩ := by
  have hnormal : markedPath.IsNormal := by decide
  have hread := path?_ofPath hnormal rfl
  rw [ofPath, escape_markedPath] at hread
  exact ⟨hnormal, rfl, hread⟩

end FileSystem.FileUri

end SolutionScript
