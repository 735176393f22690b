import Mathlib.Data.List.TakeWhile
import Mathlib.Data.Nat.Basic
import SolutionScript.Text.CodePoint

/-!
# Encoded texts

The bytes of a text are those of its characters, one after the other
(`encode_ofList`). Each character is read from its bytes, whatever follows them
(`readChar_utf8EncodeChar`), so decoding the bytes of a text gives the text back
(`decode_encode`), and a text that has no byte order mark keeps all of its bytes
(`dropByteOrderMark_of_decode`). These are the bytes that a text is written as
(`encodePoints_codePoints`).
-/

namespace SolutionScript.Text

/-! ## Bytes -/

theorem toList_loop_eq (bs : ByteArray) (i : ℕ) (taken : List UInt8) :
    ByteArray.toList.loop bs i taken = taken.reverse ++ bs.data.toList.drop i := by
  fun_induction ByteArray.toList.loop bs i taken with
  | case1 i taken h ih =>
    have hi : i < bs.data.toList.length := by simpa using h
    have hget : bs.get! i = bs.data.toList[i] := by simp [ByteArray.get!, h]
    rw [ih, List.drop_eq_getElem_cons hi, hget]
    simp
  | case2 i taken h => rw [List.drop_of_length_le (by simpa using h), List.append_nil]

theorem toList_eq (bs : ByteArray) : bs.toList = bs.data.toList := by
  rw [ByteArray.toList, toList_loop_eq]
  rfl

/-- The bytes of a text are those of its characters. -/
theorem encode_ofList (cs : List Char) :
    encode (String.ofList cs) = cs.flatMap String.utf8EncodeChar := by
  rw [encode, String.toUTF8, toList_eq, String.toByteArray_ofList, List.utf8Encode,
    List.toList_data_toByteArray]

/-! ## Characters -/

/-- The form of the character that a byte starts, by the number that the byte is. -/
theorem followers_ofNat : ∀ n < 256, followers (UInt8.ofNat n) =
    if n < 0x80 then some (0, 0, 0)
    else if n < 0xC2 then none
    else if n < 0xE0 then some (1, 0x80, 0xBF)
    else if n = 0xE0 then some (2, 0xA0, 0xBF)
    else if n = 0xED then some (2, 0x80, 0x9F)
    else if n < 0xF0 then some (2, 0x80, 0xBF)
    else if n = 0xF0 then some (3, 0x90, 0xBF)
    else if n = 0xF4 then some (3, 0x80, 0x8F)
    else if n < 0xF4 then some (3, 0x80, 0xBF)
    else none := by
  decide +kernel

theorem toNat_ofNat_byte {n : ℕ} (h : n < 256) : (UInt8.ofNat n).toNat = n := by
  rw [UInt8.toNat_ofNat', Nat.mod_eq_of_lt h]

/-- A byte that continues a character, with the last bits of a number. -/
def continuation (n : ℕ) : UInt8 := UInt8.ofNat (n % 64 + 0x80)

theorem toNat_continuation (n : ℕ) : (continuation n).toNat = n % 64 + 128 :=
  toNat_ofNat_byte (by omega)

/-- A byte that continues a character adds its bits. -/
theorem readFollowers_continuation {value taken n w : ℕ} {low high : UInt8} {rest : List UInt8}
    (hlow : low.toNat ≤ w % 64 + 128) (hhigh : w % 64 + 128 ≤ high.toNat) :
    readFollowers value taken low high (n + 1) (continuation w :: rest) =
      readFollowers (value * 64 + w % 64) (taken + 1) 0x80 0xBF n rest := by
  have hbounds : (low ≤ continuation w && continuation w ≤ high) = true := by
    rw [Bool.and_eq_true, decide_eq_true_eq, decide_eq_true_eq, UInt8.le_iff_toNat_le,
      UInt8.le_iff_toNat_le, toNat_continuation]
    exact ⟨hlow, hhigh⟩
  have hbits : (w % 64 + 128) % 64 = w % 64 := by omega
  rw [readFollowers, if_pos hbounds, toNat_continuation, hbits]

/-- The numbers of characters leave out those of the surrogates. -/
theorem toNat_valid (c : Char) : c.toNat < 0xD800 ∨ 0xDFFF < c.toNat ∧ c.toNat < 0x110000 := c.valid

theorem utf8EncodeChar_eq (c : Char) :
    String.utf8EncodeChar c =
      if c.toNat ≤ 0x7F then [UInt8.ofNat c.toNat]
      else if c.toNat ≤ 0x7FF then
        [UInt8.ofNat (c.toNat / 64 % 32 + 0xC0), continuation c.toNat]
      else if c.toNat ≤ 0xFFFF then
        [UInt8.ofNat (c.toNat / 4096 % 16 + 0xE0), continuation (c.toNat / 64),
          continuation c.toNat]
      else
        [UInt8.ofNat (c.toNat / 262144 % 8 + 0xF0), continuation (c.toNat / 4096),
          continuation (c.toNat / 64), continuation c.toNat] :=
  rfl

/-- The first of the bytes of a character shows their number, and they are read as the
character. -/
structure Reads (c : Char) (b : UInt8) (more : List UInt8) : Prop where
  lead : ∃ low high, followers b = some (more.length, low, high)
  read : ∀ rest, readChar b (more ++ rest) = (.ok c, more.length)

theorem Reads.of_lead {c : Char} {n k : ℕ} {low high : UInt8} {more : List UInt8}
    (hlead : followers (UInt8.ofNat n) = some (k, low, high)) (hmore : more.length = k)
    (hread : ∀ rest, readFollowers (leadBits k (UInt8.ofNat n)) 0 low high k (more ++ rest) =
      (.ok c, k)) : Reads c (UInt8.ofNat n) more := by
  subst hmore
  refine ⟨⟨low, high, hlead⟩, fun rest => ?_⟩
  rw [readChar, hlead]
  exact hread rest

section

variable {c : Char} {v : ℕ}

theorem reads_one (hc : Char.ofNat v = c) (h : v < 0x80) : Reads c (UInt8.ofNat v) [] := by
  refine @Reads.of_lead c v 0 0 0 [] ?_ rfl fun rest => ?_
  · rw [followers_ofNat _ (by omega), if_pos h]
  · rw [readFollowers, leadBits, toNat_ofNat_byte (by omega), hc]

theorem reads_two (hc : Char.ofNat v = c) (h : 0x80 ≤ v) (h' : v < 0x800) :
    Reads c (UInt8.ofNat (v / 64 % 32 + 0xC0)) [continuation v] := by
  refine @Reads.of_lead c _ 1 0x80 0xBF _ ?_ rfl fun rest => ?_
  · rw [followers_ofNat _ (by omega), if_neg (by omega), if_neg (by omega), if_pos (by omega)]
  · have hlow : (0x80 : UInt8).toNat ≤ v % 64 + 128 := by
      show 128 ≤ _
      omega
    have hhigh : v % 64 + 128 ≤ (0xBF : UInt8).toNat := by
      show _ ≤ 191
      omega
    have hbits : (v / 64 % 32 + 0xC0) % 32 * 64 + v % 64 = v := by omega
    rw [List.singleton_append, readFollowers_continuation hlow hhigh, readFollowers, leadBits,
      toNat_ofNat_byte (by omega), hbits, hc]

/-- The bytes after the first two have bits only. -/
theorem continuation_bounds (w : ℕ) :
    (0x80 : UInt8).toNat ≤ w % 64 + 128 ∧ w % 64 + 128 ≤ (0xBF : UInt8).toNat := by
  show 128 ≤ _ ∧ _ ≤ 191
  omega

theorem reads_three (hc : Char.ofNat v = c) (h : 0x800 ≤ v) (h' : v < 0x10000)
    (hvalid : v < 0xD800 ∨ 0xDFFF < v) :
    Reads c (UInt8.ofNat (v / 4096 % 16 + 0xE0)) [continuation (v / 64), continuation v] := by
  obtain ⟨low, high, hlead, hlow, hhigh⟩ : ∃ low high : UInt8,
      followers (UInt8.ofNat (v / 4096 % 16 + 0xE0)) = some (2, low, high) ∧
        low.toNat ≤ v / 64 % 64 + 128 ∧ v / 64 % 64 + 128 ≤ high.toNat := by
    have hbounds := continuation_bounds (v / 64)
    rw [followers_ofNat _ (by omega), if_neg (by omega), if_neg (by omega), if_neg (by omega)]
    split_ifs with hfirst hlast
    · refine ⟨0xA0, 0xBF, rfl, ?_, hbounds.2⟩
      show 160 ≤ _
      omega
    · refine ⟨0x80, 0x9F, rfl, hbounds.1, ?_⟩
      show _ ≤ 159
      omega
    · exact ⟨0x80, 0xBF, rfl, hbounds⟩
    all_goals omega
  have hlast := continuation_bounds v
  refine Reads.of_lead hlead rfl fun rest => ?_
  have hbits : ((v / 4096 % 16 + 0xE0) % 16 * 64 + v / 64 % 64) * 64 + v % 64 = v := by omega
  rw [List.cons_append, List.singleton_append, readFollowers_continuation hlow hhigh,
    readFollowers_continuation hlast.1 hlast.2, readFollowers, leadBits,
    toNat_ofNat_byte (by omega), hbits, hc]

theorem reads_four (hc : Char.ofNat v = c) (h : 0x10000 ≤ v) (h' : v < 0x110000) :
    Reads c (UInt8.ofNat (v / 262144 % 8 + 0xF0))
      [continuation (v / 4096), continuation (v / 64), continuation v] := by
  obtain ⟨low, high, hlead, hlow, hhigh⟩ : ∃ low high : UInt8,
      followers (UInt8.ofNat (v / 262144 % 8 + 0xF0)) = some (3, low, high) ∧
        low.toNat ≤ v / 4096 % 64 + 128 ∧ v / 4096 % 64 + 128 ≤ high.toNat := by
    have hbounds := continuation_bounds (v / 4096)
    rw [followers_ofNat _ (by omega), if_neg (by omega), if_neg (by omega), if_neg (by omega),
      if_neg (by omega), if_neg (by omega), if_neg (by omega)]
    split_ifs with hfirst hlast
    · refine ⟨0x90, 0xBF, rfl, ?_, hbounds.2⟩
      show 144 ≤ _
      omega
    · refine ⟨0x80, 0x8F, rfl, hbounds.1, ?_⟩
      show _ ≤ 143
      omega
    · exact ⟨0x80, 0xBF, rfl, hbounds⟩
    all_goals omega
  have hmiddle := continuation_bounds (v / 64)
  have hlast := continuation_bounds v
  refine Reads.of_lead hlead rfl fun rest => ?_
  have hbits : (((v / 262144 % 8 + 0xF0) % 8 * 64 + v / 4096 % 64) * 64 + v / 64 % 64) * 64 +
      v % 64 = v := by omega
  rw [List.cons_append, List.cons_append, List.singleton_append,
    readFollowers_continuation hlow hhigh, readFollowers_continuation hmiddle.1 hmiddle.2,
    readFollowers_continuation hlast.1 hlast.2, readFollowers, leadBits,
    toNat_ofNat_byte (by omega), hbits, hc]
  all_goals omega

end

/-- A character is read from its bytes, whatever follows them. -/
theorem exists_utf8EncodeChar (c : Char) :
    ∃ b more, String.utf8EncodeChar c = b :: more ∧ Reads c b more := by
  have hvalid := toNat_valid c
  have hc : Char.ofNat c.toNat = c := Char.ofNat_toNat c
  rw [utf8EncodeChar_eq]
  split_ifs with h1 h2 h3
  · exact ⟨_, _, rfl, reads_one hc (by omega)⟩
  · exact ⟨_, _, rfl, reads_two hc (by omega) (by omega)⟩
  · exact ⟨_, _, rfl, reads_three hc (by omega) (by omega) (by omega)⟩
  · exact ⟨_, _, rfl, reads_four hc (by omega) (by omega)⟩

/-! ## Texts -/

theorem decodeFrom_flatMap (text cs : List Char) :
    decodeFrom text (cs.flatMap String.utf8EncodeChar) = .ok (text.reverse ++ cs) := by
  induction cs generalizing text with
  | nil => rw [List.flatMap_nil, decodeFrom, List.append_nil]
  | cons c cs ih =>
    obtain ⟨b, more, hbytes, hreads⟩ := exists_utf8EncodeChar c
    rw [List.flatMap_cons, hbytes, List.cons_append, decodeFrom, hreads.read]
    simp only [List.drop_left]
    rw [ih]
    simp

/-- Decoding the bytes of a text gives it back. -/
theorem decode_encode (s : String) : decode (encode s) = .ok s.toList := by
  have hs := encode_ofList s.toList
  rw [String.ofList_toList] at hs
  rw [decode, hs, decodeFrom_flatMap]
  rfl

theorem decodeLossyFrom_flatMap (text cs : List Char) :
    decodeLossyFrom text (cs.flatMap String.utf8EncodeChar) = text.reverse ++ cs := by
  induction cs generalizing text with
  | nil => rw [List.flatMap_nil, decodeLossyFrom, List.append_nil]
  | cons c cs ih =>
    obtain ⟨b, more, hbytes, hreads⟩ := exists_utf8EncodeChar c
    rw [List.flatMap_cons, hbytes, List.cons_append, decodeLossyFrom, hreads.read]
    simp only [List.drop_left]
    rw [ih]
    simp

/-- Decoding with replacements gives a text back as well, because its bytes have no fault. -/
theorem decodeLossy_encode (s : String) : decodeLossy (encode s) = s.toList := by
  have hs := encode_ofList s.toList
  rw [String.ofList_toList] at hs
  rw [decodeLossy, hs, decodeLossyFrom_flatMap]
  rfl

/-! ## Decoded bytes -/

section

variable {b low high : UInt8} {n value taken : ℕ} {bytes rest : List UInt8} {cs text : List Char}
  {c : Char}

/-- The bytes that continue a character are not in ASCII. -/
theorem le_of_followers (h : followers b = some (n + 1, low, high)) : 0x80 ≤ low := by
  unfold followers at h
  repeat' split at h
  all_goals simp only [Option.some.injEq, Prod.mk.injEq, reduceCtorEq] at h
  case isTrue => exact h.1.elim
  all_goals exact h.2.1 ▸ (by decide)

/-- A character that is read has all of its bytes. -/
theorem le_length_of_readFollowers
    (h : readFollowers value taken low high n rest = (.ok c, k)) : n ≤ rest.length := by
  induction n generalizing value taken low high rest with
  | zero => exact Nat.zero_le _
  | succ n ih =>
    cases rest with
    | nil => cases h
    | cons b rest =>
      rw [readFollowers] at h
      split at h
      · exact Nat.succ_le_succ (ih h)
      · cases h

/-- What was read before stands before what is read. -/
theorem decodeFrom_append (text before : List Char) (bytes : List UInt8) :
    decodeFrom (text ++ before.reverse) bytes = (decodeFrom text bytes).map (before ++ ·) := by
  fun_induction decodeFrom text bytes with
  | case1 text => simp [decodeFrom, Except.map]
  | case2 text b rest c taken hread ih =>
    rw [decodeFrom, hread]
    exact ih
  | case3 text b rest fault taken hread =>
    rw [decodeFrom, hread]
    rfl

/-- A text is decoded character by character. -/
theorem decode_cons_eq_ok (h : decode (b :: rest) = .ok cs) :
    ∃ c taken cs', readChar b rest = (.ok c, taken) ∧ decode (rest.drop taken) = .ok cs' ∧
      cs = c :: cs' := by
  rw [decode, decodeFrom] at h
  split at h
  · rename_i c taken hread
    have happend := decodeFrom_append [] [c] (rest.drop taken)
    rw [List.nil_append, List.reverse_singleton, h, ← decode] at happend
    cases hrest : decode (rest.drop taken) with
    | error fault =>
      rw [hrest] at happend
      cases happend
    | ok cs' =>
      rw [hrest] at happend
      exact ⟨c, taken, cs', hread, hrest, Except.ok.inj happend⟩
  · cases h

/-- A text that does not start with a byte order mark has none that is dropped. -/
theorem dropByteOrderMark_of_decode (h : decode bytes = .ok cs)
    (hstart : cs.head? ≠ some '\uFEFF') : dropByteOrderMark bytes = bytes := by
  unfold dropByteOrderMark
  split
  · rename_i hbegin
    obtain ⟨tail, rfl⟩ := List.isPrefixOf_iff_prefix.1 hbegin
    obtain ⟨c, taken, cs', hread, -, rfl⟩ := decode_cons_eq_ok h
    cases (show readChar 0xEF (0xBB :: 0xBF :: tail) = (.ok '\uFEFF', 2) from rfl).symm.trans hread
    exact absurd rfl hstart
  · split
    · rename_i hshort
      rw [Bool.and_eq_true, decide_eq_true_eq] at hshort
      obtain ⟨hlength, hprefix⟩ := hshort
      -- The bytes at which a mark starts are cut short, so there is none of them.
      rcases bytes with - | ⟨a, - | ⟨b, - | ⟨c, rest⟩⟩⟩
      · rfl
      · obtain rfl : a = 0xEF := by simpa [byteOrderMark, List.isPrefixOf] using hprefix
        obtain ⟨c, taken, cs', hread, -⟩ := decode_cons_eq_ok h
        cases hread
      · obtain ⟨rfl, rfl⟩ : a = 0xEF ∧ b = 0xBB := by
          simpa [byteOrderMark, List.isPrefixOf] using hprefix
        obtain ⟨c, taken, cs', hread, -⟩ := decode_cons_eq_ok h
        cases hread
      · simp only [List.length_cons] at hlength
        omega
    · rfl

end

/-! ## Code points -/

theorem not_isSurrogate_toNat (c : Char) : isSurrogate c.toNat = false := by
  have hvalid := toNat_valid c
  simp only [isSurrogate, Bool.and_eq_false_iff, decide_eq_false_iff_not]
  omega

/-- A text has bytes, because no character of it is a surrogate. -/
theorem encodePoints_codePoints (s : String) : encodePoints (codePoints s) = .ok (encode s) := by
  have hcovers : ∀ n ∈ codePoints s, Charset.utf8.covers n = true := by
    intro n hn
    obtain ⟨c, -, rfl⟩ := List.mem_map.1 hn
    rw [Charset.covers, not_isSurrogate_toNat]
    rfl
  have hfault : encodeFault? .utf8 (codePoints s) = none := by
    rw [encodeFault?, List.dropWhile_eq_nil_iff.2 hcovers]
  have htext : (codePoints s).map Char.ofNat = s.toList := by
    rw [codePoints, List.map_map]
    exact (List.map_congr_left fun c _ => Char.ofNat_toNat c).trans (List.map_id _)
  simp only [encodePoints, hfault, htext, String.ofList_toList]

end SolutionScript.Text
