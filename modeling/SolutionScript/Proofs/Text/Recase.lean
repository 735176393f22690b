import Mathlib.Data.List.Basic
import SolutionScript.Proofs.Text.Split
import SolutionScript.Text.Case

/-!
# The case of ASCII letters

Making the ASCII letters of a text small changes neither its lower-case form (`lowerList_toLower`)
nor its upper-case form (`upperList_toLower`), although whether a sigma ends a word depends on the
letters around it. It also leaves alone where a text is split at a character that is no letter
(`splitList_map`).
-/

namespace SolutionScript.Text

/-- What holds of the capitals of ASCII and their small forms, and of all characters as they are,
holds of a character and its small form. -/
theorem toLower_induction {P : Char → Char → Prop}
    (hcapital : ∀ n < 26, P (Char.ofNat (65 + n)) (Char.ofNat (97 + n))) (hself : ∀ c, P c c)
    (c : Char) : P c c.toLower := by
  by_cases h : c.val ≥ 'A'.val ∧ c.val ≤ 'Z'.val
  · have hle : 65 ≤ c.toNat := UInt32.le_iff_toNat_le.1 h.1
    have hge : c.toNat ≤ 90 := UInt32.le_iff_toNat_le.1 h.2
    have hsmall : ∀ n < 26, (Char.ofNat (65 + n)).toLower = Char.ofNat (97 + n) := by decide
    have hn : 65 + (c.toNat - 65) = c.toNat := by omega
    have hc := hcapital (c.toNat - 65) (by omega)
    rwa [← hsmall _ (by omega), hn, Char.ofNat_toNat] at hc
  · have hsame : c.toLower = c := dif_neg h
    rw [hsame]
    exact hself c

/-- No letter becomes one of the characters that paths and words are told apart by. -/
theorem toLower_eq_iff {m : Char} (h : m ∈ ['\\', '/', ':', '.', 'Σ']) (c : Char) :
    c.toLower = m ↔ c = m := by
  have hcapital : ∀ m ∈ ['\\', '/', ':', '.', 'Σ'], ∀ n < 26,
      (Char.ofNat (97 + n) = m ↔ Char.ofNat (65 + n) = m) := by
    decide
  exact toLower_induction (P := fun c c' => c' = m ↔ c = m) (hcapital m h) (fun _ => Iff.rfl) c

theorem lowerChar_toLower (c : Char) : lowerChar c.toLower = lowerChar c :=
  toLower_induction (P := fun c c' => lowerChar c' = lowerChar c) (by decide)
    (fun _ => rfl) c

theorem upperChar_toLower (c : Char) : upperChar c.toLower = upperChar c :=
  toLower_induction (P := fun c c' => upperChar c' = upperChar c) (by decide)
    (fun _ => rfl) c

/-- No ASCII letter is passed over when a cased character is looked for. -/
theorem inRanges_caseIgnorable_letter {n : ℕ} (h : 65 ≤ n ∧ n ≤ 90 ∨ 97 ≤ n ∧ n ≤ 122) :
    inRanges caseIgnorableRanges n = false := by
  have htable : ∀ r ∈ caseIgnorableRanges.toList, r.2 < 65 ∨ 90 < r.1 ∧ r.2 < 97 ∨ 122 < r.1 := by
    decide +kernel
  rw [inRanges, Array.any_eq_false']
  rintro ⟨first, last⟩ hr
  have hrange := htable _ (Array.mem_toList_iff.2 hr)
  simp only [Bool.and_eq_true, decide_eq_true_eq]
  omega

theorem inRanges_cased_letter {n : ℕ} (h : 65 ≤ n ∧ n ≤ 90 ∨ 97 ≤ n ∧ n ≤ 122) :
    inRanges casedRanges n = true := by
  have htable : ∀ r ∈ [(65, 90), (97, 122)], r ∈ casedRanges.toList := by decide
  rw [inRanges, Array.any_eq_true']
  rcases h with h | h
  · exact ⟨(65, 90), Array.mem_toList_iff.1 (htable _ (by simp)), by simpa using h⟩
  · exact ⟨(97, 122), Array.mem_toList_iff.1 (htable _ (by simp)), by simpa using h⟩

/-- Ranges in which all ASCII letters are, or none, have a letter if they have its small form. -/
theorem inRanges_toLower {ranges : Array (ℕ × ℕ)} {found : Bool}
    (h : ∀ n, 65 ≤ n ∧ n ≤ 90 ∨ 97 ≤ n ∧ n ≤ 122 → inRanges ranges n = found) (c : Char) :
    inRanges ranges c.toLower.toNat = inRanges ranges c.toNat := by
  refine toLower_induction (P := fun c c' => inRanges ranges c'.toNat = inRanges ranges c.toNat)
    (fun n hn => ?_) (fun _ => rfl) c
  have hletter : ∀ n < 26, (Char.ofNat (65 + n)).toNat = 65 + n ∧
      (Char.ofNat (97 + n)).toNat = 97 + n := by
    decide
  rw [(hletter n hn).1, (hletter n hn).2, h _ (by omega), h _ (by omega)]

theorem startsCased_map_toLower (cs : List Char) :
    startsCased (cs.map Char.toLower) = startsCased cs := by
  have hkept : (fun c : Char => !inRanges caseIgnorableRanges c.toNat) ∘ Char.toLower =
      fun c => !inRanges caseIgnorableRanges c.toNat := by
    funext c
    rw [Function.comp, inRanges_toLower fun _ => inRanges_caseIgnorable_letter]
  rw [startsCased, startsCased, List.find?_map, hkept]
  cases cs.find? fun c => !inRanges caseIgnorableRanges c.toNat with
  | none => rfl
  | some c =>
    simp only [Option.map_some]
    exact inRanges_toLower (fun _ => inRanges_cased_letter) c

/-- The induction is on what is still to be read; what was read changes with it. -/
theorem lowerFrom_map_toLower (before cs : List Char) :
    lowerFrom (before.map Char.toLower) (cs.map Char.toLower) = lowerFrom before cs := by
  induction cs generalizing before with
  | nil => rfl
  | cons c cs ih =>
    have hrest := ih (c :: before)
    rw [List.map_cons] at hrest
    rw [List.map_cons, lowerFrom, lowerFrom, hrest, startsCased_map_toLower,
      startsCased_map_toLower, lowerChar_toLower]
    simp only [toLower_eq_iff (m := 'Σ') (by decide)]

theorem lowerList_toLower (cs : List Char) : lowerList (cs.map Char.toLower) = lowerList cs :=
  lowerFrom_map_toLower [] cs

theorem upperList_toLower (cs : List Char) : upperList (cs.map Char.toLower) = upperList cs := by
  rw [upperList, upperList, List.flatMap_map]
  exact List.flatMap_congr fun c _ => upperChar_toLower c

theorem replaceList_toLower (cs : List Char) :
    replaceList '/' '\\' (cs.map Char.toLower) = (replaceList '/' '\\' cs).map Char.toLower := by
  rw [replaceList, replaceList, List.map_map, List.map_map]
  refine List.map_congr_left fun c _ => ?_
  simp only [Function.comp, toLower_eq_iff (m := '/') (by decide)]
  split <;> rfl

/-- A text is split at the same places if its characters are changed, but for the separator. -/
theorem splitList_map {sep : Char} {f : Char → Char} (hf : ∀ c, f c = sep ↔ c = sep)
    (cs : List Char) : splitList sep (cs.map f) = (splitList sep cs).map (List.map f) := by
  induction cs with
  | nil => rfl
  | cons c cs ih =>
    rw [List.map_cons, splitList, splitList, ih]
    simp only [hf]
    split
    · rfl
    · cases splitList sep cs <;> rfl

theorem joinList_map {sep : List Char} {f : Char → Char} (hf : sep.map f = sep)
    (parts : List (List Char)) : joinList sep (parts.map (List.map f)) =
      (joinList sep parts).map f := by
  induction parts with
  | nil => rfl
  | cons part parts ih =>
    cases parts with
    | nil => rfl
    | cons next parts =>
      rw [List.map_cons, List.map_cons, joinList, ← List.map_cons, ih, joinList, List.map_append,
        List.map_append, hf]

end SolutionScript.Text
