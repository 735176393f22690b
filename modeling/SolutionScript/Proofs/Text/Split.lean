import Mathlib.Data.List.Basic
import SolutionScript.Text.Split

/-!
# Splitting what was joined

Splitting at a character what was joined with it gives the parts of the texts that were joined
(`splitAt_join`). These are the texts themselves if and only if none of them has the character
(`flatMap_splitAt_eq_self`). A character that was exchanged for another one is exchanged back with
all that were there before (`replaceList_back`).
-/

namespace SolutionScript.Text

variable {sep : Char}

/-- Both sides of a separator are split on their own. -/
theorem splitList_append (cs rest : List Char) :
    splitList sep (cs ++ sep :: rest) = splitList sep cs ++ splitList sep rest := by
  induction cs with
  | nil => simp [splitList]
  | cons c cs ih =>
    rw [List.cons_append, splitList, splitList, ih]
    split
    · rfl
    · obtain ⟨part, parts, hparts⟩ := List.exists_cons_of_ne_nil (splitList_ne_nil sep cs)
      rw [hparts]
      rfl

/-- Both sides of a text that is one separator are split on their own. -/
theorem splitAt_append {separator : String} (hsep : separator.toList = [sep]) (a b : String) :
    splitAt sep (a ++ separator ++ b) = splitAt sep a ++ splitAt sep b := by
  rw [splitAt, splitAt, splitAt, ← List.map_append, ← splitList_append, String.toList_append,
    String.toList_append, hsep, List.append_assoc, List.singleton_append]

theorem splitList_intercalate {parts : List (List Char)} (h : parts ≠ []) :
    splitList sep ([sep].intercalate parts) = parts.flatMap (splitList sep) := by
  induction parts with
  | nil => exact absurd rfl h
  | cons part parts ih =>
    cases parts with
    | nil => simp
    | cons next parts =>
      rw [List.intercalate_cons_cons, List.append_assoc, List.singleton_append, splitList_append,
        ih (List.cons_ne_nil next parts), ← List.flatMap_cons]

/-- What was joined with a character is split into the parts of what was joined. -/
theorem splitAt_join {separator : String} (hsep : separator.toList = [sep]) {parts : List String}
    (h : parts ≠ []) : splitAt sep (join separator parts) = parts.flatMap (splitAt sep) := by
  rw [splitAt, join, String.toList_intercalate, hsep, splitList_intercalate (by simpa using h),
    List.flatMap_map, List.map_flatMap]
  rfl

theorem splitList_of_not_mem {cs : List Char} (h : sep ∉ cs) : splitList sep cs = [cs] := by
  induction cs with
  | nil => rfl
  | cons c cs ih =>
    rw [List.mem_cons, not_or] at h
    rw [splitList, if_neg (Ne.symm h.1), ih h.2]

theorem not_mem_of_mem_splitList {cs part : List Char} (h : part ∈ splitList sep cs) :
    sep ∉ part := by
  induction cs generalizing part with
  | nil =>
    rw [splitList, List.mem_singleton] at h
    simp [h]
  | cons c cs ih =>
    obtain ⟨first, parts, hparts⟩ := List.exists_cons_of_ne_nil (splitList_ne_nil sep cs)
    have hrest : ∀ part ∈ first :: parts, sep ∉ part := fun part hpart => ih (hparts ▸ hpart)
    rw [splitList, hparts] at h
    split at h
    · rcases List.mem_cons.1 h with rfl | h
      · exact List.not_mem_nil
      · exact hrest part h
    · rename_i hc
      rcases List.mem_cons.1 h with rfl | h
      · rw [List.mem_cons, not_or]
        exact ⟨Ne.symm hc, hrest first List.mem_cons_self⟩
      · exact hrest part (List.mem_cons_of_mem first h)

theorem splitAt_of_not_mem {s : String} (h : sep ∉ s.toList) : splitAt sep s = [s] := by
  rw [splitAt, splitList_of_not_mem h, List.map_singleton, String.ofList_toList]

theorem not_mem_of_mem_splitAt {s part : String} (h : part ∈ splitAt sep s) :
    sep ∉ part.toList := by
  obtain ⟨cs, hcs, rfl⟩ := List.mem_map.1 h
  rw [String.toList_ofList]
  exact not_mem_of_mem_splitList hcs

/-- A word does not stand in a text without its first character. -/
theorem splitAtWord_of_not_mem {c : Char} {cs : List Char} (h : c ∉ cs) (word : List Char) :
    splitAtWord (c :: word) cs = none := by
  induction cs with
  | nil => rfl
  | cons b cs ih =>
    rw [List.mem_cons, not_or] at h
    simp [splitAtWord, ih h.2, List.isPrefixOf, h.1]

/-- Texts are their own parts if and only if none of them has the separator. -/
theorem flatMap_splitAt_eq_self {parts : List String} :
    parts.flatMap (splitAt sep) = parts ↔ ∀ s ∈ parts, sep ∉ s.toList := by
  constructor
  · intro h s hs
    rw [← h] at hs
    obtain ⟨t, -, hpart⟩ := List.mem_flatMap.1 hs
    exact not_mem_of_mem_splitAt hpart
  · intro h
    induction parts with
    | nil => rfl
    | cons s parts ih =>
      rw [List.forall_mem_cons] at h
      rw [List.flatMap_cons, splitAt_of_not_mem h.1, ih h.2, List.singleton_append]

/-! ## Exchanging characters -/

theorem replaceList_append (old new : Char) (first second : List Char) :
    replaceList old new (first ++ second) =
      replaceList old new first ++ replaceList old new second :=
  List.map_append

theorem replaceList_of_not_mem {old : Char} (new : Char) {cs : List Char} (h : old ∉ cs) :
    replaceList old new cs = cs := by
  have hkept : ∀ c ∈ cs, (if c = old then new else c) = c := fun c hc =>
    if_neg fun heq : c = old => h (heq ▸ hc)
  rw [replaceList, List.map_congr_left hkept, List.map_id']

/-- Exchanging a character back exchanges the others of its kind as well. -/
theorem replaceList_back (old new : Char) (cs : List Char) :
    replaceList new old (replaceList old new cs) = replaceList new old cs := by
  rw [replaceList, replaceList, replaceList, List.map_map]
  refine List.map_congr_left fun c _ => ?_
  by_cases hc : c = old <;> simp [hc]

end SolutionScript.Text
