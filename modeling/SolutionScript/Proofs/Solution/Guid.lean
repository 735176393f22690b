import SolutionScript.Proofs.Text.Over
import SolutionScript.Proofs.Text.Recase
import SolutionScript.Proofs.Text.Span
import SolutionScript.Solution.Guid

/-!
# Spellings of an identifier

An identifier can be spelled with small letters and capitals, with any number of braces and with
blanks around these (`Spells`). All of its spellings have one normal form, and no other identifier
has it (`normalize_spelling`). Normalising a normal form leaves it alone, whatever it was made of,
blanks inside of the braces included (`normalize_normalize`).
-/

namespace SolutionScript.Guid

open Text

/-- The same characters, but for the case of letters. -/
def SameLetters (s t : String) : Prop := s.toList.map Char.toLower = t.toList.map Char.toLower

instance (s t : String) : Decidable (SameLetters s t) :=
  inferInstanceAs (Decidable (s.toList.map Char.toLower = t.toList.map Char.toLower))

/-- What an identifier has inside of its braces. -/
structure IsCore (core : String) : Prop where
  ne_empty : core ≠ ""
  ascii : Over (·.toNat < 128) core
  first : ∀ c ∈ core.toList.head?, isBrace c = false ∧ isBlank c = false
  last : ∀ c ∈ core.toList.getLast?, isBrace c = false ∧ isBlank c = false

/-- A text spells an identifier: in any case, between any number of opening and of closing braces,
with blanks around all of this. -/
def Spells (core s : String) : Prop :=
  ∃ before written after opening closing,
    Over (isBlank · = true) before ∧ Over (isBlank · = true) after ∧ SameLetters written core ∧
      s = before ++ (String.ofList (List.replicate opening '\x7b') ++ written ++
        String.ofList (List.replicate closing '\x7d')) ++ after

/-! ## Letters -/

theorem ascii_induction {P : Char → Prop} (h : ∀ n < 128, P (Char.ofNat n)) {c : Char}
    (hc : c.toNat < 128) : P c := by
  rw [← Char.ofNat_toNat c]
  exact h c.toNat hc

/-- The braces and the blanks are no letters. -/
theorem isBrace_toLower (c : Char) : isBrace c.toLower = isBrace c :=
  toLower_induction (P := fun c c' => isBrace c' = isBrace c) (by decide) (fun _ => rfl) c

theorem isBlank_toLower (c : Char) : isBlank c.toLower = isBlank c :=
  toLower_induction (P := fun c c' => isBlank c' = isBlank c) (by decide) (fun _ => rfl) c

theorem toUpper_toLower (c : Char) : c.toLower.toUpper = c.toUpper :=
  toLower_induction (P := fun c c' => c'.toUpper = c.toUpper) (by decide) (fun _ => rfl) c

theorem isBrace_toUpper {c : Char} (hc : c.toNat < 128) : isBrace c.toUpper = isBrace c :=
  ascii_induction (P := fun c => isBrace c.toUpper = isBrace c) (by decide) hc

theorem toUpper_ascii {c : Char} (hc : c.toNat < 128) :
    c.toUpper.toNat < 128 ∧ c.toUpper.toUpper = c.toUpper ∧ c.toUpper.toLower = c.toLower :=
  ascii_induction (P := fun c => c.toUpper.toNat < 128 ∧ c.toUpper.toUpper = c.toUpper ∧
    c.toUpper.toLower = c.toLower) (by decide) hc

theorem upperList_of_ascii {cs : List Char} (h : ∀ c ∈ cs, c.toNat < 128) :
    upperList cs = cs.map Char.toUpper := by
  rw [upperList, List.map_eq_flatMap]
  exact List.flatMap_congr fun c hc => if_pos (h c hc)

/-- ASCII texts have the same capitals if they have the same letters. -/
theorem map_toUpper_eq_iff {cs ds : List Char} (hcs : ∀ c ∈ cs, c.toNat < 128)
    (hds : ∀ d ∈ ds, d.toNat < 128) :
    cs.map Char.toUpper = ds.map Char.toUpper ↔ cs.map Char.toLower = ds.map Char.toLower := by
  have hupper (l : List Char) : (l.map Char.toLower).map Char.toUpper = l.map Char.toUpper := by
    rw [List.map_map]
    exact List.map_congr_left fun c _ => toUpper_toLower c
  have hlower {l : List Char} (hl : ∀ c ∈ l, c.toNat < 128) :
      (l.map Char.toUpper).map Char.toLower = l.map Char.toLower := by
    rw [List.map_map]
    exact List.map_congr_left fun c hc => (toUpper_ascii (hl c hc)).2.2
  constructor
  · intro h
    rw [← hlower hcs, h, hlower hds]
  · intro h
    rw [← hupper cs, h, hupper]

/-- Where a text starts is the same for a class that the case of letters does not matter to. -/
theorem stopsAt_of_map {p : Char → Bool} {f : Char → Char} {cs ds : List Char}
    (hp : ∀ c, p (f c) = p c) (h : cs.map f = ds.map f) (hds : StopsAt p ds) : StopsAt p cs := by
  intro c hc
  have hhead : (ds.map f).head? = some (f c) := by
    rw [← h, List.head?_map, Option.mem_def.1 hc, Option.map_some]
  rw [List.head?_map, Option.map_eq_some_iff] at hhead
  obtain ⟨d, hd, hdc⟩ := hhead
  rw [← hp c, ← hdc, hp d]
  exact hds d hd

/-! ## Normal forms -/

/-- What is inside of the braces comes out in capitals; blanks around the braces are lost. -/
theorem normalizeList_eq {before middle after core : List Char}
    (hbefore : ∀ c ∈ before, isBlank c = true) (hafter : ∀ c ∈ after, isBlank c = true)
    (hmiddle : Trimmed middle) (hcore : stripList isBrace middle = core)
    (hne : upperList core ≠ []) :
    normalizeList (before ++ middle ++ after) = '\x7b' :: upperList core ++ ['\x7d'] := by
  rw [normalizeList, trimList_eq hbefore hafter hmiddle, hcore]
  exact if_neg fun h => hne (List.isEmpty_iff.1 h)

/-- The case of one pair of braces and no blanks around it. -/
theorem normalizeList_braced {core : List Char} (hfirst : StopsAt isBrace core)
    (hlast : StopsAt isBrace core.reverse) (hne : upperList core ≠ []) :
    normalizeList ('\x7b' :: core ++ ['\x7d']) = '\x7b' :: upperList core ++ ['\x7d'] := by
  have htrimmed : Trimmed (['\x7b'] ++ core ++ ['\x7d']) :=
    (trimmed_singleton (by decide)).append_append (trimmed_singleton (by decide)) (by simp)
      (by simp) core
  have hstrip : stripList isBrace (['\x7b'] ++ core ++ ['\x7d']) = core :=
    stripList_eq (by decide) (by decide) hfirst hlast
  simpa using @normalizeList_eq [] _ [] _ (by simp) (by simp) htrimmed hstrip hne

theorem ascii_stripList {p : Char → Bool} {cs : List Char} (h : ∀ c ∈ cs, c.toNat < 128) :
    ∀ c ∈ stripList p cs, c.toNat < 128 :=
  fun c hc => h c (stripList_subset p cs hc)

/-- Capitals start with a brace only if the text does. -/
theorem stopsAt_map_toUpper {cs : List Char} (hascii : ∀ c ∈ cs, c.toNat < 128)
    (h : StopsAt isBrace cs) : StopsAt isBrace (cs.map Char.toUpper) := by
  intro c hc
  rw [List.head?_map, Option.mem_def, Option.map_eq_some_iff] at hc
  obtain ⟨d, hd, rfl⟩ := hc
  rw [isBrace_toUpper (hascii d (List.mem_of_mem_head? hd))]
  exact h d hd

theorem upperList_upperList {cs : List Char} (h : ∀ c ∈ cs, c.toNat < 128) :
    upperList (upperList cs) = upperList cs := by
  have hmap : ∀ c ∈ cs.map Char.toUpper, c.toNat < 128 :=
    List.forall_mem_map.2 fun c hc => (toUpper_ascii (h c hc)).1
  rw [upperList_of_ascii h, upperList_of_ascii hmap, List.map_map]
  exact List.map_congr_left fun c hc => (toUpper_ascii (h c hc)).2.1

theorem normalizeList_normalizeList {cs : List Char} (h : ∀ c ∈ cs, c.toNat < 128) :
    normalizeList (normalizeList cs) = normalizeList cs := by
  obtain ⟨hfirst, hlast⟩ := stopsAt_stripList isBrace (trimList cs)
  have hcore : ∀ c ∈ stripList isBrace (trimList cs), c.toNat < 128 :=
    ascii_stripList (ascii_stripList h)
  have hform : normalizeList cs = if (upperList (stripList isBrace (trimList cs))).isEmpty then []
      else '\x7b' :: upperList (stripList isBrace (trimList cs)) ++ ['\x7d'] := rfl
  rw [hform]
  generalize stripList isBrace (trimList cs) = core at hfirst hlast hcore
  split
  · rfl
  · rename_i hne
    have hupper := upperList_of_ascii hcore
    have hagain := upperList_upperList hcore
    have hstop : StopsAt isBrace (upperList core) := by
      rw [hupper]
      exact stopsAt_map_toUpper hcore hfirst
    have hstop' : StopsAt isBrace (upperList core).reverse := by
      rw [hupper, ← List.map_reverse]
      exact stopsAt_map_toUpper (fun c hc => hcore c (List.mem_reverse.1 hc)) hlast
    rw [normalizeList_braced hstop hstop' (by rwa [hagain, ne_eq, ← List.isEmpty_iff]), hagain]

/-- A normal form is its own normal form. -/
theorem normalize_normalize {s : String} (h : Over (·.toNat < 128) s) :
    normalize (normalize s) = normalize s := by
  rw [normalize, normalize, String.toList_ofList, normalizeList_normalizeList h]

/-! ## Spellings -/

/-- A text in another case neither starts nor ends with a character of a class that the case of
letters does not matter to, if the text does not. -/
theorem SameLetters.stopsAt {p : Char → Bool} (hp : ∀ c, p c.toLower = p c) {s t : String}
    (h : SameLetters s t) (ht : StopsAt p t.toList ∧ StopsAt p t.toList.reverse) :
    StopsAt p s.toList ∧ StopsAt p s.toList.reverse := by
  refine ⟨stopsAt_of_map hp h ht.1, stopsAt_of_map hp ?_ ht.2⟩
  rw [List.map_reverse, List.map_reverse, h]

section

variable {core s : String} (hcore : IsCore core)
include hcore

theorem IsCore.stopsAt_isBrace :
    StopsAt isBrace core.toList ∧ StopsAt isBrace core.toList.reverse := by
  refine ⟨fun c hc => (hcore.first c hc).1, fun c hc => (hcore.last c ?_).1⟩
  rwa [List.head?_reverse] at hc

theorem IsCore.stopsAt_isBlank :
    StopsAt isBlank core.toList ∧ StopsAt isBlank core.toList.reverse := by
  refine ⟨fun c hc => (hcore.first c hc).2, fun c hc => (hcore.last c ?_).2⟩
  rwa [List.head?_reverse] at hc

theorem trimmed_spelled {written : String} (h : SameLetters written core) (opening closing : ℕ) :
    Trimmed (List.replicate opening '\x7b' ++ written.toList ++
      List.replicate closing '\x7d') := by
  obtain ⟨hfirst, hlast⟩ := h.stopsAt isBlank_toLower hcore.stopsAt_isBlank
  have hrun {c : Char} (hc : isBlank c = false) (n : ℕ) : StopsAt isBlank (List.replicate n c) := by
    intro d hd
    rw [List.eq_of_mem_replicate (List.mem_of_mem_head? hd)]
    exact hc
  have hopening := hrun (by decide : isBlank '\x7b' = false) opening
  have hclosing := hrun (by decide : isBlank '\x7d' = false) closing
  constructor
  · exact (hopening.append hfirst).append hclosing
  · rw [List.reverse_append, List.reverse_append, List.reverse_replicate, List.reverse_replicate]
    exact hclosing.append (hlast.append hopening)

/-- Every spelling of an identifier is normalised to its core, in capitals and between braces. -/
theorem normalize_of_spells (h : Spells core s) :
    normalize s = "\x7b" ++ core.toUpper ++ "\x7d" := by
  obtain ⟨before, written, after, opening, closing, hbefore, hafter, hwritten, rfl⟩ := h
  obtain ⟨hfirst, hlast⟩ := hwritten.stopsAt isBrace_toLower hcore.stopsAt_isBrace
  have hbraces {c : Char} (hc : isBrace c = true) (n : ℕ) :
      ∀ d ∈ List.replicate n c, isBrace d = true := fun d hd => List.eq_of_mem_replicate hd ▸ hc
  have hstrip : stripList isBrace (List.replicate opening '\x7b' ++ written.toList ++
      List.replicate closing '\x7d') = written.toList :=
    stripList_eq (hbraces (by decide) opening) (hbraces (by decide) closing) hfirst hlast
  have hupper : upperList written.toList = core.toList.map Char.toUpper := by
    rw [← upperList_toLower, hwritten, upperList_toLower, upperList_of_ascii hcore.ascii]
  have hne : upperList written.toList ≠ [] := by
    rw [hupper, ne_eq, List.map_eq_nil_iff, String.toList_eq_nil_iff]
    exact hcore.ne_empty
  have hnormal := normalizeList_eq hbefore hafter (trimmed_spelled hcore hwritten opening closing)
    hstrip hne
  rw [normalize, ← String.toList_inj]
  simp only [String.toList_append, String.toList_ofList, hnormal, hupper]
  simp [String.toUpper]

end

/-- The normal form of an identifier. It is its own normal form. Every spelling of an identifier has
the normal form that is made of its core, in capitals and between braces; so two spellings have the
same normal form if and only if the cores differ in the case of letters at most. -/
theorem normalize_spelling :
    (∀ s, Over (·.toNat < 128) s → normalize (normalize s) = normalize s) ∧
    (∀ core s, IsCore core → Spells core s → normalize s = "\x7b" ++ core.toUpper ++ "\x7d") ∧
    ∀ core core' s s', IsCore core → IsCore core' → Spells core s → Spells core' s' →
      (normalize s = normalize s' ↔ SameLetters core core') := by
  refine ⟨fun s => normalize_normalize, fun core s => normalize_of_spells, ?_⟩
  intro core core' s s' hcore hcore' h h'
  rw [normalize_of_spells hcore h, normalize_of_spells hcore' h', SameLetters,
    ← map_toUpper_eq_iff hcore.ascii hcore'.ascii, ← String.toList_inj]
  simp [String.toUpper]

theorem normalize_spelling_mixed :
    Over (·.toNat < 128) "\x7b x" ∧ IsCore "AB-1" ∧ IsCore "ab-1" ∧
      Spells "AB-1" " \t\x7bab-1\x7d\x7d\n" ∧ Spells "ab-1" "aB-1" ∧
      normalize (normalize "\x7b x") = normalize "\x7b x" ∧
      normalize " \t\x7bab-1\x7d\x7d\n" = "\x7b" ++ "AB-1".toUpper ++ "\x7d" ∧
      normalize " \t\x7bab-1\x7d\x7d\n" = normalize "aB-1" := by
  obtain ⟨hagain, hspelled, hsame⟩ := normalize_spelling
  have hascii : Over (·.toNat < 128) "\x7b x" := by decide
  have hcapital : IsCore "AB-1" := ⟨by decide, by decide, by decide, by decide⟩
  have hsmall : IsCore "ab-1" := ⟨by decide, by decide, by decide, by decide⟩
  have hbraced : Spells "AB-1" " \t\x7bab-1\x7d\x7d\n" :=
    ⟨" \t", "ab-1", "\n", 1, 2, by decide, by decide, by decide, by decide⟩
  have hbare : Spells "ab-1" "aB-1" :=
    ⟨"", "aB-1", "", 0, 0, by decide, by decide, by decide, by decide⟩
  exact ⟨hascii, hcapital, hsmall, hbraced, hbare, hagain _ hascii, hspelled _ _ hcapital hbraced,
    (hsame _ _ _ _ hcapital hsmall hbraced hbare).2 (by decide)⟩

end SolutionScript.Guid
