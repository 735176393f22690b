import SolutionScript.Proofs.Text.Over
import SolutionScript.Proofs.Text.Span
import SolutionScript.Solution.Condition

/-!
# Conditions as they are written

A condition compares the configuration, alone or with the platform, with a value in quotes. The
name in front of the platform is what it is found to compare with (`configuration?_comparison`).
Such a comparison may stand anywhere in a condition and have any blanks around its sign
(`Comparison`). A name is found where a comparison starts and nowhere else (`nameAt_eq_some`), and
the first comparison counts (`findName_eq_some`); so what comes before it does not matter unless it
has an apostrophe, and what comes after it does not matter at all (`configuration?_recognises`).
-/

namespace SolutionScript.Condition

open Text

/-- What stands in a comparison before the name, with the platform if there is one. -/
def comparisonStart : Option String → List Char
  | some _ => "'$(Configuration)|$(Platform)' == '".toList
  | none => "'$(Configuration)' == '".toList

/-- What stands in a comparison after the name. -/
def comparisonEnd : Option String → List Char
  | some platform => '|' :: (platform.toList ++ ['\''])
  | none => ['\'']

/-- The condition for a configuration, on a platform if there is one. -/
def comparison (platform? : Option String) (name : String) : String :=
  String.ofList (' ' :: (comparisonStart platform? ++
    (name.toList ++ (comparisonEnd platform? ++ [' ']))))

/-! ## Values in quotes -/

/-- The name in a value, behind the first of its quotes. -/
def nameIn (cs : List Char) : Option (List Char) :=
  if !(cs.takeWhile isNameChar).isEmpty && endsValue (cs.dropWhile isNameChar) then
    some (cs.takeWhile isNameChar) else none

theorem stopsAt_of_endsValue {cs : List Char} (h : endsValue cs = true) :
    StopsAt isNameChar cs := by
  rw [endsValue.eq_def] at h
  split at h
  · exact stopsAt_cons.2 (by decide)
  · exact stopsAt_cons.2 (by decide)
  · cases h

theorem nameIn_eq_some {cs name : List Char} :
    nameIn cs = some name ↔ name ≠ [] ∧ (∀ c ∈ name, isNameChar c = true) ∧
      ∃ rest, cs = name ++ rest ∧ endsValue rest = true := by
  constructor
  · intro h
    obtain ⟨hvalue, ⟨⟩⟩ := Option.ite_none_right_eq_some.1 h
    rw [Bool.and_eq_true, Bool.not_eq_true', List.isEmpty_eq_false_iff] at hvalue
    exact ⟨hvalue.1, fun c => List.mem_takeWhile_imp, _, List.takeWhile_append_dropWhile.symm,
      hvalue.2⟩
  · rintro ⟨hne, hchars, rest, rfl, hend⟩
    have hstops := stopsAt_of_endsValue hend
    rw [nameIn, takeWhile_run hchars hstops, dropWhile_run hchars hstops, hend]
    simp [hne]

theorem nameAt_comparisonStart (platform? : Option String) (cs : List Char) :
    nameAt (comparisonStart platform? ++ cs) = nameIn cs := by
  cases platform? <;> rfl

theorem endsValue_comparisonEnd (platform? : Option String) (rest : List Char) :
    endsValue (comparisonEnd platform? ++ rest) = true := by
  cases platform? with
  | some platform =>
    show List.contains (platform.toList ++ ['\''] ++ rest) '\'' = true
    simp
  | none => rfl

theorem findName_blank (cs : List Char) : findName (' ' :: cs) = findName cs := rfl

theorem findName_of_nameAt {cs name : List Char} (h : nameAt cs = some name) :
    findName cs = some name := by
  cases cs with
  | nil => cases h
  | cons c cs => rw [findName, h]

/-- A comparison is one with the name that it was written for. -/
theorem configuration?_comparison (platform? : Option String) {name : String} (hne : name ≠ "")
    (hchars : ∀ c ∈ name.toList, isNameChar c = true) (htrim : trim name = name) :
    configuration? (comparison platform? name) = some name := by
  have hname : nameAt (comparisonStart platform? ++
      (name.toList ++ (comparisonEnd platform? ++ [' ']))) = some name.toList := by
    rw [nameAt_comparisonStart, nameIn_eq_some]
    exact ⟨by simpa using hne, hchars, _, rfl, endsValue_comparisonEnd platform? [' ']⟩
  rw [configuration?, comparison, String.toList_ofList, findName_blank, findName_of_nameAt hname]
  exact congrArg some htrim

/-! ## Comparisons anywhere in a condition -/

/-- A comparison of the configuration with a value in quotes. -/
structure Comparison where
  /-- Whether the platform is compared as well. -/
  withPlatform : Bool
  left : String
  right : String
  name : String
  /-- What the value has after a bar. -/
  platform? : Option String
  left_blank : Over (isBlank · = true) left
  right_blank : Over (isBlank · = true) right
  name_ne_empty : name ≠ ""
  name_chars : Over (isNameChar · = true) name
  platform_chars : ∀ platform ∈ platform?, Over (· ≠ '\'') platform

/-- What stands in quotes on the left of a comparison. -/
def subject (withPlatform : Bool) : String :=
  if withPlatform then "'$(Configuration)|$(Platform)'" else "'$(Configuration)'"

/-- The comparison as it is written. -/
def Comparison.text (k : Comparison) : String :=
  subject k.withPlatform ++ k.left ++ "==" ++ k.right ++ "'" ++ k.name ++
    String.ofList (comparisonEnd k.platform?)

theorem afterWord_eq_some {word cs rest : List Char} :
    afterWord word cs = some rest ↔ cs = word ++ rest := by
  rw [afterWord]
  split
  · rename_i h
    obtain ⟨more, rfl⟩ := List.isPrefixOf_iff_prefix.1 h
    simp
  · rename_i h
    refine iff_of_false (by simp) ?_
    rintro rfl
    exact h (List.isPrefixOf_iff_prefix.2 (List.prefix_append _ _))

theorem afterOptional_eq {word cs rest : List Char} (h : afterOptional word cs = rest) :
    cs = word ++ rest ∨ cs = rest := by
  rw [afterOptional] at h
  cases hword : afterWord word cs with
  | none =>
    rw [hword, Option.getD_none] at h
    exact .inr h
  | some more =>
    rw [hword, Option.getD_some] at h
    exact .inl (h ▸ afterWord_eq_some.1 hword)

theorem endsValue_iff {cs : List Char} :
    endsValue cs = true ↔ ∃ platform?, (∀ platform ∈ platform?, Over (· ≠ '\'') platform) ∧
      comparisonEnd platform? <+: cs := by
  constructor
  · intro h
    rw [endsValue.eq_def] at h
    split at h
    · exact ⟨none, by simp, List.prefix_append ['\''] _⟩
    · rename_i rest
      obtain ⟨platform, more, rfl, hplatform⟩ :=
        List.eq_append_cons_of_mem (List.contains_iff_mem.1 h)
      refine ⟨some (String.ofList platform), ?_, more, by simp [comparisonEnd]⟩
      rintro _ ⟨⟩
      exact over_ofList.2 fun c hc heq => hplatform (heq ▸ hc)
    · cases h
  · rintro ⟨platform?, -, rest, rfl⟩
    exact endsValue_comparisonEnd platform? rest

theorem nameAt_subject (withPlatform : Bool) (cs : List Char) :
    nameAt ((subject withPlatform).toList ++ cs) = (do
      let rest ← afterWord ['=', '='] (cs.dropWhile isBlank)
      let rest ← afterWord ['\''] (rest.dropWhile isBlank)
      nameIn rest) := by
  cases withPlatform <;> rfl

theorem Comparison.toList_text (k : Comparison) :
    k.text.toList = (subject k.withPlatform).toList ++ (k.left.toList ++ (['=', '='] ++
      (k.right.toList ++ (['\''] ++ (k.name.toList ++ comparisonEnd k.platform?))))) := by
  simp [Comparison.text]

/-- A name is found at the start of a text if and only if a comparison with it stands there. -/
theorem nameAt_eq_some {cs name : List Char} :
    nameAt cs = some name ↔ ∃ k : Comparison, k.name.toList = name ∧ k.text.toList <+: cs := by
  constructor
  · intro h
    simp only [nameAt, Option.bind_eq_bind, Option.bind_eq_some_iff, afterWord_eq_some] at h
    obtain ⟨afterConfiguration, rfl, afterSubject, hsubject, afterSign, hsign, value, hvalue, h⟩ :=
      h
    obtain ⟨hne, hchars, rest, rfl, hend⟩ := nameIn_eq_some.1 h
    obtain ⟨platform?, hplatform, more, rfl⟩ := endsValue_iff.1 hend
    obtain ⟨withPlatform, hstart⟩ : ∃ withPlatform, "'$(Configuration)".toList ++
        afterConfiguration = (subject withPlatform).toList ++ afterSubject := by
      rcases afterOptional_eq hsubject with rfl | rfl
      · exact ⟨true, by simp [subject]⟩
      · exact ⟨false, by simp [subject]⟩
    let k : Comparison := {
      withPlatform
      left := String.ofList (afterSubject.takeWhile isBlank)
      right := String.ofList (afterSign.takeWhile isBlank)
      name := String.ofList name
      platform?
      left_blank := over_ofList.2 fun c => List.mem_takeWhile_imp
      right_blank := over_ofList.2 fun c => List.mem_takeWhile_imp
      name_ne_empty := fun h => hne (String.ofList_eq_empty_iff.1 h)
      name_chars := over_ofList.2 hchars
      platform_chars := hplatform }
    refine ⟨k, String.toList_ofList, more, ?_⟩
    rw [k.toList_text]
    simp only [k, String.toList_ofList, List.append_assoc]
    rw [← hvalue, List.takeWhile_append_dropWhile, ← hsign, List.takeWhile_append_dropWhile, hstart]
  · rintro ⟨k, rfl, rest, rfl⟩
    have hsign (cs : List Char) : (k.left.toList ++ (['=', '='] ++ cs)).dropWhile isBlank =
        ['=', '='] ++ cs := dropWhile_run k.left_blank (stopsAt_cons.2 (by decide))
    have hquote (cs : List Char) : (k.right.toList ++ (['\''] ++ cs)).dropWhile isBlank =
        ['\''] ++ cs := dropWhile_run k.right_blank (stopsAt_cons.2 (by decide))
    rw [k.toList_text]
    simp only [List.append_assoc]
    rw [nameAt_subject, hsign, afterWord_eq_some.2 rfl, Option.bind_eq_bind, Option.bind_some,
      hquote, afterWord_eq_some.2 rfl, Option.bind_some, nameIn_eq_some]
    exact ⟨by simpa using k.name_ne_empty, k.name_chars, _, rfl,
      endsValue_iff.2 ⟨k.platform?, k.platform_chars, List.prefix_append _ _⟩⟩

/-- The first place counts at which there is a name. -/
theorem findName_eq_some {cs name : List Char} :
    findName cs = some name ↔ ∃ before rest, cs = before ++ rest ∧ nameAt rest = some name ∧
      ∀ start, start ≠ [] → start <:+ before → nameAt (start ++ rest) = none := by
  induction cs with
  | nil =>
    refine iff_of_false (by simp [findName]) ?_
    rintro ⟨before, rest, hcs, hname, -⟩
    rw [(List.append_eq_nil_iff.1 hcs.symm).2] at hname
    cases hname
  | cons c cs ih =>
    rw [findName]
    cases hfirst : nameAt (c :: cs) with
    | some found =>
      constructor
      · rintro ⟨⟩
        refine ⟨[], c :: cs, rfl, hfirst, fun start hne hstart => ?_⟩
        exact absurd (List.suffix_nil.1 hstart) hne
      · rintro ⟨before, rest, hcs, hname, hbefore⟩
        cases before with
        | nil =>
          rw [hcs, List.nil_append] at hfirst
          exact hfirst.symm.trans hname
        | cons d before =>
          have hnone := hbefore (d :: before) (by simp) List.suffix_rfl
          rw [← hcs, hfirst] at hnone
          cases hnone
    | none =>
      rw [ih]
      constructor
      · rintro ⟨before, rest, rfl, hname, hbefore⟩
        refine ⟨c :: before, rest, rfl, hname, fun start hne hstart => ?_⟩
        rcases List.suffix_cons_iff.1 hstart with rfl | hstart
        · exact hfirst
        · exact hbefore start hne hstart
      · rintro ⟨before, rest, hcs, hname, hbefore⟩
        cases before with
        | nil =>
          rw [hcs, List.nil_append, hname] at hfirst
          cases hfirst
        | cons d before =>
          obtain ⟨rfl, rfl⟩ := List.cons.inj hcs
          exact ⟨before, rest, rfl, hname, fun start hne hstart =>
            hbefore start hne (hstart.trans (List.suffix_cons c before))⟩

/-- A comparison starts with an apostrophe. -/
theorem Comparison.quote_mem {k : Comparison} {start rest : List Char} (hne : start ≠ [])
    (h : k.text.toList <+: start ++ rest) : '\'' ∈ start := by
  obtain ⟨c, start, rfl⟩ := List.exists_cons_of_ne_nil hne
  obtain ⟨more, hmore⟩ := h
  have hhead : k.text.toList.head? = some '\'' := by
    rw [k.toList_text, subject]
    cases k.withPlatform <;> rfl
  obtain ⟨rest', hrest'⟩ : ∃ rest', k.text.toList = '\'' :: rest' :=
    List.head?_eq_some_iff.1 hhead
  rw [hrest', List.cons_append, List.cons_append] at hmore
  exact (List.cons.inj hmore).1 ▸ List.mem_cons_self

/-- The configuration that a condition compares with. It is found in the first comparison, with or
without a platform, whatever blanks stand around the sign, whatever follows the comparison, and
whatever comes before it without an apostrophe. What is found in a condition, whatever it is, has
neither an apostrophe nor a bar and is trimmed. -/
theorem configuration?_recognises :
    (∀ (k : Comparison) (before after : String), Over (· ≠ '\'') before →
      configuration? (before ++ k.text ++ after) = some (trim k.name)) ∧
    ∀ condition name, configuration? condition = some name →
      '\'' ∉ name.toList ∧ '|' ∉ name.toList ∧ Trimmed name.toList := by
  constructor
  · intro k before after hbefore
    have hfind : findName (before ++ k.text ++ after).toList = some k.name.toList := by
      rw [findName_eq_some, String.toList_append, String.toList_append]
      refine ⟨before.toList, _, List.append_assoc _ _ _, ?_, fun start hne hstart => ?_⟩
      · exact nameAt_eq_some.2 ⟨k, rfl, List.prefix_append _ _⟩
      · rw [Option.eq_none_iff_forall_ne_some]
        intro name hname
        obtain ⟨other, -, hother⟩ := nameAt_eq_some.1 hname
        exact hbefore _ (hstart.subset (other.quote_mem hne hother)) rfl
    rw [configuration?, hfind, Option.map_some, trim]
  · intro condition name h
    obtain ⟨raw, hraw, rfl⟩ := Option.map_eq_some_iff.1 h
    obtain ⟨-, rest, -, hname, -⟩ := findName_eq_some.1 hraw
    obtain ⟨k, rfl, -⟩ := nameAt_eq_some.1 hname
    rw [String.toList_ofList]
    refine ⟨fun hmem => ?_, fun hmem => ?_, trimmed_trimList _⟩
    · exact absurd (k.name_chars _ (stripList_subset isBlank _ hmem)) (by decide)
    · exact absurd (k.name_chars _ (stripList_subset isBlank _ hmem)) (by decide)

/-- A comparison with blanks in its name and around its sign. -/
def debugging : Comparison where
  withPlatform := true
  left := ""
  right := " \t"
  name := " Debug "
  platform? := some "Any CPU"
  left_blank := by decide
  right_blank := by decide
  name_ne_empty := by decide
  name_chars := by decide
  platform_chars := by decide

theorem configuration?_recognises_debugging :
    configuration? (" !" ++ debugging.text ++ " Or '$(Configuration)' == 'Release'") =
      some (trim " Debug ") ∧
    '\'' ∉ (trim " Debug ").toList ∧ '|' ∉ (trim " Debug ").toList ∧
      Trimmed (trim " Debug ").toList :=
  have hfound := configuration?_recognises.1 debugging " !"
    " Or '$(Configuration)' == 'Release'" (by decide)
  ⟨hfound, configuration?_recognises.2 _ _ hfound⟩

end SolutionScript.Condition
