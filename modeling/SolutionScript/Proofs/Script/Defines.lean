import SolutionScript.Proofs.Script.NMake
import SolutionScript.Proofs.Script.Task
import SolutionScript.Proofs.Text.Span
import SolutionScript.Proofs.Text.Split

/-!
# Symbols

Both commas and semicolons divide symbols: two texts with one of them between define the symbols of
the first, and then those of the second (`symbolsOf_append`). What is listed are symbols
(`isSymbol_of_mem`), and a symbol lists itself alone. So the text that both scripts hand to the
compiler (`IsHandedOver`) lists the symbols that it was made of (`defines_account`), and the two
scripts define the same.
-/

namespace SolutionScript

open Text

namespace Configuration

/-- A text that is one symbol. -/
structure IsSymbol (s : String) : Prop where
  ne_empty : s ≠ ""
  trimmed : Trimmed s.toList
  no_comma : ',' ∉ s.toList
  no_semicolon : ';' ∉ s.toList

/-- What is handed to a compiler: the symbols with commas between them, if there are any. -/
def IsHandedOver (c : Configuration) (text : String) : Prop :=
  c.defines ≠ [] ∧ text = join "," c.defines

theorem defines_withConstants (c : Configuration) (text : String) :
    { c with defineConstants := text }.defines = symbolsOf text := rfl

/-! ## Listing symbols -/

theorem symbolsOf_append {separator : String} (h : separator = "," ∨ separator = ";")
    (a b : String) : symbolsOf (a ++ separator ++ b) = symbolsOf a ++ symbolsOf b := by
  have hsep : replaceList ',' ';' separator.toList = [';'] := by
    rcases h with rfl | rfl <;> decide
  have hreplace : replace ',' ';' (a ++ separator ++ b) =
      replace ',' ';' a ++ ";" ++ replace ',' ';' b := by
    rw [← String.toList_inj]
    simp [replace, replaceList_append, hsep]
  rw [symbolsOf, symbolsOf, symbolsOf, hreplace, splitAt_append (by decide), List.map_append,
    List.filter_append]

theorem isSymbol_of_mem {s t : String} (h : t ∈ symbolsOf s) : IsSymbol t := by
  obtain ⟨hmem, hne⟩ := List.mem_filter.1 h
  obtain ⟨part, hpart, rfl⟩ := List.mem_map.1 hmem
  have hcomma : Over (· ≠ ',') (replace ',' ';' s) := by
    rw [replace, over_ofList, replaceList, List.forall_mem_map]
    intro c _
    split <;> simp_all
  have hsemicolon : Over (· ≠ ';') part := fun c hc heq =>
    not_mem_of_mem_splitAt hpart (heq ▸ hc)
  exact {
    ne_empty := by simpa using hne
    trimmed := by simpa [trim] using trimmed_trimList part.toList
    no_comma := fun hc => (hcomma.splitAt ';' part hpart).trim _ hc rfl
    no_semicolon := fun hc => hsemicolon.trim _ hc rfl }

/-- A symbol lists itself alone. -/
theorem IsSymbol.symbolsOf_eq {s : String} (h : IsSymbol s) : symbolsOf s = [s] := by
  have hreplace : replace ',' ';' s = s := by
    rw [replace, replaceList_of_not_mem _ h.no_comma, String.ofList_toList]
  have htrim : trim s = s := by
    rw [trim, trimList_of_trimmed h.trimmed, String.ofList_toList]
  rw [symbolsOf, hreplace, splitAt_of_not_mem h.no_semicolon, List.map_singleton, htrim]
  simp [h.ne_empty]

/-- Texts with commas between them list what each of them does. -/
theorem symbolsOf_join (texts : List String) :
    symbolsOf (join "," texts) = texts.flatMap symbolsOf := by
  rw [join]
  induction texts with
  | nil => decide
  | cons s texts ih =>
    cases texts with
    | nil => simp
    | cons t texts =>
      rw [String.intercalate_cons_cons, symbolsOf_append (.inl rfl), ih, ← List.flatMap_cons]

theorem symbolsOf_join_symbols {symbols : List String} (h : ∀ s ∈ symbols, IsSymbol s) :
    symbolsOf (join "," symbols) = symbols := by
  rw [symbolsOf_join, List.flatMap_congr fun s hs => (h s hs).symbolsOf_eq, List.flatMap_singleton']

end Configuration

/-! ## Handing symbols over -/

namespace NMake

theorem define_not_mem_languageFlags {p : Project} {c : Configuration} {text : String} :
    "/define:" ++ text ∉ languageFlags p c := by
  rw [languageFlags]
  cases p.kind with
  | csharp =>
    simp only [List.mem_append, not_or]
    refine ⟨⟨?_, ?_⟩, ?_⟩
    · exact (option_not_mem_switch _ (by decide)).1
    · exact (option_not_mem_switch _ (by decide)).1
    · exact (option_not_mem_switch _ (by simp)).2
  | vb =>
    simp only [List.mem_append, not_or]
    exact ⟨(option_not_mem_switch _ (by simp)).2, (option_not_mem_switch _ (by simp)).2⟩

theorem define_mem_flags {needed : List Project} {p : Project} {c : Configuration}
    {text : String} : "/define:" ++ text ∈ flags needed p c ↔ c.IsHandedOver text := by
  have hfirst : "/define:" ++ text ∉ ["/nologo", "/target:" ++ p.compilerTarget, "/out:$@",
      if c.debugSymbols then "/debug+" else "/debug-"] := by
    refine option_not_mem ?_
    simp only [List.forall_mem_cons]
    exact ⟨by decide, by simp, by decide, by split <;> decide, by simp⟩
  have hreferences :
      "/define:" ++ text ∉ (referencePaths needed p).map fun path => "/r:" ++ quote path :=
    option_not_mem (List.forall_mem_map.2 fun _ _ => by simp)
  rw [flags, List.mem_append]
  -- The resources at the end are no symbols either.
  refine (or_iff_left (option_not_mem (List.forall_mem_map.2 fun _ _ => by simp))).trans ?_
  simp only [List.mem_append, hfirst, hreferences, define_not_mem_languageFlags, false_or, or_false]
  rw [Configuration.IsHandedOver]
  split <;> simp_all

end NMake

namespace NAnt

theorem define_attribute {p : Project} {c : Configuration} {text : String} :
    (compilerAttributes p c).get? "define" = some text ↔ c.IsHandedOver text := by
  have hlanguage : (languageAttributes p c).get? "define" = none := by
    rw [languageAttributes]
    cases p.kind <;> simp [Keyed.get?_append, get?_flag, get?_optional]
  rw [compilerAttributes, Keyed.get?_append, hlanguage, Option.or_none, Keyed.get?_append,
    get?_flag, Configuration.IsHandedOver]
  by_cases h : c.defines = []
  · simp [h, Keyed.get?]
  · simp [h, Keyed.get?, @eq_comm _ text]

end NAnt

namespace Configuration

/-- The symbols of a configuration. Each of them is one symbol; both commas and semicolons divide
what is defined; and the commas between the symbols give a text that defines the same symbols. This
text is what both scripts hand to the compiler, the one as an option and the other as an
attribute. -/
theorem defines_account (c : Configuration) :
    (∀ s ∈ c.defines, IsSymbol s) ∧
    (∀ a b separator, separator = "," ∨ separator = ";" →
      { c with defineConstants := a ++ separator ++ b }.defines =
        { c with defineConstants := a }.defines ++ { c with defineConstants := b }.defines) ∧
    { c with defineConstants := join "," c.defines }.defines = c.defines ∧
    ∀ needed p text,
      ("/define:" ++ text ∈ NMake.flags needed p c ↔ c.IsHandedOver text) ∧
      ((NAnt.compilerAttributes p c).get? "define" = some text ↔ c.IsHandedOver text) := by
  have hsymbols : ∀ s ∈ c.defines, IsSymbol s := fun s hs => isSymbol_of_mem hs
  refine ⟨hsymbols, fun a b separator hsep => ?_, ?_, fun needed p text => ⟨?_, ?_⟩⟩
  · simp only [defines_withConstants]
    exact symbolsOf_append hsep a b
  · rw [defines_withConstants]
    exact symbolsOf_join_symbols hsymbols
  · exact NMake.define_mem_flags
  · exact NAnt.define_attribute

/-- A configuration that defines three symbols. -/
def debugging : Configuration :=
  { name := "Debug", defineConstants := " DEBUG;,TRACE , LEVEL=2;" }

theorem defines_account_debugging :
    "TRACE" ∈ debugging.defines ∧ IsSymbol "TRACE" ∧
      { debugging with defineConstants := " DEBUG;" ++ "," ++ "TRACE , LEVEL=2;" }.defines =
        ["DEBUG"] ++ ["TRACE", "LEVEL=2"] ∧
      { debugging with defineConstants := "DEBUG,TRACE,LEVEL=2" }.defines = debugging.defines := by
  obtain ⟨hsymbols, happend, hjoin, -⟩ := defines_account debugging
  have hmem : "TRACE" ∈ debugging.defines := by decide
  have hparts : { debugging with defineConstants := " DEBUG;" }.defines = ["DEBUG"] ∧
      { debugging with defineConstants := "TRACE , LEVEL=2;" }.defines = ["TRACE", "LEVEL=2"] := by
    decide
  refine ⟨hmem, hsymbols _ hmem, ?_, ?_⟩
  · rw [happend _ _ "," (.inl rfl), hparts.1, hparts.2]
  · have htext : join "," debugging.defines = "DEBUG,TRACE,LEVEL=2" := by decide
    rw [← htext]
    exact hjoin

end Configuration

end SolutionScript
