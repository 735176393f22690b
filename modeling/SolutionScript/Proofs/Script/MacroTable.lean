import SolutionScript.Proofs.Script.Macros
import SolutionScript.Proofs.Text.Split

/-!
# The table of macros

Parameters with different names can be for one macro. Its place in the block is that of the first of
them, after the macros that every script has, and its value is that of the last one
(`mem_macros_iff`, `keys_macros`). So each macro is defined once, on a line of its own
(`macros_table`).
-/

namespace SolutionScript.NMake

open Text

variable {m : Parameters} {name value : String}

/-- The characters that the name of a macro is made of. -/
def IsMacroChar (c : Char) : Prop := ('A' ≤ c ∧ c ≤ 'Z') ∨ ('0' ≤ c ∧ c ≤ '9') ∨ c = '_'

instance (c : Char) : Decidable (IsMacroChar c) := inferInstanceAs (Decidable (_ ∨ _))

theorem isMacroChar_of_isUpper {c : Char} (h : c.isUpper = true) : IsMacroChar c :=
  .inl (of_decide_eq_true h)

theorem isMacroChar_of_isDigit {c : Char} (h : c.isDigit = true) : IsMacroChar c :=
  .inr (.inl ((Bool.and_eq_true_iff.1 h).imp of_decide_eq_true of_decide_eq_true))

theorem isMacroChar_macroChar (c : Char) : IsMacroChar (macroChar c) := by
  rw [macroChar]
  split
  · rename_i halnum
    exact (toUpper_of_isAlphanum halnum).elim isMacroChar_of_isUpper isMacroChar_of_isDigit
  · exact .inr (.inr rfl)

/-- Names of macros are made of such characters, whatever the parameters are. -/
theorem isMacroChar_of_mem_macros (h : name ∈ (macros m).keys) :
    ∀ c ∈ name.toList, IsMacroChar c := by
  obtain ⟨x, hx, rfl⟩ := List.mem_map.1 h
  rcases mem_macros hx with husual | ⟨y, -, rfl⟩
  · exact (by decide : ∀ x ∈ usualMacros, ∀ c ∈ x.1.toList, IsMacroChar c) x husual
  · intro c hc
    rw [macroName, String.toList_ofList, List.mem_map] at hc
    obtain ⟨d, -, rfl⟩ := hc
    exact isMacroChar_macroChar d

/-- The macros that every script has come first, then the others as their parameters come first. -/
theorem keys_macros (m : Parameters) : (macros m).keys =
    ["CSC", "VBC", "RESGEN", "BUILD_BASEDIR"] ++
      ((m.map (macroName ·.1)).filter (· ∉ usualMacros.keys)).eraseDups := by
  rw [macros_eq]
  exact Keyed.keys_foldl_put m usualMacros

/-- The value of a macro is that of the last parameter for it, or else the usual one. -/
theorem mem_macros_iff : (name, value) ∈ macros m ↔
    Keyed.LastHas (macroName ·.1) (·.2.shown) m name value ∨
      (∀ x ∈ m, macroName x.1 ≠ name) ∧ (name, value) ∈ usualMacros := by
  have hfound (ms : Keyed String) (hnames : ms.keys.Nodup) :
      (name, value) ∈ ms ↔ ms.get? name = some value :=
    ⟨Keyed.get?_of_mem hnames, Keyed.mem_of_get?⟩
  rw [hfound _ (nodup_keys_macros m), hfound usualMacros (by decide), macros_eq]
  exact Keyed.get?_foldl_put m usualMacros

/-- The block of macros stands in the lines of a script after what that says of its origin. -/
theorem exists_lines_script {o : BuildOrder} {solutionName text : String}
    (h : script o m solutionName = .ok text) :
    ∃ after, text =
      Text.join "\n" (origin solutionName ++ (macros m).map (fun x => x.1 ++ " = " ++ x.2) ++
        "" :: after) := by
  obtain ⟨all, hlines, rfl⟩ := Fallible.map_eq_ok.1 h
  obtain ⟨rules, -, hall⟩ := Fallible.bind_eq_ok.1 hlines
  cases hall
  refine ⟨dependencyLine "all" (o.projects.map artifact) :: "" ::
    (rules.flatten ++ cleanRule o ++ [""]), congrArg (Text.join "\n") ?_⟩
  simp [macroLines]

/-- No macro is defined twice, and names are made of capital letters, digits and underscores. The
usual macros come first, then the others as their parameters come first; each has the value of the
last parameter for it, or else the usual one. The block of a script has a line for each of them, and
no other lines if no value has a line break. -/
theorem macros_table (m : Parameters) :
    (macros m).keys.Nodup ∧
    (∀ name ∈ (macros m).keys, ∀ c ∈ name.toList, IsMacroChar c) ∧
    (macros m).keys = ["CSC", "VBC", "RESGEN", "BUILD_BASEDIR"] ++
      ((m.map (macroName ·.1)).filter (· ∉ usualMacros.keys)).eraseDups ∧
    (∀ name value, (name, value) ∈ macros m ↔
      Keyed.LastHas (macroName ·.1) (·.2.shown) m name value ∨
        (∀ x ∈ m, macroName x.1 ≠ name) ∧ (name, value) ∈ usualMacros) ∧
    ∀ o solutionName text, script o m solutionName = .ok text → ∃ after,
      text = Text.join "\n" (origin solutionName ++
        (macros m).map (fun x => x.1 ++ " = " ++ x.2) ++ "" :: after) ∧
      ((∀ x ∈ m, '\n' ∉ x.2.shown.toList) → ∃ before rest, splitAt '\n' text =
        before ++ (macros m).map (fun x => x.1 ++ " = " ++ x.2) ++ "" :: rest) := by
  refine ⟨nodup_keys_macros m, fun _ => isMacroChar_of_mem_macros, keys_macros m,
    fun _ _ => mem_macros_iff, fun o solutionName text h => ?_⟩
  obtain ⟨after, htext⟩ := exists_lines_script h
  refine ⟨after, htext, fun hvalues => ?_⟩
  have hblock : ((macros m).map fun x => x.1 ++ " = " ++ x.2).flatMap (splitAt '\n') =
      (macros m).map fun x => x.1 ++ " = " ++ x.2 := by
    rw [flatMap_splitAt_eq_self, List.forall_mem_map]
    intro x hx
    have hname := (not_mem_of_mem_macros hx).2
    have hvalue := not_mem_newline_of_mem_macros hvalues hx
    simp [hname, hvalue]
  refine ⟨(origin solutionName).flatMap (splitAt '\n'), after.flatMap (splitAt '\n'), ?_⟩
  rw [htext, splitAt_join rfl (by simp), List.flatMap_append, List.flatMap_append, hblock,
    List.flatMap_cons]
  rfl

/-- Two parameters for one macro, and one for a macro that every script has. -/
example : macros [("build.flag", .text "1"), ("Csc", .text "mcs"), ("build-flag", .text "2")] =
    [("CSC", "mcs"), ("VBC", "vbc"), ("RESGEN", "resgen"), ("BUILD_BASEDIR", "bin"),
      ("BUILD_FLAG", "2")] := by
  decide

end SolutionScript.NMake
