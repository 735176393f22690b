import SolutionScript.Proofs.Script.BuildFile
import SolutionScript.Proofs.Solution.LoadedOrder
import SolutionScript.Proofs.Xml.Refused

/-!
# The comment on the origin of a script

A NAnt script says in a comment which solution it was written for, in the words of the name of
its file. It is a document that can be read unless two hyphens follow each other in this name; then
it is malformed, as far as the name has no character that could end the comment
(`script_wellFormed`).
-/

namespace SolutionScript.NAnt

open FileSystem Text Xml

/-! ## Two hyphens in a row -/

/-- Two characters that follow each other somewhere do so for a first time. -/
theorem exists_first_pair {a b : Char} {l : List Char} (h : [a, b] <:+: l) :
    ∃ before after, l = before ++ a :: b :: after ∧ ¬ [a, b] <:+: before ++ [a] := by
  induction l with
  | nil => cases List.infix_nil.1 h
  | cons c l ih =>
    by_cases hfirst : [a, b] <+: c :: l
    · obtain ⟨after, hafter⟩ := hfirst
      exact ⟨[], after, hafter.symm, fun hinfix => absurd hinfix.length_le (by simp)⟩
    · obtain ⟨before, after, rfl, hbefore⟩ := ih ((List.infix_cons_iff.1 h).resolve_left hfirst)
      refine ⟨c :: before, after, rfl, fun hinfix => ?_⟩
      rcases List.infix_cons_iff.1 hinfix with hstart | hinfix
      · refine hfirst (hstart.trans ⟨b :: after, ?_⟩)
        simp
      · exact hbefore hinfix

theorem isBroken_origin {solutionName : String} (h : IsText solutionName)
    (hhyphens : ['-', '-'] <:+: solutionName.toList) (hend : '>' ∉ solutionName.toList) :
    IsBroken (" Generated by slingshot from " ++ solutionName ++ ".sln ").toList := by
  obtain ⟨before, after, hsplit, hbefore⟩ := exists_first_pair hhyphens
  obtain ⟨c, more, hcons, hc⟩ : ∃ c more, after ++ ".sln ".toList = c :: more ∧ c ≠ '>' := by
    cases after with
    | nil => exact ⟨'.', _, rfl, by decide⟩
    | cons c after => exact ⟨c, _, rfl, fun hc => hend (by simp [hsplit, hc])⟩
  have hchars :
      Over (isXmlChar · = true) (" Generated by slingshot from " ++ String.ofList before) :=
    Over.append (by decide) fun e he => h e (by simp_all)
  refine ⟨" Generated by slingshot from ".toList ++ before, c, more, ?_, ⟨?_, fun hinfix => ?_⟩, hc⟩
  · rw [String.toList_append, String.toList_append, hsplit, List.append_assoc, List.append_assoc,
      List.append_assoc, List.cons_append, List.cons_append, hcons]
  · simpa [Over] using hchars
  · have htext : " Generated by slingshot from ".toList ++ before ++ ['-'] =
        " Generated by slingshot from".toList ++ ' ' :: (before ++ ['-']) := by
      simp
    rw [htext] at hinfix
    rcases infix_append_cons (by decide) hinfix with hinfix | hinfix
    · exact absurd hinfix (by decide)
    · exact hbefore hinfix

/-- A script whose comment has two hyphens in a row is malformed. -/
theorem parse_script_hyphens {o : BuildOrder} {texts : Keyed String} {solutionName text : String}
    (htexts : ∀ a ∈ texts, IsText a.1 ∧ IsText a.2) (hname : IsText solutionName)
    (hhyphens : ['-', '-'] <:+: solutionName.toList) (hend : '>' ∉ solutionName.toList)
    (h : script o (Parameters.ofTexts texts) solutionName = .ok text) :
    ∃ position, Document.parse (encode text) = .error (.malformed ⟨.invalidToken, position⟩) := by
  obtain ⟨-, tree, hdocument, rfl⟩ := script_eq_ok.1 h
  obtain ⟨-, rfl⟩ := document_ofTexts.1 hdocument
  have hne : solutionName ≠ "" := by
    rintro rfl
    exact absurd hhyphens (by decide)
  rw [if_neg hne, documentText_eq]
  exact Document.parse_refused (by decide) (attributes_script htexts hname)
    (isBroken_origin hname hhyphens hend)

/-- A script is a document that can be read if no two hyphens follow each other in the name of the
solution. If two do, and the name could not end a comment, it is malformed. -/
theorem script_wellFormed {o : BuildOrder} {texts : Keyed String} {solutionName text : String}
    (horder : ∀ p ∈ o.projects, p.TextsOver (isXmlChar · = true))
    (htexts : ∀ a ∈ texts, IsText a.1 ∧ IsText a.2) (hname : IsText solutionName)
    (h : script o (Parameters.ofTexts texts) solutionName = .ok text) :
    (¬ ['-', '-'] <:+: solutionName.toList → ∃ e, Document.parse (encode text) = .ok e ∧
      e.outlined = (scriptElement o texts solutionName).outlined) ∧
    (['-', '-'] <:+: solutionName.toList → '>' ∉ solutionName.toList → ∃ position,
      Document.parse (encode text) = .error (.malformed ⟨.invalidToken, position⟩)) :=
  ⟨fun hhyphens => parse_scriptElement horder htexts hname hhyphens h,
    fun hhyphens hend => parse_script_hyphens htexts hname hhyphens hend h⟩

/-- A script for the same projects, with and without two hyphens in the name of the solution. -/
theorem script_wellFormed_quoted :
    (∀ p ∈ [quotedLibrary, quotedProgram], p.TextsOver (isXmlChar · = true)) ∧
      (∀ a ∈ quotedTexts, IsText a.1 ∧ IsText a.2) ∧
      (∃ text e,
        script ⟨[quotedLibrary, quotedProgram]⟩ (Parameters.ofTexts quotedTexts) "App-Web" =
          .ok text ∧ Document.parse (encode text) = .ok e) ∧
      ∃ text position,
        script ⟨[quotedLibrary, quotedProgram]⟩ (Parameters.ofTexts quotedTexts) "App--Web" =
          .ok text ∧
        Document.parse (encode text) = .error (.malformed ⟨.invalidToken, position⟩) := by
  have horder : ∀ p ∈ [quotedLibrary, quotedProgram], p.TextsOver (isXmlChar · = true) := by
    rw [List.forall_mem_cons, List.forall_mem_singleton]
    constructor
    · constructor <;> decide
    · constructor <;> decide
  have htexts : ∀ a ∈ quotedTexts, IsText a.1 ∧ IsText a.2 := by decide
  have hneeded : ∀ p ∈ [quotedLibrary, quotedProgram],
      BuildOrder.dependencies ⟨[quotedLibrary, quotedProgram]⟩ p =
        .ok (BuildOrder.needed ⟨[quotedLibrary, quotedProgram]⟩ p) := by
    rw [List.forall_mem_cons, List.forall_mem_singleton]
    exact ⟨BuildOrder.dependencies_needed ⟨[], by cbv⟩,
      BuildOrder.dependencies_needed ⟨[quotedLibrary], by cbv⟩⟩
  have hexists := @exists_script ⟨[quotedLibrary, quotedProgram]⟩ (by decide) hneeded quotedTexts
  obtain ⟨plain, hplain⟩ := hexists "App-Web"
  obtain ⟨broken, hbroken⟩ := hexists "App--Web"
  obtain ⟨e, he, -⟩ := (script_wellFormed horder htexts (by decide) hplain).1 (by decide)
  obtain ⟨position, hposition⟩ :=
    (script_wellFormed horder htexts (by decide) hbroken).2 (by decide) (by decide)
  exact ⟨horder, htexts, ⟨plain, e, hplain, he⟩, broken, position, hbroken, hposition⟩

/-- A disk with a solution that has two hyphens in its name, and no projects. -/
def hyphenDisk : Disk where
  tree := ⟨[(["Work"], .folder), (["Work", "App--Web.sln"],
    Solution.plainFile ["Microsoft Visual Studio Solution File, Format Version 8.00"])]⟩
  home := ["Work"]

/-- The script for a solution whose file has two hyphens in its name is malformed. -/
theorem script_malformed_hyphens :
    ∃ os text position,
      loadOrdered hyphenDisk { solution := some ⟨.relative, ["App--Web.sln"]⟩ } = .ok os ∧
      (∀ p ∈ os.order.projects, p.TextsOver (isXmlChar · = true)) ∧ os.name = "App--Web" ∧
      script os.order (Parameters.ofTexts [("build.basedir", "bin")]) os.name = .ok text ∧
      Document.parse (encode text) = .error (.malformed ⟨.invalidToken, position⟩) := by
  have hlines : Solution.readLines hyphenDisk ⟨.relative, ["App--Web.sln"]⟩ =
      .ok ["Microsoft Visual Studio Solution File, Format Version 8.00"] :=
    Solution.readLines_plainFile rfl (by decide)
  have hparse : SolutionText.parse ["Microsoft Visual Studio Solution File, Format Version 8.00"] =
      .ok ⟨"8.00", [], []⟩ := by decide
  have hload : Solution.load hyphenDisk ⟨.relative, ["App--Web.sln"]⟩ [] =
      .ok ⟨"App--Web.sln", "8.00", []⟩ :=
    Solution.load_eq_ok.2 ⟨_, _, [], hlines, hparse, rfl, rfl, by decide, rfl⟩
  have horder := @loadOrdered_of_load hyphenDisk
    { solution := some ⟨.relative, ["App--Web.sln"]⟩ } _ _ _ rfl rfl hload
  have hname : Solution.name ⟨"App--Web.sln", "8.00", []⟩ = "App--Web" := by decide
  obtain ⟨text, htext⟩ :=
    @exists_script ⟨[]⟩ (by simp) (by simp) [("build.basedir", "bin")] "App--Web"
  obtain ⟨position, hposition⟩ :=
    parse_script_hyphens (by decide) (by decide) (by decide) (by decide) htext
  refine ⟨⟨"App--Web", ⟨[]⟩⟩, text, position, ?_, by simp, rfl, htext, hposition⟩
  have hempty : BuildOrder.ofProjects [] = .ok ⟨[]⟩ := by cbv
  rw [horder, hname, Solution.mapPaths_nil, hempty]
  rfl

end SolutionScript.NAnt
