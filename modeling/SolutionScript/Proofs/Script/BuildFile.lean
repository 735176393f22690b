import SolutionScript.Proofs.Script.NAnt
import SolutionScript.Proofs.Xml.Outline

/-!
# Build files

A NAnt script is the text of one element (`scriptElement`), which is written for parameters that
are all texts (`script_eq_ok_iff`). Its targets are one for each project, in build order, one for
all of them and one that deletes what they make (`childrenNamed_target`). Where all texts have only
characters that XML allows, reading the script gives this element, up to text and comments
(`parse_scriptElement`).
-/

namespace SolutionScript.NAnt

open Text Xml

/-! ## Parameters -/

theorem exists_ofTexts_of_properties {m : Parameters} {nodes : List Node}
    (h : properties m = .ok nodes) : ∃ texts, m = Parameters.ofTexts texts := by
  obtain ⟨given, hgiven, -⟩ := Fallible.bind_eq_ok.1 h
  rw [Fallible.mapM_eq_ok] at hgiven
  clear h
  induction hgiven with
  | nil => exact ⟨[], rfl⟩
  | @cons a node m given ha _ ih =>
    obtain ⟨texts, rfl⟩ := ih
    obtain ⟨s, hs, -⟩ := Fallible.bind_eq_ok.1 ha
    obtain ⟨name, value⟩ := a
    cases value with
    | text t => exact ⟨(name, t) :: texts, rfl⟩
    | number n => cases hs
    | truth b => cases hs
    | missing => cases hs

/-- Only parameters that are all texts can be shown. -/
theorem exists_ofTexts {o : BuildOrder} {m : Parameters} {solutionName : String} {tree : Node}
    (h : document o m solutionName = .ok tree) : ∃ texts, m = Parameters.ofTexts texts := by
  obtain ⟨name, -, h⟩ := Fallible.bind_eq_ok.1 h
  obtain ⟨nodes, hnodes, -⟩ := Fallible.bind_eq_ok.1 h
  exact exists_ofTexts_of_properties hnodes

/-! ## The document element -/

/-- What a script says of its origin. -/
def originNodes (solutionName : String) : List Node :=
  if solutionName = "" then []
  else [.comment (" Generated by slingshot from " ++ solutionName ++ ".sln ")]

/-- The document element of a script. -/
def scriptElement (o : BuildOrder) (texts : Keyed String) (solutionName : String) : Element where
  name := "project"
  attributes := [("name", scriptName texts solutionName), ("default", "build"), ("basedir", ".")]
  content := originNodes solutionName ++ scriptContent o texts

/-- A script is written where no project has a name that every script has and no dependency is
missing, and all parameters are texts. -/
theorem script_eq_ok_iff {o : BuildOrder} {m : Parameters} {solutionName text : String} :
    script o m solutionName = .ok text ↔
      ∃ texts, m = Parameters.ofTexts texts ∧ (∀ p ∈ o.projects, p.name ∉ reservedTargets) ∧
        (∀ p ∈ o.projects, o.dependencies p = .ok (o.needed p)) ∧
        text = documentText (scriptElement o texts solutionName).toNode := by
  rw [script_eq_ok]
  constructor
  · rintro ⟨hreserved, tree, hdocument, rfl⟩
    obtain ⟨texts, rfl⟩ := exists_ofTexts hdocument
    obtain ⟨hneeded, rfl⟩ := document_ofTexts.1 hdocument
    exact ⟨texts, rfl, hreserved, hneeded, rfl⟩
  · rintro ⟨texts, rfl, hreserved, hneeded, rfl⟩
    exact ⟨hreserved, _, document_ofTexts.2 ⟨hneeded, rfl⟩, rfl⟩

theorem outlineAll_scriptElement (o : BuildOrder) (texts : Keyed String) (solutionName : String) :
    outlineAll (scriptElement o texts solutionName).content = scriptContent o texts := by
  have horigin : outlineAll (originNodes solutionName) = [] := by
    rw [originNodes]
    split <;> rfl
  rw [scriptElement, outlineAll_append, horigin, outlineAll_scriptContent, List.nil_append]

/-- Reading a script gives its element. -/
theorem parse_scriptElement {o : BuildOrder} {texts : Keyed String} {solutionName text : String}
    (horder : ∀ p ∈ o.projects, p.TextsOver (isXmlChar · = true))
    (htexts : ∀ a ∈ texts, IsText a.1 ∧ IsText a.2) (hname : IsText solutionName)
    (hhyphens : ¬ ['-', '-'] <:+: solutionName.toList)
    (h : script o (Parameters.ofTexts texts) solutionName = .ok text) :
    ∃ e, Document.parse (encode text) = .ok e ∧
      e.outlined = (scriptElement o texts solutionName).outlined := by
  obtain ⟨-, content, hcontent, hparse⟩ := script_parse horder htexts hname hhyphens h
  exact ⟨_, hparse, Element.outlined_eq rfl rfl
    (hcontent.trans (outlineAll_scriptElement o texts solutionName).symm)⟩

/-! ## Targets -/

/-- The target of a project in a script. -/
def targetElement (o : BuildOrder) (configuration : String) (p : Project) : Element where
  name := "target"
  attributes := ("name", p.name) :: (depends ((o.needed p).map (·.name)) ++
    [("description", "Build " ++ p.outputFile)])
  content := [leaf "mkdir" [("dir", baseReference)],
    compiler (o.needed p) p (p.configuration configuration)]

/-- The target for all projects. -/
def buildElement (o : BuildOrder) : Element where
  name := "target"
  attributes := ("name", "build") :: (depends o.names ++
    [("description", "Build every project in the solution")])
  content := []

/-- The target that deletes what is built. -/
def cleanElement (o : BuildOrder) (configuration : String) : Element where
  name := "target"
  attributes := [("name", "clean"), ("description", "Delete build outputs")]
  content := o.projects.flatMap fun p =>
    let file := (p.configuration configuration).documentationFile
    delete (artifact p) ::
      if file = "" then [] else [delete (baseReference ++ "\\" ++ DescriptorPath.fileName file)]

/-- The targets of a script. -/
theorem childrenNamed_target (o : BuildOrder) (texts : Keyed String) (solutionName : String) :
    (scriptElement o texts solutionName).childrenNamed "target" =
      o.projects.map (targetElement o (Parameters.ofTexts texts).configurationName) ++
        [buildElement o, cleanElement o (Parameters.ofTexts texts).configurationName] := by
  have horigin : (originNodes solutionName).filterMap Element.ofNode? = [] := by
    rw [originNodes]
    split <;> rfl
  have hproperty (attributes : Keyed String) :
      Element.localName ⟨"property", attributes, []⟩ = "property" :=
    (by decide : localPart "property" = "property")
  have htarget (attributes : Keyed String) (content : List Node) :
      Element.localName ⟨"target", attributes, content⟩ = "target" :=
    (by decide : localPart "target" = "target")
  have hproperties {f : String × String → Node} {g : String × String → Keyed String}
      (hf : ∀ a, Element.ofNode? (f a) = some ⟨"property", g a, []⟩) :
      (texts.filterMap (Element.ofNode? ∘ f)).filter (·.localName = "target") = [] := by
    rw [List.filter_eq_nil_iff]
    intro e he
    obtain ⟨a, -, ha⟩ := List.mem_filterMap.1 he
    cases (hf a).symm.trans ha
    simp [hproperty]
  have husual : ((if "build.basedir" ∈ texts.keys then [] else [leaf "property"
      [("name", "build.basedir"), ("value", "bin"), ("overwrite", "false")]]).filterMap
        Element.ofNode?).filter (·.localName = "target") = [] := by
    split
    · rfl
    · simp [leaf, Element.ofNode?, hproperty]
  have hprojects {f : Project → Node} {g : Project → Element}
      (hf : ∀ p, Element.ofNode? (f p) = some (g p)) (hg : ∀ p, (g p).localName = "target") :
      (o.projects.filterMap (Element.ofNode? ∘ f)).filter (·.localName = "target") =
        o.projects.map g := by
    have hmap : o.projects.filterMap (Element.ofNode? ∘ f) = o.projects.map g := by
      rw [← List.filterMap_eq_map]
      exact congrArg (List.filterMap · _) (funext hf)
    rw [hmap, List.filter_eq_self, List.forall_mem_map]
    exact fun p _ => decide_eq_true (hg p)
  rw [Element.childrenNamed, Element.children, scriptElement, scriptContent]
  simp only [List.filterMap_append, List.filter_append, List.filterMap_map, horigin, husual,
    List.nil_append]
  rw [hproperties (g := fun a => [("name", a.1), ("value", a.2)]) fun _ => rfl, List.nil_append,
    hprojects (g := targetElement o (Parameters.ofTexts texts).configurationName)
    (fun _ => rfl) fun _ => htarget _ _]
  simp [leaf, Element.ofNode?, htarget, buildElement, cleanElement]

end SolutionScript.NAnt
