import SolutionScript.Proofs.Graph.Members
import SolutionScript.Proofs.Text.Over
import SolutionScript.Proofs.Xml.Document
import SolutionScript.Script.NAnt

/-!
# NAnt scripts as build files

A NAnt script for projects whose texts have only characters that XML allows is a document that
can be read (`legible_scriptContent`), and reading it gives the elements, with all values of
attributes, that it was written for (`script_parses`). No two targets have one name unless two
projects have one identifier.
-/

namespace SolutionScript

open Text Xml

/-- Parameters that are all texts. -/
def Parameters.ofTexts (texts : Keyed String) : Parameters :=
  texts.map fun (name, value) => (name, .text value)

/-- A text that an XML document may have. -/
abbrev Xml.IsText (s : String) : Prop := Over (isXmlChar · = true) s

namespace NAnt

/-! ## Elements that can be written -/

section

variable {tag : String} {attributes : Keyed String} {content : List Node}

/-- Names that can be those of the attributes of an element. -/
def areAttributeNames (names : List String) : Bool :=
  names.all (fun n => isPlainName n.toList) && names.Nodup

theorem legible_element (names : List String) (htag : isPlainName tag.toList = true)
    (hnames : areAttributeNames names = true) (hkeys : attributes.keys.Sublist names)
    (hvalues : ∀ a ∈ attributes, IsText a.2) (hcontent : ∀ node ∈ content, Legible node) :
    Legible (.element tag attributes content) := by
  simp only [areAttributeNames, Bool.and_eq_true, List.all_eq_true, decide_eq_true_eq] at hnames
  refine .element htag ⟨fun a ha => ?_, hnames.2.sublist hkeys, hvalues⟩ hcontent
  exact hnames.1 _ (hkeys.subset (List.mem_map_of_mem ha))

theorem keys_append (attributes more : Keyed String) :
    Keyed.keys (attributes ++ more) = attributes.keys ++ more.keys :=
  List.map_append

theorem keys_flag (isOn : Bool) (name value : String) :
    (flag isOn name value).keys.Sublist [name] := by
  cases isOn with
  | true => exact List.Sublist.refl _
  | false => exact List.nil_sublist _

theorem keys_optional (name value : String) : (optional name value).keys.Sublist [name] := by
  rw [optional]
  split
  · exact List.nil_sublist _
  · exact List.Sublist.refl _

theorem values_flag {isOn : Bool} {name value : String} (h : IsText value) :
    ∀ a ∈ flag isOn name value, IsText a.2 := by
  cases isOn <;> simp [flag, h]

theorem values_optional {name value : String} (h : IsText value) :
    ∀ a ∈ optional name value, IsText a.2 := by
  rw [optional]
  split <;> simp [h]

end

/-! ## The content of a script -/

section

variable {p : Project}

theorem isText_outputFile (h : p.TextsOver (isXmlChar · = true)) : IsText p.outputFile :=
  Over.outputFile h.name h.assemblyName (by decide)

theorem isText_below {s : String} (h : IsText s) : IsText (baseReference ++ "\\" ++ s) :=
  Over.append (by decide) h

theorem isText_artifact (h : p.TextsOver (isXmlChar · = true)) : IsText (artifact p) :=
  isText_below (isText_outputFile h)

theorem isText_compilerTarget (p : Project) : IsText p.compilerTarget := by
  have htargets : ∀ s ∈ ["library", "module", "exe", "winexe"], IsText s := by decide
  exact htargets _ p.compilerTarget_mem

theorem isText_documentation {c : Configuration} (h : IsText c.documentationFile) :
    ∀ s ∈ documentation? c, IsText s := by
  rw [documentation?]
  split
  · simp
  · rintro s ⟨⟩
    exact isText_below h.fileName

theorem isText_referencePaths (h : p.TextsOver (isXmlChar · = true)) {needed : List Project}
    (hneeded : ∀ q ∈ needed, q.TextsOver (isXmlChar · = true)) :
    ∀ s ∈ referencePaths needed p, IsText s := by
  rw [referencePaths, List.forall_mem_append, List.forall_mem_map, List.forall_mem_map]
  refine ⟨fun r hr => ?_, fun q hq => isText_artifact (hneeded q hq)⟩
  obtain ⟨hname, hhint⟩ := h.references r hr
  have hfile : IsText r.fileName := Over.append hname (by decide)
  rw [referencePath]
  split_ifs
  · exact isText_below hfile
  · exact Over.resolve (by decide) h.path hhint
  · exact hfile

theorem legible_leaf (names : List String) {tag : String} {attributes : Keyed String}
    (htag : isPlainName tag.toList = true) (hnames : areAttributeNames names = true)
    (hkeys : attributes.keys.Sublist names) (hvalues : ∀ a ∈ attributes, IsText a.2) :
    Legible (leaf tag attributes) :=
  legible_element names htag hnames hkeys hvalues (by simp)

theorem legible_fileSet {tag : String} {attributes : Keyed String} {files : List String}
    (htag : isPlainName tag.toList = true)
    (hkeys : attributes.keys.Sublist ["prefix", "dynamicprefix"])
    (hvalues : ∀ a ∈ attributes, IsText a.2) (hfiles : ∀ s ∈ files, IsText s) :
    ∀ node ∈ fileSet tag attributes files, Legible node := by
  rw [fileSet]
  split
  · simp
  · rw [List.forall_mem_singleton]
    refine legible_element ["basedir", "prefix", "dynamicprefix"] htag (by decide)
      (hkeys.cons_cons "basedir") (List.forall_mem_cons.2 ⟨(by decide : IsText "."), hvalues⟩) ?_
    rw [List.forall_mem_map]
    exact fun file hfile => legible_leaf ["name"] (by decide) (by decide) (List.Sublist.refl _)
      (by simpa using hfiles file hfile)

theorem keys_compilerAttributes (p : Project) (c : Configuration) :
    (compilerAttributes p c).keys.Sublist ["target", "output", "debug", "define", "unsafe",
      "checked", "doc", "removeintchecks", "rootnamespace", "imports"] := by
  have hlanguage : (languageAttributes p c).keys.Sublist ["unsafe", "checked", "doc",
      "removeintchecks", "rootnamespace", "imports"] := by
    rw [languageAttributes]
    split
    · rw [keys_append, keys_append]
      exact (((keys_flag _ _ _).append (keys_flag _ _ _)).append (keys_optional _ _)).trans
        (by decide)
    · rw [keys_append, keys_append]
      exact (((keys_flag _ _ _).append (keys_optional _ _)).append (keys_flag _ _ _)).trans
        (by decide)
  rw [compilerAttributes, keys_append, keys_append]
  exact ((List.Sublist.refl ["target", "output", "debug"]).append (keys_flag _ _ _)).append
    hlanguage

theorem values_compilerAttributes (h : p.TextsOver (isXmlChar · = true)) {c : Configuration}
    (hdocumentation : IsText c.documentationFile) (hconstants : IsText c.defineConstants) :
    ∀ a ∈ compilerAttributes p c, IsText a.2 := by
  have hon : IsText "true" := by decide
  have hoff : IsText "false" := by decide
  have hdoc : IsText ((documentation? c).getD "") := by
    cases hfile : documentation? c with
    | none => exact over_empty
    | some s => exact isText_documentation hdocumentation s hfile
  have hlanguage : ∀ a ∈ languageAttributes p c, IsText a.2 := by
    rw [languageAttributes]
    split
    · rw [List.forall_mem_append, List.forall_mem_append]
      exact ⟨⟨values_flag hon, values_flag hon⟩, values_optional hdoc⟩
    · rw [List.forall_mem_append, List.forall_mem_append]
      exact ⟨⟨values_flag hoff, values_optional h.rootNamespace⟩,
        values_flag (Over.join (by decide) h.imports)⟩
  have hdebug : IsText (if c.debugSymbols then "true" else "false") := by
    split
    · exact hon
    · exact hoff
  rw [compilerAttributes, List.forall_mem_append, List.forall_mem_append]
  refine ⟨⟨?_, values_flag (Over.join (by decide) (hconstants.symbolsOf (by decide)))⟩, hlanguage⟩
  simp only [List.forall_mem_cons]
  exact ⟨isText_compilerTarget p, isText_artifact h, hdebug, by simp⟩

theorem legible_compiler (h : p.TextsOver (isXmlChar · = true)) {needed : List Project}
    (hneeded : ∀ q ∈ needed, q.TextsOver (isXmlChar · = true)) {c : Configuration}
    (hdocumentation : IsText c.documentationFile) (hconstants : IsText c.defineConstants) :
    Legible (compiler needed p c) := by
  have hresolved : ∀ files : List ProjectFile, files ⊆ p.files →
      ∀ s ∈ files.map (fun f => p.resolve f.relativePath), IsText s := by
    intro files hfiles
    rw [List.forall_mem_map]
    exact fun f hf => Over.resolve (by decide) h.path (h.files f (hfiles hf))
  have hresources : p.resxFiles ++ p.resourceFiles ⊆ p.files := by
    intro f hf
    rcases List.mem_append.1 hf with hf | hf
    · exact (List.mem_filter.1 (List.mem_filter.1 hf).1).1
    · exact (List.mem_filter.1 (List.mem_filter.1 hf).1).1
  have hname : isPlainName (compilerTask p.kind).toList = true := by
    cases p.kind <;> decide
  refine legible_element _ hname (by decide) (keys_compilerAttributes p c)
    (values_compilerAttributes h hdocumentation hconstants) ?_
  rw [List.forall_mem_append, List.forall_mem_append]
  refine ⟨⟨?_, ?_⟩, ?_⟩
  · exact legible_fileSet (by decide) (List.nil_sublist _) (by simp)
      (hresolved _ fun f hf => (List.mem_filter.1 hf).1)
  · exact legible_fileSet (by decide) (List.nil_sublist _) (by simp)
      (isText_referencePaths h hneeded)
  · refine legible_fileSet (by decide) ?_ ?_ (hresolved _ hresources)
    · rw [keys_append]
      exact (keys_optional _ _).append (List.Sublist.refl ["dynamicprefix"])
    · exact List.forall_mem_append.2 ⟨values_optional h.rootNamespace, by decide⟩

theorem legible_projectTarget (h : p.TextsOver (isXmlChar · = true)) {needed : List Project}
    (hneeded : ∀ q ∈ needed, q.TextsOver (isXmlChar · = true)) (configuration : String) :
    Legible (projectTarget configuration p needed) := by
  obtain ⟨hdocumentation, hconstants⟩ := h.configuration configuration
  have hdepends : IsText (join "," (needed.map (·.name))) :=
    Over.join (by decide) (List.forall_mem_map.2 fun q hq => (hneeded q hq).name)
  refine legible_element ["name", "depends", "description"] (by decide) (by decide) ?_ ?_ ?_
  · rw [keys_append, keys_append]
    exact ((List.Sublist.refl ["name"]).append (keys_flag _ _ _)).append
      (List.Sublist.refl ["description"])
  · rw [List.forall_mem_append, List.forall_mem_append, List.forall_mem_singleton,
      List.forall_mem_singleton]
    exact ⟨⟨h.name, values_flag hdepends⟩, Over.append (by decide) (isText_outputFile h)⟩
  · rw [List.forall_mem_cons, List.forall_mem_singleton]
    exact ⟨legible_leaf ["dir"] (by decide) (by decide) (List.Sublist.refl _) (by decide),
      legible_compiler h hneeded hdocumentation hconstants⟩

end

section

variable {o : BuildOrder} (h : ∀ p ∈ o.projects, p.TextsOver (isXmlChar · = true))
include h

theorem legible_buildTarget : Legible (buildTarget o) := by
  have hdepends : IsText (join "," o.names) :=
    Over.join (by decide) (List.forall_mem_map.2 fun p hp => (h p hp).name)
  refine legible_leaf ["name", "depends", "description"] (by decide) (by decide) ?_ ?_
  · rw [keys_append, keys_append]
    exact ((List.Sublist.refl ["name"]).append (keys_flag _ _ _)).append
      (List.Sublist.refl ["description"])
  · rw [List.forall_mem_append, List.forall_mem_append]
    exact ⟨⟨by decide, values_flag hdepends⟩, by decide⟩

theorem legible_cleanTarget (configuration : String) : Legible (cleanTarget o configuration) := by
  have hdelete : ∀ s, IsText s → Legible (delete s) := fun s hs =>
    legible_leaf ["file", "failonerror"] (by decide) (by decide) (List.Sublist.refl _)
      (List.forall_mem_cons.2 ⟨hs, by decide⟩)
  refine legible_element ["name", "description"] (by decide) (by decide) (List.Sublist.refl _)
    (by decide) fun node hnode => ?_
  obtain ⟨p, hp, hnode⟩ := List.mem_flatMap.1 hnode
  rcases List.mem_cons.1 hnode with rfl | hnode
  · exact hdelete _ (isText_artifact (h p hp))
  · obtain ⟨s, hs, rfl⟩ := Option.map_eq_some_iff.1 (Option.mem_toList.1 hnode)
    exact hdelete _ (isText_documentation ((h p hp).configuration configuration).1 s hs)

end

/-! ## The script as a tree -/

/-- The attribute for the targets that a target depends on, if there are any. -/
def depends (names : List String) : Keyed String :=
  if names = [] then [] else [("depends", join "," names)]

theorem flag_depends (names : List String) :
    flag (!names.isEmpty) "depends" (join "," names) = depends names := by
  cases names <;> rfl

/-- What stands in a script for parameters, projects and their configurations. -/
def scriptContent (o : BuildOrder) (texts : Keyed String) : List Node :=
  let configuration := (Parameters.ofTexts texts).configurationName
  texts.map (fun (name, value) => leaf "property" [("name", name), ("value", value)]) ++
    (if "build.basedir" ∈ texts.keys then [] else
      [leaf "property" [("name", "build.basedir"), ("value", "bin"), ("overwrite", "false")]]) ++
    o.projects.map (fun p =>
      .element "target"
        (("name", p.name) :: (depends ((o.needed p).map (·.name)) ++
          [("description", "Build " ++ p.outputFile)]))
        [leaf "mkdir" [("dir", baseReference)],
          compiler (o.needed p) p (p.configuration configuration)]) ++
    [leaf "target" (("name", "build") :: (depends o.names ++
        [("description", "Build every project in the solution")])),
      .element "target" [("name", "clean"), ("description", "Delete build outputs")]
        (o.projects.flatMap fun p =>
          let file := (p.configuration configuration).documentationFile
          delete (artifact p) ::
            if file = "" then [] else
              [delete (baseReference ++ "\\" ++ DescriptorPath.fileName file)])]

/-- The name of a script. -/
def scriptName (texts : Keyed String) (solutionName : String) : String :=
  ([(texts.get? "project.name").getD "", solutionName].find? (· ≠ "")).getD "solution"

theorem get?_ofTexts (texts : Keyed String) (name : String) :
    (Parameters.ofTexts texts).get? name = (texts.get? name).map .text := by
  induction texts with
  | nil => rfl
  | cons a texts ih =>
    obtain ⟨key, value⟩ := a
    rw [Parameters.ofTexts, List.map_cons, Keyed.get?, Keyed.get?, ← Parameters.ofTexts, ih]
    split <;> rfl

theorem projectName_ofTexts (texts : Keyed String) (solutionName : String) :
    projectName (Parameters.ofTexts texts) solutionName = .ok (scriptName texts solutionName) := by
  have hempty : (if solutionName = "" then "solution" else solutionName) =
      ([solutionName].find? (· ≠ "")).getD "solution" := by
    by_cases h : solutionName = "" <;> simp [h]
  rw [projectName, Parameters.given?, get?_ofTexts, scriptName]
  cases texts.get? "project.name" with
  | none =>
    simp [hempty]
  | some value =>
    by_cases hvalue : value = ""
    · subst hvalue
      exact congrArg Except.ok hempty
    · have hgiven : (some (ParameterValue.text value)).filter (·.isGiven) = some (.text value) := by
        rw [Option.filter_some, if_pos (by simpa [ParameterValue.isGiven] using hvalue)]
      rw [Option.map_some, hgiven]
      simp [hvalue, textOf]

theorem properties_ofTexts (texts : Keyed String) :
    properties (Parameters.ofTexts texts) = .ok
      (texts.map (fun (name, value) => leaf "property" [("name", name), ("value", value)]) ++
        if "build.basedir" ∈ texts.keys then [] else
          [leaf "property" [("name", "build.basedir"), ("value", "bin"),
            ("overwrite", "false")]]) := by
  have hgiven {f : String × ParameterValue → Except Failure Node} {g : String × String → Node}
      (h : ∀ a, f (a.1, .text a.2) = .ok (g a)) :
      (Parameters.ofTexts texts).mapM f = .ok (texts.map g) := by
    rw [Fallible.mapM_eq_ok, Parameters.ofTexts, List.forall₂_map_left_iff,
      List.forall₂_map_right_iff, List.forall₂_same]
    exact fun a _ => h a
  have hkeys : (Parameters.ofTexts texts).has Parameters.baseDirectory =
      decide ("build.basedir" ∈ texts.keys) := by
    rw [Bool.eq_iff_iff, Keyed.has_iff, decide_eq_true_iff, Keyed.keys, Parameters.ofTexts,
      List.map_map]
    rfl
  rw [properties, hgiven fun _ => rfl]
  simp only [bind, Except.bind, hkeys, decide_eq_true_eq]
  rfl

theorem projectTarget_eq (configuration : String) (p : Project) (needed : List Project) :
    projectTarget configuration p needed = .element "target"
      (("name", p.name) :: (depends (needed.map (·.name)) ++
        [("description", "Build " ++ p.outputFile)]))
      [leaf "mkdir" [("dir", baseReference)],
        compiler needed p (p.configuration configuration)] := by
  rw [projectTarget, flag_depends, List.append_assoc]
  rfl

theorem buildTarget_eq (o : BuildOrder) :
    buildTarget o = leaf "target" (("name", "build") :: (depends o.names ++
      [("description", "Build every project in the solution")])) := by
  have hempty : o.projects.isEmpty = o.names.isEmpty := List.isEmpty_map.symm
  rw [buildTarget, hempty, flag_depends, List.append_assoc]
  rfl

theorem cleanTarget_eq (o : BuildOrder) (configuration : String) :
    cleanTarget o configuration =
      .element "target" [("name", "clean"), ("description", "Delete build outputs")]
        (o.projects.flatMap fun p =>
          let file := (p.configuration configuration).documentationFile
          delete (artifact p) ::
            if file = "" then [] else
              [delete (baseReference ++ "\\" ++ DescriptorPath.fileName file)]) := by
  have hdocumentation : ∀ c : Configuration, ((documentation? c).map delete).toList =
      if c.documentationFile = "" then [] else
        [delete (baseReference ++ "\\" ++ DescriptorPath.fileName c.documentationFile)] := by
    intro c
    rw [documentation?]
    split <;> rfl
  simp only [cleanTarget, hdocumentation]

/-- A script is a tree with one target for each project, after a comment on its origin. -/
theorem document_ofTexts {o : BuildOrder} {texts : Keyed String} {solutionName : String}
    {tree : Node} :
    document o (Parameters.ofTexts texts) solutionName = .ok tree ↔
      (∀ p ∈ o.projects, o.dependencies p = .ok (o.needed p)) ∧ .element "project"
        [("name", scriptName texts solutionName), ("default", "build"), ("basedir", ".")]
        ((if solutionName = "" then []
          else [Node.comment (" Generated by slingshot from " ++ solutionName ++ ".sln ")]) ++
            scriptContent o texts) = tree := by
  simp only [document, projectName_ofTexts, properties_ofTexts, Fallible.bind_eq_ok,
    Except.ok.injEq, BuildOrder.mapM_dependencies, scriptContent, ← projectTarget_eq,
    ← buildTarget_eq, ← cleanTarget_eq, pure, Except.pure]
  constructor
  · rintro ⟨_, rfl, _, rfl, _, ⟨hneeded, rfl⟩, rfl⟩
    exact ⟨hneeded, by simp only [List.append_assoc]⟩
  · rintro ⟨hneeded, rfl⟩
    exact ⟨_, rfl, _, rfl, _, ⟨hneeded, rfl⟩, by simp only [List.append_assoc]⟩

/-! ## Reading a script -/

/-- Two characters that follow each other do not go over a character that is none of them. -/
theorem infix_append_cons {a b c : Char} {l more : List Char} (hc : c ∉ [a, b])
    (h : [a, b] <:+: l ++ c :: more) : [a, b] <:+: l ∨ [a, b] <:+: more := by
  simp only [List.mem_cons, List.not_mem_nil, or_false, not_or] at hc
  induction l with
  | nil =>
    rw [List.nil_append, List.infix_cons_iff] at h
    rcases h with ⟨_, h⟩ | h
    · cases h
      exact absurd rfl hc.1
    · exact .inr h
  | cons x l ih =>
    rw [List.cons_append, List.infix_cons_iff] at h
    rcases h with ⟨tail, h⟩ | h
    · cases l with
      | nil =>
        cases h
        exact absurd rfl hc.2
      | cons y l =>
        cases h
        exact .inl ⟨[], l, rfl⟩
    · exact (ih h).imp (fun h => h.trans (List.suffix_cons x l).isInfix) id

/-- A script can name its origin in a comment. -/
theorem isRemark_origin {solutionName : String} (h : IsText solutionName)
    (hhyphens : ¬ ['-', '-'] <:+: solutionName.toList) :
    IsRemark (" Generated by slingshot from " ++ solutionName ++ ".sln ").toList := by
  refine ⟨Over.append (Over.append (by decide) h) (by decide), fun hinfix => ?_⟩
  have htext : (" Generated by slingshot from " ++ solutionName ++ ".sln ").toList ++ ['-'] =
      " Generated by slingshot from".toList ++
        ' ' :: (solutionName.toList ++ '.' :: "sln -".toList) := by
    simp
  rw [htext] at hinfix
  rcases infix_append_cons (by decide) hinfix with hinfix | hinfix
  · exact absurd hinfix (by decide)
  · rcases infix_append_cons (by decide) hinfix with hinfix | hinfix
    · exact hhyphens hinfix
    · exact absurd hinfix (by decide)

theorem outline_compiler (needed : List Project) (p : Project) (c : Configuration) :
    (compiler needed p c).outline = [compiler needed p c] := by
  have hfiles : ∀ tag attributes files, ∀ node ∈ fileSet tag attributes files,
      node.outline = [node] := by
    intro tag attributes files
    rw [fileSet]
    split
    · simp
    · rw [List.forall_mem_singleton]
      exact outline_element (List.forall_mem_map.2 fun _ _ => rfl)
  refine outline_element ?_
  simp only [List.forall_mem_append]
  exact ⟨⟨hfiles _ _ _, hfiles _ _ _⟩, hfiles _ _ _⟩

/-- The elements of a script have no text between them. -/
theorem outlineAll_scriptContent (o : BuildOrder) (texts : Keyed String) :
    outlineAll (scriptContent o texts) = scriptContent o texts := by
  refine outlineAll_eq_self ?_
  simp only [scriptContent, List.forall_mem_append, List.forall_mem_map, List.forall_mem_cons]
  refine ⟨⟨⟨fun _ _ => rfl, ?_⟩, fun p _ => ?_⟩, rfl, ?_, by simp⟩
  · split <;> simp [leaf, Node.outline, outlineAll]
  · refine outline_element ?_
    rw [List.forall_mem_cons, List.forall_mem_singleton]
    exact ⟨rfl, outline_compiler _ _ _⟩
  · refine outline_element fun node hnode => ?_
    obtain ⟨p, -, hnode⟩ := List.mem_flatMap.1 hnode
    rcases List.mem_cons.1 hnode with rfl | hnode
    · rfl
    · split at hnode
      · cases hnode
      · rw [List.mem_singleton.1 hnode]
        rfl

theorem legible_scriptContent {o : BuildOrder} {texts : Keyed String}
    (h : ∀ p ∈ o.projects, p.TextsOver (isXmlChar · = true))
    (hneeds : ∀ p ∈ o.projects, o.Needs p (o.needed p))
    (htexts : ∀ a ∈ texts, IsText a.1 ∧ IsText a.2) :
    ∀ node ∈ scriptContent o texts, Legible node := by
  have hproperty : ∀ name value, IsText name → IsText value →
      Legible (leaf "property" [("name", name), ("value", value)]) := fun name value hname hvalue =>
    legible_leaf ["name", "value"] (by decide) (by decide) (List.Sublist.refl _)
      (by simpa using ⟨hname, hvalue⟩)
  have husual : Legible
      (leaf "property" [("name", "build.basedir"), ("value", "bin"), ("overwrite", "false")]) :=
    legible_leaf ["name", "value", "overwrite"] (by decide) (by decide) (List.Sublist.refl _)
      (by decide)
  simp only [scriptContent, ← projectTarget_eq, ← buildTarget_eq, ← cleanTarget_eq,
    List.forall_mem_append, List.forall_mem_map, List.forall_mem_cons]
  refine ⟨⟨⟨fun a ha => hproperty _ _ (htexts a ha).1 (htexts a ha).2, ?_⟩, fun p hp => ?_⟩,
    legible_buildTarget h, legible_cleanTarget h _, by simp⟩
  · split
    · simp
    · simpa using husual
  · exact legible_projectTarget (h p hp) (fun q hq => h q ((hneeds p hp).mem hq)) _

/-- The text of a script is a document of a declaration and the indented text of a tree. -/
theorem documentText_eq (tree : Node) :
    documentText tree = String.ofList (Document.utf8Declaration ++
      '\n' :: ((tree.indent 0).render ++ ['\n'])) := by
  have hdeclaration : declaration.toList = Document.utf8Declaration ++ ['\n'] := by decide
  rw [documentText, ← String.toList_inj, String.toList_append, String.toList_append, hdeclaration]
  simp

theorem parse_documentText {name : String} {attributes : Keyed String} {content : List Node}
    (h : Legible (.element name attributes content)) :
    ∃ content', outlineAll content' = outlineAll content ∧
      Document.parse (encode (documentText (.element name attributes content))) =
        .ok ⟨name, attributes, content'⟩ := by
  rw [documentText_eq]
  exact Document.parse_written h

/-- A script is written where no project has a name that every script has. -/
theorem script_eq_ok {o : BuildOrder} {m : Parameters} {solutionName text : String} :
    script o m solutionName = .ok text ↔
      (∀ p ∈ o.projects, p.name ∉ reservedTargets) ∧
        ∃ tree, document o m solutionName = .ok tree ∧ documentText tree = text := by
  have hreserved : (o.projects.find? fun p => reservedTargets.contains p.name) = none ↔
      ∀ p ∈ o.projects, p.name ∉ reservedTargets := by
    simp [List.find?_eq_none]
  rw [script, ← hreserved]
  cases o.projects.find? fun p => reservedTargets.contains p.name with
  | some p => simp
  | none => simpa using Fallible.map_eq_ok

theorem exists_script {o : BuildOrder} (hreserved : ∀ p ∈ o.projects, p.name ∉ reservedTargets)
    (hneeded : ∀ p ∈ o.projects, o.dependencies p = .ok (o.needed p)) (texts : Keyed String)
    (solutionName : String) :
    ∃ text, script o (Parameters.ofTexts texts) solutionName = .ok text :=
  ⟨_, script_eq_ok.2 ⟨hreserved, _, document_ofTexts.2 ⟨hneeded, rfl⟩, rfl⟩⟩

theorem isText_scriptName {texts : Keyed String} {solutionName : String}
    (htexts : ∀ a ∈ texts, IsText a.1 ∧ IsText a.2) (hname : IsText solutionName) :
    IsText (scriptName texts solutionName) := by
  have hgiven : IsText ((texts.get? "project.name").getD "") := by
    cases hget : texts.get? "project.name" with
    | none => exact over_empty
    | some value => exact (htexts _ (Keyed.mem_of_get? hget)).2
  rw [scriptName]
  cases hfirst : [(texts.get? "project.name").getD "", solutionName].find? (· ≠ "") with
  | none => exact (by decide : IsText "solution")
  | some s =>
    have hmem := List.mem_of_find?_eq_some hfirst
    simp only [List.mem_cons, List.not_mem_nil, or_false] at hmem
    rcases hmem with rfl | rfl
    · exact hgiven
    · exact hname

theorem attributes_script {texts : Keyed String} {solutionName : String}
    (htexts : ∀ a ∈ texts, IsText a.1 ∧ IsText a.2) (hname : IsText solutionName) :
    Attributes
      [("name", scriptName texts solutionName), ("default", "build"), ("basedir", ".")] := by
  refine ⟨?_, (by decide : ["name", "default", "basedir"].Nodup), ?_⟩
  · simp only [List.forall_mem_cons]
    exact ⟨by decide, by decide, by decide, by simp⟩
  · simp only [List.forall_mem_cons]
    exact ⟨isText_scriptName htexts hname, by decide, by decide, by simp⟩

/-- A script is read as what it was written for. -/
theorem script_parse {o : BuildOrder} {texts : Keyed String} {solutionName text : String}
    (horder : ∀ p ∈ o.projects, p.TextsOver (isXmlChar · = true))
    (htexts : ∀ a ∈ texts, IsText a.1 ∧ IsText a.2) (hname : IsText solutionName)
    (hhyphens : ¬ ['-', '-'] <:+: solutionName.toList)
    (h : script o (Parameters.ofTexts texts) solutionName = .ok text) :
    (∀ p ∈ o.projects, o.Needs p (o.needed p)) ∧
      ∃ content, outlineAll content = scriptContent o texts ∧
        Document.parse (encode text) = .ok ⟨"project",
          [("name", scriptName texts solutionName), ("default", "build"), ("basedir", ".")],
          content⟩ := by
  obtain ⟨-, tree, hdocument, rfl⟩ := script_eq_ok.1 h
  obtain ⟨hneeded, rfl⟩ := document_ofTexts.1 hdocument
  have hneeds : ∀ p ∈ o.projects, o.Needs p (o.needed p) := fun p hp =>
    BuildOrder.needs_of_dependencies (hneeded p hp)
  have hlegible : Legible (.element "project"
      [("name", scriptName texts solutionName), ("default", "build"), ("basedir", ".")]
      ((if solutionName = "" then []
        else [Node.comment (" Generated by slingshot from " ++ solutionName ++ ".sln ")]) ++
          scriptContent o texts)) := by
    refine .element (by decide) (attributes_script htexts hname) ?_
    rw [List.forall_mem_append]
    refine ⟨?_, legible_scriptContent horder hneeds htexts⟩
    split
    · simp
    · exact List.forall_mem_singleton.2 (.comment (isRemark_origin hname hhyphens))
  obtain ⟨content, hcontent, hparse⟩ := parse_documentText hlegible
  refine ⟨hneeds, content, ?_, hparse⟩
  have horigin : outlineAll (if solutionName = "" then []
      else [Node.comment (" Generated by slingshot from " ++ solutionName ++ ".sln ")]) = [] := by
    split <;> rfl
  rw [hcontent, outlineAll_append, horigin, outlineAll_scriptContent, List.nil_append]

/-! ## Targets -/

/-- The names of the targets of a build file. -/
def targetNames (e : Element) : List String := (e.childrenNamed "target").map (·.value "name")

/-- The name of a target. -/
def targetName? : Node → Option String
  | .element name attributes _ =>
    if localPart name = "target" then some ((attributes.get? "name").getD "") else none
  | _ => none

theorem targetNames_eq (e : Element) : targetNames e = e.content.filterMap targetName? := by
  obtain ⟨name, attributes, content⟩ := e
  induction content with
  | nil => rfl
  | cons node content ih =>
    cases node with
    | element n a c =>
      simp only [targetNames, Element.childrenNamed, Element.children, List.filterMap_cons,
        Element.ofNode?, List.filter_cons, targetName?, Element.localName] at ih ⊢
      by_cases hn : localPart n = "target"
      · simp only [hn, decide_true, if_true, List.map_cons, ih]
        rfl
      · simp [hn, ih]
    | text s => exact ih
    | comment s => exact ih

theorem filterMap_targetName?_outlineAll (content : List Node) :
    (outlineAll content).filterMap targetName? = content.filterMap targetName? := by
  induction content with
  | nil => rfl
  | cons node content ih =>
    rw [outlineAll, List.filterMap_append, ih]
    cases node with
    | element n a c =>
      rw [Node.outline, ← List.filterMap_append]
      rfl
    | text s => rfl
    | comment s => rfl

theorem targetNames_scriptContent {e : Element} {o : BuildOrder} {texts : Keyed String}
    (h : outlineAll e.content = scriptContent o texts) :
    targetNames e = o.names ++ ["build", "clean"] := by
  have hproperties : texts.filterMap (targetName? ∘ fun (name, value) =>
      leaf "property" [("name", name), ("value", value)]) = [] :=
    List.filterMap_eq_nil_iff.2 fun _ _ => rfl
  have husual : (if "build.basedir" ∈ texts.keys then [] else [leaf "property"
      [("name", "build.basedir"), ("value", "bin"),
        ("overwrite", "false")]]).filterMap targetName? = [] := by
    split <;> rfl
  have hprojects {f : Project → Node} (hf : ∀ p, targetName? (f p) = some p.name) :
      o.projects.filterMap (targetName? ∘ f) = o.names := by
    rw [BuildOrder.names, ← List.filterMap_eq_map]
    exact congrArg (List.filterMap · _) (funext hf)
  rw [targetNames_eq, ← filterMap_targetName?_outlineAll, h, scriptContent]
  simp only [List.filterMap_append, List.filterMap_map, hproperties, husual, List.nil_append]
  rw [hprojects fun _ => rfl]
  rfl

/-- Reading a NAnt script as XML gives what it was written for, attribute value for attribute
value; where identifiers differ from project to project, so do the names of its targets. -/
theorem script_parses {ps : List Project} {o : BuildOrder} {texts : Keyed String}
    {solutionName text : String} (horder : BuildOrder.ofProjects ps = .ok o)
    (hnames : (ps.map (·.name)).Nodup) (hlegible : ∀ p ∈ ps, p.TextsOver (isXmlChar · = true))
    (htexts : ∀ a ∈ texts, IsText a.1 ∧ IsText a.2) (hname : IsText solutionName)
    (hhyphens : ¬ ['-', '-'] <:+: solutionName.toList)
    (h : script o (Parameters.ofTexts texts) solutionName = .ok text) :
    ∃ e, Document.parse (encode text) = .ok e ∧ e.name = "project" ∧
      e.attributes = [("name", scriptName texts solutionName), ("default", "build"),
        ("basedir", ".")] ∧
      outlineAll e.content = scriptContent o texts ∧
      (∀ p ∈ o.projects, o.Needs p (o.needed p)) ∧
      ((ps.map (·.id)).Nodup → (targetNames e).Nodup) := by
  have hmem : ∀ p ∈ o.projects, p ∈ ps := fun p => BuildOrder.mem_of_ofProjects horder
  obtain ⟨hneeds, content, hcontent, hparse⟩ := script_parse (fun p hp => hlegible p (hmem p hp))
    htexts hname hhyphens h
  refine ⟨_, hparse, rfl, rfl, hcontent, hneeds, fun hid => ?_⟩
  have hperm : o.projects.Perm ps := (BuildOrder.ofProjects_eq_ok hid horder).2.2.perm
  have hreserved : ∀ s ∈ o.names, s ∉ ["build", "clean"] :=
    List.forall_mem_map.2 (script_eq_ok.1 h).1
  have hnodup : o.names.Nodup := (hperm.map Project.name).nodup_iff.2 hnames
  rw [targetNames_scriptContent hcontent, List.nodup_append]
  exact ⟨hnodup, by decide, fun a ha b hb hab => hreserved a ha (hab ▸ hb)⟩

/-- A library whose texts have characters with a meaning in XML. -/
def quotedLibrary : Project :=
  { id := "L", name := "Q & A", path := "lib\\Library.vbproj", kind := .vb, index := 1
    rootNamespace := "R<T>", imports := ["System"] }

/-- A program that needs the library. -/
def quotedProgram : Project :=
  ["L"].foldl .addDependency
    { id := "P", name := "\"Pro\"", path := "Program.csproj", outputType := "Exe"
      files := [⟨"a<b>.cs", .compile⟩, ⟨"Strings.resx", .embeddedResource⟩]
      configurations := [("Debug", { name := "Debug", documentationFile := "doc\\Program.xml" })] }

/-- Parameters whose values are escaped. -/
def quotedTexts : Keyed String := [("note", "a\t\"b\""), ("build.configuration", "Debug")]

theorem script_parses_quoted :
    ∃ o text e, BuildOrder.ofProjects [quotedProgram, quotedLibrary] = .ok o ∧
      ([quotedProgram, quotedLibrary].map (·.name)).Nodup ∧
      (∀ p ∈ [quotedProgram, quotedLibrary], p.TextsOver (isXmlChar · = true)) ∧
      (∀ a ∈ quotedTexts, IsText a.1 ∧ IsText a.2) ∧ IsText "Pair" ∧
      ¬ ['-', '-'] <:+: "Pair".toList ∧
      script o (Parameters.ofTexts quotedTexts) "Pair" = .ok text ∧
      Document.parse (encode text) = .ok e ∧ e.name = "project" ∧
      e.attributes = [("name", "Pair"), ("default", "build"), ("basedir", ".")] ∧
      outlineAll e.content = scriptContent o quotedTexts ∧
      (∀ p ∈ o.projects, o.Needs p (o.needed p)) ∧ (targetNames e).Nodup := by
  have horder : BuildOrder.ofProjects [quotedProgram, quotedLibrary] =
      .ok ⟨[quotedLibrary, quotedProgram]⟩ := by
    rw [BuildOrder.ofProjects_eq_arrange (by decide) (by cbv)]
    decide
  have hid : ([quotedProgram, quotedLibrary].map (·.id)).Nodup := by decide
  have hnames : ([quotedProgram, quotedLibrary].map (·.name)).Nodup := by decide
  have hlegible : ∀ p ∈ [quotedProgram, quotedLibrary], p.TextsOver (isXmlChar · = true) := by
    rw [List.forall_mem_cons, List.forall_mem_singleton]
    constructor
    · constructor <;> decide
    · constructor <;> decide
  have htexts : ∀ a ∈ quotedTexts, IsText a.1 ∧ IsText a.2 := by decide
  have hname : IsText "Pair" := by decide
  have hhyphens : ¬ ['-', '-'] <:+: "Pair".toList := by decide
  have hreserved : ∀ p ∈ [quotedLibrary, quotedProgram], p.name ∉ reservedTargets := by decide
  obtain ⟨text, htext⟩ := exists_script hreserved (fun p hp => BuildOrder.dependencies_needed
    (BuildOrder.exists_dependencies hid horder hp)) quotedTexts "Pair"
  obtain ⟨e, hparse, hproject, hattributes, hcontent, hneeds, hnodup⟩ :=
    script_parses horder hnames hlegible htexts hname hhyphens htext
  exact ⟨_, text, e, horder, hnames, hlegible, htexts, hname, hhyphens, htext, hparse, hproject,
    hattributes, hcontent, hneeds, hnodup hid⟩

/-- A project without files. -/
def emptyProject (name : String) : Project := { id := "X", name, path := "" }

theorem textsOver_emptyProject {name : String} (h : IsText name) :
    (emptyProject name).TextsOver (isXmlChar · = true) :=
  ⟨h, over_empty, over_empty, over_empty, by simp [emptyProject], by simp [emptyProject],
    by simp [emptyProject], by simp [emptyProject]⟩

/-- Projects with one identifier are one project to a build order, which has it as often as there
are such projects: a script has a target for each time. -/
theorem targetNames_shared_id :
    ∃ o text e, BuildOrder.ofProjects [emptyProject "A", emptyProject "B"] = .ok o ∧
      ([emptyProject "A", emptyProject "B"].map (·.name)).Nodup ∧
      (∀ p ∈ [emptyProject "A", emptyProject "B"], p.TextsOver (isXmlChar · = true)) ∧
      script o (Parameters.ofTexts []) "" = .ok text ∧ Document.parse (encode text) = .ok e ∧
      targetNames e = ["B", "B", "build", "clean"] ∧ ¬ (targetNames e).Nodup := by
  have horder : BuildOrder.ofProjects [emptyProject "A", emptyProject "B"] =
      .ok ⟨[emptyProject "B", emptyProject "B"]⟩ := by
    rw [BuildOrder.ofProjects_eq_arrange (by decide) (by cbv)]
    decide
  have hlegible {names : List String} (h : ∀ s ∈ names, IsText s) :
      ∀ p ∈ names.map emptyProject, p.TextsOver (isXmlChar · = true) :=
    List.forall_mem_map.2 fun s hs => textsOver_emptyProject (h s hs)
  have hneeded : ∀ p ∈ [emptyProject "B", emptyProject "B"],
      BuildOrder.dependencies ⟨[emptyProject "B", emptyProject "B"]⟩ p = .ok [] := by
    rw [List.forall_mem_cons, List.forall_mem_singleton, and_self]
    cbv
  obtain ⟨text, htext⟩ := @exists_script ⟨[emptyProject "B", emptyProject "B"]⟩ (by decide)
    (fun p hp => BuildOrder.dependencies_needed ⟨_, hneeded p hp⟩) [] ""
  obtain ⟨-, content, hcontent, hparse⟩ :=
    @script_parse ⟨[emptyProject "B", emptyProject "B"]⟩ [] "" text
      (@hlegible ["B", "B"] (by decide)) (by simp) (by decide) (by decide) htext
  have hnames : targetNames ⟨"project", [("name", scriptName [] ""), ("default", "build"),
      ("basedir", ".")], content⟩ = ["B", "B", "build", "clean"] := by
    rw [targetNames_scriptContent hcontent]
    decide
  exact ⟨_, text, _, horder, by decide, @hlegible ["A", "B"] (by decide), htext, hparse, hnames,
    by rw [hnames]; decide⟩

end NAnt

end SolutionScript
