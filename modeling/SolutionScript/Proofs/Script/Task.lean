import SolutionScript.Proofs.Keyed
import SolutionScript.Proofs.Script.Compilation

/-!
# Compilations in build files

The compilations of a build file are the compilers' tasks in its targets. Those of a NAnt script
are the compilations of its projects, in build order (`compilations_scriptElement`), and depend on
neither text nor comments (`compilations_outlined`).
-/

namespace SolutionScript.NAnt

open Text Xml

/-! ## Reading a build file -/

/-- The files that an element includes in its sets with a name. -/
def included (e : Element) (name : String) : List String :=
  (e.childrenNamed name).flatMap fun set => (set.childrenNamed "include").map (·.value "name")

/-- The language of a compiler's task. -/
def taskLanguage? : String → Option Language
  | "csc" => some .csharp
  | "vbc" => some .vb
  | _ => none

/-- The compilation that an element is the task for. -/
def compilation? (e : Element) : Option Compilation :=
  (taskLanguage? e.localName).map fun language => {
    language
    target := e.value "target"
    artifact := e.value "output"
    debug := e.value "debug" = "true"
    defines := e.value "define"
    allowUnsafe := e.value "unsafe" = "true"
    checked := e.value "checked" = "true"
    documentation := e.value "doc"
    rootNamespace := e.value "rootnamespace"
    imports := e.value "imports"
    sources := included e "sources"
    references := included e "references" }

/-- The compilations in the targets of a build file. -/
def compilations (e : Element) : List Compilation :=
  (e.childrenNamed "target").flatMap fun target => target.children.filterMap compilation?

theorem included_outlined (e : Element) (name : String) :
    included e.outlined name = included e name := by
  rw [included, included, Element.childrenNamed_outlined, List.flatMap_map]
  refine List.flatMap_congr fun set _ => ?_
  rw [Element.childrenNamed_outlined, List.map_map]
  rfl

theorem compilation?_outlined (e : Element) : compilation? e.outlined = compilation? e := by
  rw [compilation?, compilation?]
  simp only [included_outlined, Element.value_outlined, Element.localName_outlined]
  rfl

theorem compilations_outlined (e : Element) : compilations e.outlined = compilations e := by
  rw [compilations, compilations, Element.childrenNamed_outlined, List.flatMap_map]
  refine List.flatMap_congr fun target _ => ?_
  rw [Element.children_outlined, List.filterMap_map]
  exact congrArg (List.filterMap · _) (funext compilation?_outlined)

/-! ## The tasks of a script -/

/-- The task that compiles a project. -/
def compilerElement (needed : List Project) (p : Project) (c : Configuration) : Element where
  name := compilerTask p.kind
  attributes := compilerAttributes p c
  content :=
    fileSet "sources" [] (p.sourceFiles.map fun f => p.resolve f.relativePath) ++
      fileSet "references" [] (referencePaths needed p) ++
      fileSet "resources" (optional "prefix" p.rootNamespace ++ [("dynamicprefix", "true")])
        ((p.resxFiles ++ p.resourceFiles).map fun f => p.resolve f.relativePath)

/-- The files that sets of files in some content include, if they have the name. -/
def includedIn (content : List Node) (name : String) : List String :=
  ((content.filterMap Element.ofNode?).filter (·.localName = name)).flatMap fun set =>
    (set.childrenNamed "include").map (·.value "name")

theorem includedIn_append (content more : List Node) (name : String) :
    includedIn (content ++ more) name = includedIn content name ++ includedIn more name := by
  rw [includedIn, List.filterMap_append, List.filter_append, List.flatMap_append]
  rfl

/-- A set of files includes its files, if it has the name. -/
theorem includedIn_fileSet {tag : String} (attributes : Keyed String) (files : List String)
    {name : String} (htag : localPart tag = tag) :
    includedIn (fileSet tag attributes files) name = if tag = name then files else [] := by
  rw [fileSet]
  by_cases hfiles : files = []
  · subst hfiles
    simp [includedIn]
  · have hset : Element.localName ⟨tag, ("basedir", ".") :: attributes,
        files.map fun file => leaf "include" [("name", file)]⟩ = tag := htag
    have hinclude : Element.childrenNamed ⟨tag, ("basedir", ".") :: attributes,
        files.map fun file => leaf "include" [("name", file)]⟩ "include" =
          files.map fun file => ⟨"include", [("name", file)], []⟩ := by
      have hname (file : String) :
          Element.localName ⟨"include", [("name", file)], []⟩ = "include" :=
        (by decide : localPart "include" = "include")
      rw [Element.childrenNamed, Element.children, List.filterMap_map, List.filter_eq_self.2]
      · exact congrFun List.filterMap_eq_map files
      · intro e he
        obtain ⟨file, -, hfile⟩ := List.mem_filterMap.1 he
        cases hfile
        exact decide_eq_true (hname file)
    have hnodes : [Node.element tag (("basedir", ".") :: attributes)
        (files.map fun file => leaf "include" [("name", file)])].filterMap Element.ofNode? =
          [⟨tag, ("basedir", ".") :: attributes,
            files.map fun file => leaf "include" [("name", file)]⟩] := rfl
    rw [if_neg (by simpa using hfiles), includedIn, hnodes]
    by_cases h : tag = name
    · subst h
      rw [List.filter_cons_of_pos (by simp [hset]), List.filter_nil, List.flatMap_singleton,
        hinclude, List.map_map, if_pos rfl]
      exact List.map_id _
    · rw [List.filter_cons_of_neg (by simpa [hset] using h), if_neg h]
      rfl

theorem get?_flag (isOn : Bool) (name value sought : String) :
    (flag isOn name value).get? sought = if isOn ∧ name = sought then some value else none := by
  cases isOn <;> simp [flag, Keyed.get?]

theorem get?_optional (name value sought : String) :
    (optional name value).get? sought =
      if value ≠ "" ∧ name = sought then some value else none := by
  rw [optional]
  by_cases h : value = "" <;> simp [h, Keyed.get?]

section

variable (needed : List Project) (p : Project) (c : Configuration)

theorem included_compilerElement {name : String} (h : name ≠ "resources") :
    included (compilerElement needed p c) name =
      (if "sources" = name then p.sourceFiles.map fun f => p.resolve f.relativePath else []) ++
        if "references" = name then referencePaths needed p else [] := by
  show includedIn (compilerElement needed p c).content name = _
  rw [compilerElement, includedIn_append, includedIn_append, includedIn_fileSet _ _ (by decide),
    includedIn_fileSet _ _ (by decide), includedIn_fileSet _ _ (by decide), if_neg (Ne.symm h),
    List.append_nil]

theorem artifact_eq : artifact p = builtPath baseReference p.outputFile := String.append_assoc

theorem referencePaths_eq : referencePaths needed p =
    p.references.map (referencePathIn baseReference p) ++
      needed.map fun q => builtPath baseReference q.outputFile := by
  have hreference : referencePath p = referencePathIn baseReference p := funext fun r => by
    rw [referencePath, referencePathIn, builtPath, String.append_assoc]
  rw [referencePaths, hreference, funext artifact_eq]

/-- The task of a project is read as its compilation. -/
theorem compilation?_compilerElement : compilation? (compilerElement needed p c) =
    some (compilationOf baseReference needed p c) := by
  have hvalue (name : String) : (compilerElement needed p c).value name =
      ((compilerAttributes p c).get? name).getD "" := rfl
  have hname : (compilerElement needed p c).localName = compilerTask p.kind := by
    show localPart (compilerTask p.kind) = _
    cases p.kind <;> decide
  have hlanguage : taskLanguage? (compilerTask p.kind) = some p.kind := by
    cases p.kind <;> rfl
  -- An attribute that is left out has the value that it is left out for.
  have hflag (isOn : Bool) :
      decide ((if isOn = true then some "true" else none).getD "" = "true") = isOn := by
    cases isOn <;> decide
  have hlist (parts : List String) :
      (if parts = [] then none else some (join "," parts)).getD "" = join "," parts := by
    cases parts <;> rfl
  have hoptional (s : String) : (if s = "" then none else some s).getD "" = s := by
    split
    · rename_i h
      exact h.symm
    · rfl
  have hdocumentation : (documentation? c).getD "" = if c.documentationFile = "" then ""
      else builtPath baseReference (DescriptorPath.fileName c.documentationFile) := by
    rw [documentation?, builtPath, String.append_assoc]
    split <;> rfl
  rw [compilation?, hname, hlanguage]
  simp only [hvalue, included_compilerElement needed p c (by decide : "sources" ≠ "resources"),
    included_compilerElement needed p c (by decide : "references" ≠ "resources"), referencePaths_eq]
  rw [compilationOf]
  cases hkind : p.kind with
  | csharp =>
    simp only [compilerAttributes, languageAttributes, hkind, Keyed.get?_append, get?_flag,
      get?_optional, Keyed.get?]
    simp [artifact_eq, hflag, hlist, hoptional, ← hdocumentation]
  | vb =>
    simp only [compilerAttributes, languageAttributes, hkind, Keyed.get?_append, get?_flag,
      get?_optional, Keyed.get?]
    simp [artifact_eq, hlist, hoptional]

end

/-- The compilations of a script are those of the projects, in build order. -/
theorem compilations_scriptElement (o : BuildOrder) (texts : Keyed String) (solutionName : String) :
    compilations (scriptElement o texts solutionName) =
      orderCompilations baseReference o (Parameters.ofTexts texts).configurationName := by
  have hother {tag : String} (attributes : Keyed String) (content : List Node)
      (h : taskLanguage? (localPart tag) = none) :
      compilation? ⟨tag, attributes, content⟩ = none := by
    rw [compilation?, Element.localName, h]
    rfl
  have hproject (p : Project) :
      (targetElement o (Parameters.ofTexts texts).configurationName p).children =
        [⟨"mkdir", [("dir", baseReference)], []⟩, compilerElement (o.needed p) p
          (p.configuration (Parameters.ofTexts texts).configurationName)] := rfl
  have hclean : (cleanElement o (Parameters.ofTexts texts).configurationName).children.filterMap
      compilation? = [] := by
    rw [List.filterMap_eq_nil_iff]
    intro e he
    obtain ⟨node, hnode, hchild⟩ := List.mem_filterMap.1 he
    obtain ⟨p, -, hnode⟩ := List.mem_flatMap.1 hnode
    obtain ⟨file, rfl⟩ : ∃ file, node = delete file := by
      rcases List.mem_cons.1 hnode with rfl | hnode
      · exact ⟨_, rfl⟩
      · split at hnode
        · cases hnode
        · exact ⟨_, List.mem_singleton.1 hnode⟩
    cases hchild
    exact hother _ _ (by decide)
  have hbuild : (buildElement o).children.filterMap compilation? = [] := rfl
  rw [compilations, childrenNamed_target, List.flatMap_append, List.flatMap_map, orderCompilations,
    List.map_eq_flatMap, List.flatMap_cons, List.flatMap_singleton, hbuild, hclean, List.append_nil,
    List.append_nil]
  refine List.flatMap_congr fun p _ => ?_
  rw [hproject, List.filterMap_cons_none (hother _ _ (by decide)),
    List.filterMap_cons_some (compilation?_compilerElement _ _ _), List.filterMap_nil]

end SolutionScript.NAnt
