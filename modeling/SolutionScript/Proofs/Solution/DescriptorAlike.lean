import SolutionScript.Proofs.Xml.Alike
import SolutionScript.Solution.Descriptor.Read

/-!
# Descriptors that read alike

The readers of descriptors look at local names, at some attributes (`readNames`) and at texts
without the blanks around them only: descriptors that are alike up to that are read as the same
project with the same references (`Attributes.read_alike`, `Properties.read_alike`).
-/

namespace SolutionScript.Descriptor

open Xml Element

/-- The attributes that the readers of descriptors look at. -/
def readNames : List String :=
  ["Name", "OutputPath", "DocumentationFile", "DebugSymbols", "AllowUnsafeBlocks",
    "CheckForOverflowUnderflow", "DefineConstants", "AssemblyName", "OutputType", "RootNamespace",
    "Project", "HintPath", "Private", "Guid", "Namespace", "RelPath", "BuildAction", "Condition",
    "Include", "Sdk"]

variable {e e' root root' : Element} {es es' : List Element} {α β : Type}

section

variable (h : List.Forall₂ (Alike readNames) es es')
include h

theorem map_alike {f : Element → α} (hf : ∀ e e', Alike readNames e e' → f e = f e') :
    es.map f = es'.map f := by
  induction h with
  | nil => rfl
  | cons he _ ih => rw [List.map_cons, List.map_cons, hf _ _ he, ih]

theorem filterMap_alike {f : Element → Option α}
    (hf : ∀ e e', Alike readNames e e' → f e = f e') : es.filterMap f = es'.filterMap f := by
  have hmap : (es.map f).filterMap id = (es'.map f).filterMap id := by rw [map_alike h hf]
  rwa [List.filterMap_map, List.filterMap_map] at hmap

theorem mapM_alike {f : Element → Except Failure α}
    (hf : ∀ e e', Alike readNames e e' → f e = f e') : es.mapM f = es'.mapM f := by
  have hmap : (es.map f).mapM id = (es'.map f).mapM id := by rw [map_alike h hf]
  rwa [List.mapM_map, List.mapM_map] at hmap

theorem foldl_alike {f : β → Element → β} (hf : ∀ b e e', Alike readNames e e' → f b e = f b e')
    (b : β) : es.foldl f b = es'.foldl f b := by
  induction h generalizing b with
  | nil => rfl
  | cons he _ ih => rw [List.foldl_cons, List.foldl_cons, hf _ _ _ he, ih]

end

theorem childText_alike (h : Alike readNames e e') (name : String) :
    childText e name = childText e' name := by
  have hchild := h.child? name
  rw [childText, childText]
  generalize e.child? name = o, e'.child? name = o' at hchild
  cases hchild with
  | none => rfl
  | some hchild => exact hchild.trim_text

theorem childrenOf_alike {o o' : Option Element} (h : Option.Rel (Alike readNames) o o')
    (name : String) : List.Forall₂ (Alike readNames) (childrenOf o name) (childrenOf o' name) := by
  cases h with
  | none => exact .nil
  | some he => exact he.childrenNamed name

theorem child?_alike {o o' : Option Element} (h : Option.Rel (Alike readNames) o o')
    (name : String) :
    Option.Rel (Alike readNames) (o.bind (·.child? name)) (o'.bind (·.child? name)) := by
  cases h with
  | none => exact .none
  | some he => exact he.child? name

/-! ## Descriptors with attributes -/

namespace Attributes

theorem readConfiguration_alike (h : Alike readNames e e') :
    readConfiguration e = readConfiguration e' := by
  simp only [readConfiguration, h.value_eq (by decide : "Name" ∈ readNames),
    h.value_eq (by decide : "OutputPath" ∈ readNames),
    h.value_eq (by decide : "DocumentationFile" ∈ readNames),
    h.value_eq (by decide : "DebugSymbols" ∈ readNames),
    h.value_eq (by decide : "AllowUnsafeBlocks" ∈ readNames),
    h.value_eq (by decide : "CheckForOverflowUnderflow" ∈ readNames),
    h.value_eq (by decide : "DefineConstants" ∈ readNames)]

theorem applySettings_alike (h : Alike readNames e e') (p : Project) :
    applySettings p e = applySettings p e' := by
  have hconfigurations := foldl_alike (h.childrenNamed "Config")
    (f := fun m e => m.put (e.value "Name") (readConfiguration e))
    (fun m e e' he => by
      rw [readConfiguration_alike he, he.value_eq (by decide : "Name" ∈ readNames)])
    p.configurations
  simp only [applySettings, hconfigurations, h.value_eq (by decide : "OutputType" ∈ readNames),
    h.value_eq (by decide : "AssemblyName" ∈ readNames),
    h.value_eq (by decide : "RootNamespace" ∈ readNames)]

theorem projectReference?_alike (h : Alike readNames e e') :
    projectReference? e = projectReference? e' := by
  simp only [projectReference?, h.value_eq (by decide : "Project" ∈ readNames),
    h.value_eq (by decide : "Name" ∈ readNames)]

theorem assemblyReference?_alike (h : Alike readNames e e') :
    assemblyReference? e = assemblyReference? e' := by
  simp only [assemblyReference?, h.value_eq (by decide : "Project" ∈ readNames),
    h.value_eq (by decide : "AssemblyName" ∈ readNames),
    h.value_eq (by decide : "HintPath" ∈ readNames),
    h.value_eq (by decide : "Private" ∈ readNames), h.value_eq (by decide : "Guid" ∈ readNames),
    h.value_eq (by decide : "Name" ∈ readNames)]

theorem fileOf_alike (h : Alike readNames e e') : fileOf e = fileOf e' := by
  simp only [fileOf, h.value_eq (by decide : "RelPath" ∈ readNames),
    h.value_eq (by decide : "BuildAction" ∈ readNames)]

theorem language?_alike (h : Alike readNames root root') :
    Option.Rel (fun l l' => l.1 = l'.1 ∧ Alike readNames l.2 l'.2) (language? root)
      (language? root') := by
  have hfirst := h.child? "CSHARP"
  have hsecond := h.child? "VisualBasic"
  rw [language?, language?]
  generalize root.child? "CSHARP" = o, root'.child? "CSHARP" = o' at hfirst
  generalize root.child? "VisualBasic" = v, root'.child? "VisualBasic" = v' at hsecond
  cases hfirst with
  | some he => exact .some ⟨rfl, he⟩
  | none =>
    cases hsecond with
    | some he => exact .some ⟨rfl, he⟩
    | none => exact .none

/-- The project with the settings of a build, if it has any. -/
def withSettings (p : Project) (build : Option Element) : Project :=
  match build.bind (·.child? "Settings") with
  | some settings => applySettings p settings
  | none => p

/-- What the element of a language describes. -/
def described (p : Project) (kind : Language) (e : Element) : Project × List ProjectReference :=
  let build := e.child? "Build"
  let q := withSettings { p with kind } build
  let references := childrenOf (build.bind (·.child? "References")) "Reference"
  let imports := (childrenOf (build.bind (·.child? "Imports")) "Import").map (·.value "Namespace")
  let files := childrenOf ((e.child? "Files").bind (·.child? "Include")) "File"
  ({ q with
      references := q.references ++ references.filterMap assemblyReference?
      imports := q.imports ++ imports.filter (· != "")
      files := q.files ++ files.map fileOf },
    references.filterMap projectReference?)

theorem read_eq_described {kind : Language} (h : language? root = some (kind, e)) (p : Project)
    (file : HostPath) : read p root file = .ok (described p kind e) := by
  rw [read, h]
  rfl

theorem withSettings_alike {o o' : Option Element} (h : Option.Rel (Alike readNames) o o')
    (p : Project) : withSettings p o = withSettings p o' := by
  have hsettings := child?_alike h "Settings"
  rw [withSettings, withSettings]
  generalize o.bind (·.child? "Settings") = s, o'.bind (·.child? "Settings") = s' at hsettings
  cases hsettings with
  | none => rfl
  | some hsettings => exact applySettings_alike hsettings p

theorem described_alike (h : Alike readNames e e') (p : Project) (kind : Language) :
    described p kind e = described p kind e' := by
  have hbuild := h.child? "Build"
  have hreferences := childrenOf_alike (child?_alike hbuild "References") "Reference"
  have himports := childrenOf_alike (child?_alike hbuild "Imports") "Import"
  have hfiles := childrenOf_alike (child?_alike (h.child? "Files") "Include") "File"
  simp only [described, withSettings_alike hbuild,
    filterMap_alike hreferences fun _ _ => assemblyReference?_alike,
    filterMap_alike hreferences fun _ _ => projectReference?_alike,
    map_alike himports fun _ _ he => he.value_eq (by decide : "Namespace" ∈ readNames),
    map_alike hfiles fun _ _ => fileOf_alike]

/-- A descriptor that is alike to one in a language is read as the same project. -/
theorem read_alike {kind : Language} (h : Alike readNames root root')
    (hlanguage : language? root' = some (kind, e)) (p : Project) (file : HostPath) :
    read p root file = .ok (described p kind e) := by
  have hlanguages := language?_alike h
  rw [hlanguage] at hlanguages
  obtain ⟨⟨kind', e'⟩, hfound, rfl, he⟩ : ∃ l, language? root = some l ∧ l.1 = kind ∧
      Alike readNames l.2 e := by
    generalize language? root = o at hlanguages
    cases hlanguages with
    | some hl => exact ⟨_, rfl, hl⟩
  rw [read_eq_described hfound, described_alike he]

end Attributes

/-! ## Descriptors with properties -/

namespace Properties

theorem note_alike (h : Alike readNames e e') (t : PropertyTable) (condition : String) :
    t.note condition e = t.note condition e' := by
  simp only [PropertyTable.note, h.localName_eq, h.trim_text,
    h.value_eq (by decide : "Condition" ∈ readNames)]

theorem ofRoot_alike (h : Alike readNames root root') :
    PropertyTable.ofRoot root = PropertyTable.ofRoot root' := by
  refine foldl_alike (h.childrenNamed "PropertyGroup")
    (f := fun (t : PropertyTable) (group : Element) =>
      group.children.foldl (fun t e => t.note (group.value "Condition") e) t)
    (fun t group group' hgroup => ?_) {}
  rw [hgroup.value_eq (by decide : "Condition" ∈ readNames)]
  exact foldl_alike hgroup.children (fun t _ _ he => note_alike he t _) t

theorem readItem_alike (h : Alike readNames e e') (d : FileSystem.Disk) (directory : String)
    (folder : HostPath) : readItem d directory folder e = readItem d directory folder e' := by
  simp only [readItem, projectReference, childText_alike h, h.localName_eq,
    h.value_eq (by decide : "Include" ∈ readNames)]

/-- Descriptors that are alike are read as the same project. -/
theorem read_alike (h : Alike readNames root root') (d : FileSystem.Disk) (p : Project)
    (file : HostPath) : read d p root file = read d p root' file := by
  have hitems : List.Forall₂ (Alike readNames)
      ((root.childrenNamed "ItemGroup").flatMap (·.children))
      ((root'.childrenNamed "ItemGroup").flatMap (·.children)) :=
    List.rel_flatMap (h.childrenNamed "ItemGroup") fun _ _ hgroup => hgroup.children
  have hkit : (root.childrenNamed "Sdk").isEmpty = (root'.childrenNamed "Sdk").isEmpty := by
    rw [Bool.eq_iff_iff, List.isEmpty_iff_length_eq_zero, List.isEmpty_iff_length_eq_zero,
      (h.childrenNamed "Sdk").length_eq]
  rw [read, read, ofRoot_alike h, mapM_alike hitems fun _ _ he => readItem_alike he d _ _, hkit,
    h.value_eq (by decide : "Sdk" ∈ readNames)]

end Properties

end SolutionScript.Descriptor
