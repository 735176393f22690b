import Mathlib.Data.List.TakeWhile
import Mathlib.Tactic.MkIffOfInductiveProp
import SolutionScript.Solution.Project

/-!
# Texts over a class of characters

What is made of texts by joining, splitting and trimming has the characters of these texts
only (`Over.join`), and so has what is made of descriptor paths, up to the separators that are
put in (`Over.joinPath`, `Over.resolve`).
-/

namespace SolutionScript

open Text

namespace Text

variable {P : Char → Prop}

/-- A text has characters of a class only. -/
def Over (P : Char → Prop) (s : String) : Prop := ∀ c ∈ s.toList, P c

instance [DecidablePred P] (s : String) : Decidable (Over P s) := List.decidableBAll P s.toList

@[simp] theorem over_ofList {cs : List Char} : Over P (String.ofList cs) ↔ ∀ c ∈ cs, P c := by
  simp [Over]

@[simp] theorem over_append {s t : String} : Over P (s ++ t) ↔ Over P s ∧ Over P t := by
  simp only [Over, String.toList_append, List.forall_mem_append]

theorem Over.append {s t : String} (hs : Over P s) (ht : Over P t) : Over P (s ++ t) :=
  over_append.2 ⟨hs, ht⟩

theorem over_empty : Over P "" := by simp [Over]

theorem Over.join {sep : String} {parts : List String} (hsep : Over P sep)
    (h : ∀ s ∈ parts, Over P s) : Over P (join sep parts) := by
  rw [Text.join]
  induction parts with
  | nil => exact over_empty
  | cons s parts ih =>
    rw [List.forall_mem_cons] at h
    cases parts with
    | nil => simpa using h.1
    | cons t parts =>
      rw [String.intercalate_cons_cons, over_append, over_append]
      exact ⟨⟨h.1, hsep⟩, ih h.2⟩

theorem Over.replace {s : String} (h : Over P s) (old : Char) {new : Char} (hnew : P new) :
    Over P (replace old new s) := by
  rw [Text.replace, over_ofList, replaceList]
  intro c hc
  obtain ⟨d, hd, rfl⟩ := List.mem_map.1 hc
  split
  · exact hnew
  · exact h d hd

theorem subset_of_mem_splitList {sep : Char} {cs part : List Char} (h : part ∈ splitList sep cs) :
    part ⊆ cs := by
  induction cs generalizing part with
  | nil =>
    rw [splitList, List.mem_singleton] at h
    simp [h]
  | cons c cs ih =>
    rw [splitList] at h
    split at h
    · rcases List.mem_cons.1 h with rfl | h
      · exact List.nil_subset _
      · exact List.Subset.trans (ih h) (List.subset_cons_self c cs)
    · split at h
      · rename_i first parts hparts
        rcases List.mem_cons.1 h with rfl | h
        · exact List.cons_subset_cons c (ih (hparts ▸ List.mem_cons_self))
        · exact List.Subset.trans (ih (hparts ▸ List.mem_cons_of_mem _ h))
            (List.subset_cons_self c cs)
      · rename_i hparts
        exact absurd hparts (splitList_ne_nil sep cs)

theorem Over.splitAt {s : String} (h : Over P s) (sep : Char) : ∀ t ∈ splitAt sep s, Over P t := by
  intro t ht
  obtain ⟨part, hpart, rfl⟩ := List.mem_map.1 ht
  exact over_ofList.2 fun c hc => h c (subset_of_mem_splitList hpart hc)

theorem stripList_subset (strip : Char → Bool) (cs : List Char) : stripList strip cs ⊆ cs := by
  intro c hc
  rw [stripList, List.mem_reverse] at hc
  have hmem := (List.dropWhile_suffix strip).subset hc
  rw [List.mem_reverse] at hmem
  exact (List.dropWhile_suffix strip).subset hmem

theorem Over.trim {s : String} (h : Over P s) : Over P (trim s) :=
  over_ofList.2 fun c hc => h c (stripList_subset isBlank _ hc)

/-- The symbols that a text lists have its characters, but for the separators. -/
theorem Over.symbolsOf {s : String} (h : Over P s) (hsep : P ';') :
    ∀ t ∈ Configuration.symbolsOf s, Over P t := by
  intro t ht
  obtain ⟨part, hpart, rfl⟩ := List.mem_map.1 (List.mem_filter.1 ht).1
  exact ((h.replace ',' hsep).splitAt ';' part hpart).trim

/-! ## Descriptor paths -/

/-- Both parts of a path have characters of a class only. -/
def PartsOver (P : Char → Prop) (parts : List Char × List Char) : Prop :=
  (∀ c ∈ parts.1, P c) ∧ ∀ c ∈ parts.2, P c

theorem partsOver_splitDrive {cs : List Char} (h : ∀ c ∈ cs, P c) :
    PartsOver P (DescriptorPath.splitDrive cs) :=
  ⟨fun c hc => h c (List.mem_of_mem_take hc), fun c hc => h c (List.mem_of_mem_drop hc)⟩

theorem PartsOver.joinParts {base next : List Char × List Char} (hsep : P '\\')
    (hbase : PartsOver P base) (hnext : PartsOver P next) :
    PartsOver P (DescriptorPath.joinParts base next) := by
  have hended : ∀ c ∈ base.2 ++ ['\\'], P c := List.forall_mem_append.2
    ⟨hbase.2, List.forall_mem_singleton.2 hsep⟩
  rw [DescriptorPath.joinParts]
  split_ifs
  · exact ⟨hnext.1, hnext.2⟩
  · exact ⟨hbase.1, hnext.2⟩
  · exact hnext
  -- The path goes on from that of the base, with a separator if it does not end with one.
  all_goals
    refine ⟨by first | exact hbase.1 | exact hnext.1, List.forall_mem_append.2 ⟨?_, hnext.2⟩⟩
    split
    · split
      · exact hbase.2
      · exact hended
    · simp

theorem PartsOver.attachDrive {parts : List Char × List Char} (hsep : P '\\')
    (h : PartsOver P parts) : ∀ c ∈ DescriptorPath.attachDrive parts, P c := by
  have happend : ∀ c ∈ parts.1 ++ parts.2, P c := List.forall_mem_append.2 h
  rw [DescriptorPath.attachDrive]
  split
  · split
    · exact List.forall_mem_append.2 ⟨h.1, List.forall_mem_cons.2 ⟨hsep, h.2⟩⟩
    · exact happend
  · exact happend

/-- Joining two paths puts in separators only. -/
theorem Over.joinPath {base next : String} (hsep : P '\\') (hbase : Over P base)
    (hnext : Over P next) : Over P (DescriptorPath.join base next) := by
  rw [DescriptorPath.join, DescriptorPath.joinAll, over_ofList]
  exact ((partsOver_splitDrive hbase).joinParts hsep (partsOver_splitDrive hnext)).attachDrive hsep

theorem Over.directory {s : String} (h : Over P s) : Over P (DescriptorPath.directory s) := by
  have hparts := partsOver_splitDrive h
  rw [DescriptorPath.directory, DescriptorPath.split, over_ofList]
  refine List.forall_mem_append.2 ⟨hparts.1, fun c hc => hparts.2 c ?_⟩
  split at hc
  · exact List.mem_of_mem_take hc
  · rw [List.mem_reverse] at hc
    have hmem := (List.dropWhile_suffix DescriptorPath.isSeparator).subset hc
    exact List.mem_of_mem_take (List.mem_reverse.1 hmem)

theorem Over.fileName {s : String} (h : Over P s) : Over P (DescriptorPath.fileName s) := by
  have hparts := partsOver_splitDrive h
  rw [DescriptorPath.fileName, DescriptorPath.split, over_ofList]
  intro c hc
  have hmem := List.mem_reverse.1 ((List.takeWhile_sublist _).subset (List.mem_reverse.1 hc))
  exact hparts.2 c hmem

theorem Over.stem {s : String} (h : Over P s) : Over P (DescriptorPath.stem s) := by
  have hname := h.fileName
  rw [DescriptorPath.stem, DescriptorPath.splitExtension]
  split
  · exact over_ofList.2 fun c hc => hname c (List.mem_of_mem_take hc)
  · exact hname

/-- The name of an embedded file has separators of names only, besides the characters of what
it is made of. -/
theorem Over.resourceName {p : Project} {f : ProjectFile} (hdot : P '.')
    (hextension : Over P ".resources") (hp : Over P p.rootNamespace) (hf : Over P f.relativePath) :
    Over P (p.resourceName f) := by
  have hdotted : Over P (if f.isResx then DescriptorPath.stem f.relativePath ++ ".resources"
      else Text.replace '/' '.' (Text.replace '\\' '.' f.relativePath)) := by
    split
    · exact hf.stem.append hextension
    · exact (hf.replace _ hdot).replace _ hdot
  rw [Project.resourceName]
  split
  · exact hdotted
  · exact (hp.append (by simpa [Over] using hdot)).append hdotted

/-- What a project makes of a path in it. -/
theorem Over.resolve {p : Project} {path : String} (hsep : P '\\') (hp : Over P p.path)
    (hpath : Over P path) : Over P (p.resolve path) := by
  rw [Project.resolve]
  split
  · exact hpath
  · exact hp.directory.joinPath hsep hpath

end Text

/-- The texts of a project that scripts show have characters of a class only. -/
@[mk_iff textsOver_iff]
structure Project.TextsOver (P : Char → Prop) (p : Project) : Prop where
  name : Over P p.name
  path : Over P p.path
  assemblyName : Over P p.assemblyName
  rootNamespace : Over P p.rootNamespace
  imports : ∀ s ∈ p.imports, Over P s
  files : ∀ f ∈ p.files, Over P f.relativePath
  references : ∀ r ∈ p.references, Over P r.name ∧ Over P r.hintPath
  configurations : ∀ a ∈ p.configurations, Over P a.2.documentationFile ∧ Over P a.2.defineConstants

instance {P : Char → Prop} [DecidablePred P] (p : Project) : Decidable (p.TextsOver P) :=
  decidable_of_iff' _ (Project.textsOver_iff P p)

/-- So have those of the configuration that is selected. -/
theorem Project.TextsOver.configuration {P : Char → Prop} {p : Project} (h : p.TextsOver P)
    (name : String) : Over P (p.configuration name).documentationFile ∧
      Over P (p.configuration name).defineConstants := by
  rw [Project.configuration]
  split
  · rename_i c hc
    split at hc
    · cases hc
    · exact h.configurations _ (Keyed.mem_of_get? hc)
  · split
    · rename_i c hc
      exact h.configurations _ (Keyed.mem_of_get? hc)
    · split
      · rename_i k c more hc
        exact h.configurations (k, c) (by simp [hc])
      · exact ⟨over_empty, over_empty⟩

/-- The extensions of assemblies. -/
theorem Project.targetOf_mem (outputType : String) :
    (targetOf outputType).2 ∈ [".dll", ".netmodule", ".exe"] := by
  rw [targetOf]
  split <;> simp

/-- The words of compilers for what they build. -/
theorem Project.compilerTarget_mem (p : Project) :
    p.compilerTarget ∈ ["library", "module", "exe", "winexe"] := by
  rw [compilerTarget, targetOf]
  split <;> simp

theorem Text.Over.outputFile {P : Char → Prop} {p : Project} (hname : Over P p.name)
    (hassembly : Over P p.assemblyName)
    (hextension : ∀ s ∈ [".dll", ".netmodule", ".exe"], Over P s) :
    Over P p.outputFile := by
  refine Over.append ?_ (hextension _ (Project.targetOf_mem p.outputType))
  split
  · exact hname
  · exact hassembly

end SolutionScript
