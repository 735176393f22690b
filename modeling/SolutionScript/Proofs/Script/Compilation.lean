import SolutionScript.Proofs.Script.BuildFile
import SolutionScript.Script.NMake

/-!
# What a script compiles

A compilation is what a script tells a compiler about one project. The compilations of a NAnt
script are its tasks; those that it was written for are made of the projects, with the directory
that receives what is built as the script refers to it (`compilations_scriptElement`). Where the
references of two formats to this directory are identified, so are the compilations
(`identified_compilationOf`).
-/

namespace SolutionScript

open Text Xml

/-- What a compiler is told about a project. -/
structure Compilation where
  language : Language
  target : String := ""
  artifact : String := ""
  debug : Bool := false
  defines : String := ""
  allowUnsafe : Bool := false
  checked : Bool := false
  documentation : String := ""
  rootNamespace : String := ""
  imports : String := ""
  sources : List String := []
  references : List String := []
  deriving DecidableEq, Repr

namespace Compilation

/-- The compilation with its texts changed. -/
def mapTexts (f : String → String) (c : Compilation) : Compilation :=
  { c with
    target := f c.target
    artifact := f c.artifact
    defines := f c.defines
    documentation := f c.documentation
    rootNamespace := f c.rootNamespace
    imports := f c.imports
    sources := c.sources.map f
    references := c.references.map f }

end Compilation

/-! ## Projects -/

/-- A path below the directory that receives what is built. -/
def builtPath (base path : String) : String := base ++ ("\\" ++ path)

/-- The assembly that a reference stands for. -/
def referencePathIn (base : String) (p : Project) (r : AssemblyReference) : String :=
  if r.kind = .com then builtPath base r.fileName
  else if r.hintPath ≠ "" && !r.copyLocal then p.resolve r.hintPath
  else r.fileName

/-- The compilation of a project in a configuration. `base` is the directory that receives what is
built, and `needed` are the projects that the project depends on. -/
def compilationOf (base : String) (needed : List Project) (p : Project) (c : Configuration) :
    Compilation :=
  let common : Compilation := {
    language := p.kind
    target := p.compilerTarget
    artifact := builtPath base p.outputFile
    debug := c.debugSymbols
    defines := Text.join "," c.defines
    sources := p.sourceFiles.map fun f => p.resolve f.relativePath
    references := p.references.map (referencePathIn base p) ++
      needed.map fun q => builtPath base q.outputFile }
  match p.kind with
  | .csharp =>
    { common with
      allowUnsafe := c.allowUnsafeBlocks
      checked := c.checkOverflow
      documentation :=
        if c.documentationFile = "" then ""
        else builtPath base (DescriptorPath.fileName c.documentationFile) }
  | .vb => { common with rootNamespace := p.rootNamespace, imports := Text.join "," p.imports }

/-- The compilations for a build order. -/
def orderCompilations (base : String) (o : BuildOrder) (configuration : String) :
    List Compilation :=
  o.projects.map fun p => compilationOf base (o.needed p) p (p.configuration configuration)

/-! ## The directory that receives what is built -/

/-- A text with another one in place of each occurrence of a text in it, from the left. The first
`skip` characters belong to an occurrence. -/
def replaceFrom (old new : List Char) : ℕ → List Char → List Char
  | _, [] => []
  | skip + 1, _ :: cs => replaceFrom old new skip cs
  | 0, c :: cs =>
    if old.isPrefixOf (c :: cs) then new ++ replaceFrom old new (old.length - 1) cs
    else c :: replaceFrom old new 0 cs

/-- A text where the directory that receives what is built is referred to in one way. -/
def identified (s : String) : String :=
  String.ofList (replaceFrom NMake.baseReference.toList NAnt.baseReference.toList 0 s.toList)

section

variable (old new : List Char)

theorem replaceFrom_length (skipped rest : List Char) :
    replaceFrom old new skipped.length (skipped ++ rest) = replaceFrom old new 0 rest := by
  induction skipped with
  | nil => rfl
  | cons c skipped ih => rw [List.cons_append, List.length_cons, replaceFrom, ih]

theorem replaceFrom_append (hold : old ≠ []) (rest : List Char) :
    replaceFrom old new 0 (old ++ rest) = new ++ replaceFrom old new 0 rest := by
  cases old with
  | nil => exact absurd rfl hold
  | cons c old =>
    rw [List.cons_append, replaceFrom, if_pos (by simp), List.length_cons, Nat.add_sub_cancel,
      replaceFrom_length]

end

theorem identified_make (s : String) :
    identified (NMake.baseReference ++ s) = NAnt.baseReference ++ identified s := by
  rw [identified, String.toList_append, replaceFrom_append _ _ (by decide), String.ofList_append,
    String.ofList_toList, identified]

theorem identified_nant (s : String) :
    identified (NAnt.baseReference ++ s) = NAnt.baseReference ++ identified s := by
  have hmake : NMake.baseReference.toList =
      ['$', '(', 'B', 'U', 'I', 'L', 'D', '_', 'B', 'A', 'S', 'E', 'D', 'I', 'R', ')'] := by decide
  have hnant : NAnt.baseReference.toList =
      ['$', '\x7b', 'b', 'u', 'i', 'l', 'd', '.', 'b', 'a', 's', 'e', 'd', 'i', 'r', '\x7d'] := by
    decide
  rw [identified, identified, ← String.toList_inj, String.toList_append, String.toList_append,
    String.toList_ofList, String.toList_ofList, hmake, hnant]
  simp [replaceFrom]

theorem identified_builtPath {base : String}
    (h : ∀ s, identified (base ++ s) = NAnt.baseReference ++ identified s) (path : String) :
    identified (builtPath base path) = NAnt.baseReference ++ identified ("\\" ++ path) := h _

/-- Compilations for two references to the directory differ in these references only. -/
theorem identified_compilationOf (needed : List Project) (p : Project) (c : Configuration) :
    (compilationOf NMake.baseReference needed p c).mapTexts identified =
      (compilationOf NAnt.baseReference needed p c).mapTexts identified := by
  have hpath (path : String) : identified (builtPath NMake.baseReference path) =
      identified (builtPath NAnt.baseReference path) :=
    (identified_builtPath identified_make path).trans
      (identified_builtPath identified_nant path).symm
  have hreference (r : AssemblyReference) :
      identified (referencePathIn NMake.baseReference p r) =
        identified (referencePathIn NAnt.baseReference p r) := by
    rw [referencePathIn, referencePathIn]
    split_ifs
    · exact hpath _
    · rfl
    · rfl
  have hreferences : (p.references.map (referencePathIn NMake.baseReference p) ++
      needed.map fun q => builtPath NMake.baseReference q.outputFile).map identified =
        (p.references.map (referencePathIn NAnt.baseReference p) ++
          needed.map fun q => builtPath NAnt.baseReference q.outputFile).map identified := by
    simp only [List.map_append, List.map_map, Function.comp_def, hreference, hpath]
  have hdocumentation :
      identified (if c.documentationFile = "" then ""
        else builtPath NMake.baseReference (DescriptorPath.fileName c.documentationFile)) =
        identified (if c.documentationFile = "" then ""
          else builtPath NAnt.baseReference (DescriptorPath.fileName c.documentationFile)) := by
    split
    · rfl
    · exact hpath _
  rw [compilationOf, compilationOf]
  cases p.kind with
  | csharp => simp only [Compilation.mapTexts, hpath, hreferences, hdocumentation]
  | vb => simp only [Compilation.mapTexts, hpath, hreferences]

end SolutionScript
