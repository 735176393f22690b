import SolutionScript.Proofs.Graph.Members
import SolutionScript.Proofs.Script.Makefile
import SolutionScript.Proofs.Text.Over
import SolutionScript.Script.NMake

/-!
# NMAKE scripts as makefiles

An NMAKE script for projects whose names and paths are single words is read as the rules that it
was written for (`script_reads`): each block of lines is read by itself (`reads_resourceRule`,
`reads_projectRules`, `reads_cleanRule`), and so are all of them, one after the other. The order
of the rules is that of the projects, so what a project needs of others is made before
(`scriptRules_split`).
-/

namespace SolutionScript.NMake

open Text Makefile

/-! ## Paths -/

/-- Characters of names and paths that are single words. -/
def isWordChar (c : Char) : Bool := !isBlank c && c != '"' && c != '#'

/-- A project whose names and paths are single words, none of which ends with a backslash, whose
other texts have no line breaks, and whose targets have no colons. -/
@[mk_iff]
structure Readable (p : Project) : Prop where
  name : Over (isWordChar · = true) p.name
  assemblyName : Over (isWordChar · = true) p.assemblyName
  rootNamespace : Over (isWordChar · = true) p.rootNamespace
  path : Over (isWordChar · = true) p.path
  files : ∀ f ∈ p.files, f.relativePath ≠ "" ∧ Over (isWordChar · = true) f.relativePath
  name_end : p.name.toList.getLast? ≠ some '\\'
  resolve_end : ∀ f ∈ p.files, (p.resolve f.relativePath).toList.getLast? ≠ some '\\'
  texts : p.TextsOver (· ≠ '\n')
  artifact_colon : ':' ∉ (artifact p).toList
  resource_colon : ∀ f ∈ p.resxFiles, ':' ∉ (compiledResource p f).toList

instance (p : Project) : Decidable (Readable p) := decidable_of_iff' _ (readable_iff p)

theorem isPath_of_over {s : String} (hne : s.toList ≠ []) (h : Over (isWordChar · = true) s)
    (hend : s.toList.getLast? ≠ some '\\') : IsPath s := by
  refine ⟨hne, fun c hc => ?_, hend⟩
  have hword := h c hc
  simp only [isWordChar, Bool.and_eq_true, Bool.not_eq_true', bne_iff_ne] at hword
  refine ⟨?_, ?_, hword.2⟩
  · by_contra hgap
    simp only [isGap, Bool.not_eq_false, Bool.or_eq_true, beq_iff_eq] at hgap
    rcases hgap with rfl | rfl
    · exact absurd hword.1.1 (by decide)
    · exact absurd hword.1.1 (by decide)
  · rintro rfl
    exact absurd hword.1.1 (by decide)

/-- A path has no quotes if it has no spaces. -/
theorem quote_eq {s : String} (h : IsPath s) : quote s = s := by
  have hspace : ' ' ∉ s.toList := fun hc => absurd (h.chars ' ' hc).1 (by decide)
  rw [quote, if_neg (by simpa using hspace)]

theorem map_quote {parts : List String} (h : ∀ s ∈ parts, IsPath s) : parts.map quote = parts :=
  (List.map_congr_left fun s hs => quote_eq (h s hs)).trans (List.map_id _)

theorem over_quote {P : Char → Prop} {s : String} (h : Over P s) (hquote : P '"') :
    Over P (quote s) := by
  rw [quote]
  split
  · simpa [Over, hquote, or_imp, forall_and] using h
  · exact h

theorem getLast?_append {s t : String} (ht : t.toList ≠ []) :
    (s ++ t).toList.getLast? = t.toList.getLast? := by
  rw [String.toList_append, List.getLast?_append_of_ne_nil _ ht]

/-- A path that is not empty makes one that is not empty of any other. -/
theorem joinParts_ne_nil (base : List Char × List Char) {next : List Char × List Char}
    (h : next.1 ≠ [] ∨ next.2 ≠ []) :
    (DescriptorPath.joinParts base next).1 ≠ [] ∨ (DescriptorPath.joinParts base next).2 ≠ [] := by
  obtain ⟨drive, path⟩ := next
  rw [DescriptorPath.joinParts]
  cases path with
  | nil =>
    have hdrive : drive ≠ [] := by simpa using h
    have hempty : drive.isEmpty = false := by simpa using hdrive
    left
    simp only [Bool.false_eq_true, if_false, hempty]
    split_ifs <;> exact hdrive
  | cons c path =>
    right
    split_ifs <;> simp

theorem join_ne_empty (base : String) {next : String} (h : next ≠ "") :
    DescriptorPath.join base next ≠ "" := by
  have hparts : (DescriptorPath.splitDrive next.toList).1 ≠ [] ∨
      (DescriptorPath.splitDrive next.toList).2 ≠ [] := by
    by_contra hnil
    rw [not_or, not_ne_iff, not_ne_iff] at hnil
    have hsplit := List.take_append_drop (DescriptorPath.driveLength next.toList) next.toList
    have hnone : next.toList = [] :=
      hsplit.symm.trans (List.append_eq_nil_iff.2 hnil)
    exact h (String.toList_eq_nil_iff.1 hnone)
  have hattached : ∀ parts : List Char × List Char, parts.1 ≠ [] ∨ parts.2 ≠ [] →
      DescriptorPath.attachDrive parts ≠ [] := by
    intro parts hparts
    have happend : parts.1 ++ parts.2 ≠ [] := by simpa [imp_iff_not_or] using hparts
    rw [DescriptorPath.attachDrive]
    split
    · split
      · simp
      · exact happend
    · exact happend
  rw [DescriptorPath.join, DescriptorPath.joinAll, ne_eq, ← String.toList_eq_nil_iff,
    String.toList_ofList]
  exact hattached _ (joinParts_ne_nil _ hparts)

theorem resolve_ne_empty (p : Project) {path : String} (h : path ≠ "") : p.resolve path ≠ "" := by
  rw [Project.resolve]
  split
  · exact h
  · exact join_ne_empty _ h

/-- The name of a compiled resource has an extension. -/
theorem exists_resourceName {p : Project} {f : ProjectFile} (hf : f.isResx = true) :
    ∃ s, p.resourceName f = s ++ ".resources" := by
  rw [Project.resourceName]
  simp only [hf, if_true]
  split
  · exact ⟨_, rfl⟩
  · exact ⟨p.rootNamespace ++ "." ++ DescriptorPath.stem f.relativePath, by
      simp only [String.append_assoc]⟩

/-- The file that a resource is compiled to ends with its extension. -/
theorem getLast?_compiledResource {p : Project} {f : ProjectFile} (hf : f ∈ p.resxFiles) :
    (compiledResource p f).toList.getLast? ≠ some '\\' := by
  obtain ⟨s, hs⟩ := @exists_resourceName p f (List.mem_filter.1 hf).2
  rw [compiledResource, hs, getLast?_append (by simp), getLast?_append (by decide)]
  decide

/-- The name of an assembly ends with its extension. -/
theorem getLast?_artifact (p : Project) : (artifact p).toList.getLast? ≠ some '\\' := by
  have hend : ∀ s ∈ [".dll", ".netmodule", ".exe"],
      s.toList ≠ [] ∧ s.toList.getLast? ≠ some '\\' := by
    decide
  have hextension := hend _ (Project.targetOf_mem p.outputType)
  rw [artifact, Project.outputFile, getLast?_append (by simp [hextension.1]),
    getLast?_append hextension.1]
  exact hextension.2

section

variable {p : Project} (h : Readable p)
include h

theorem isPath_artifact : IsPath (artifact p) := by
  have hchars : Over (isWordChar · = true) (artifact p) :=
    Over.append (by decide) (Over.outputFile h.name h.assemblyName (by decide))
  exact isPath_of_over (by simp [artifact, baseReference]) hchars (getLast?_artifact p)

theorem isPath_resolve {f : ProjectFile} (hf : f ∈ p.files) :
    IsPath (p.resolve f.relativePath) := by
  obtain ⟨hne, hchars⟩ := h.files f hf
  refine isPath_of_over ?_ (Over.resolve (by decide) h.path hchars) (h.resolve_end f hf)
  rw [ne_eq, String.toList_eq_nil_iff]
  exact resolve_ne_empty p hne

theorem over_resourceName {f : ProjectFile} (hf : f ∈ p.resxFiles) :
    Over (isWordChar · = true) (p.resourceName f) :=
  Over.resourceName (by decide) (by decide) h.rootNamespace
    (h.files f (List.mem_filter.1 (List.mem_filter.1 hf).1).1).2

theorem over_compiledResource {f : ProjectFile} (hf : f ∈ p.resxFiles) :
    Over (isWordChar · = true) (compiledResource p f) :=
  (((show Over (isWordChar · = true) (baseReference ++ "\\obj\\") by decide).append h.name).append
    (by decide)).append (over_resourceName h hf)

theorem isPath_compiledResource {f : ProjectFile} (hf : f ∈ p.resxFiles) :
    IsPath (compiledResource p f) :=
  isPath_of_over (by simp [compiledResource, resourceFolder, baseReference])
    (over_compiledResource h hf) (getLast?_compiledResource hf)

end

/-! ## Characters -/

/-- The options of a command that are never in quotes. -/
def options (p : Project) (c : Configuration) : List String :=
  ["/target:" ++ p.compilerTarget, "/out:$@"] ++
    [if c.debugSymbols then "/debug+" else "/debug-"] ++
    (if c.defines.isEmpty then [] else ["/define:" ++ Text.join "," c.defines]) ++ languageFlags p c

theorem flags_eq (needed : List Project) (p : Project) (c : Configuration) :
    flags needed p c = "/nologo" :: (options p c ++
      (referencePaths needed p).map (fun path => "/r:" ++ quote path) ++
        (embedded p).map fun (path, name) => "/res:" ++ quote path ++ "," ++ name) := rfl

/-- What starts otherwise is not the option, whatever its value. -/
theorem option_not_mem {l : List String} {option value : String}
    (h : ∀ said ∈ l, ¬ option.toList <+: said.toList) : option ++ value ∉ l := by
  intro hmem
  refine h _ hmem ?_
  rw [String.toList_append]
  exact List.prefix_append _ _

theorem option_not_mem_switch (Q : Prop) [Decidable Q] {said option value : String}
    (h : ¬ option.toList <+: said.toList) :
    (option ++ value ∉ if Q then [said] else []) ∧
      option ++ value ∉ if Q then [] else [said] := by
  have hone : option ++ value ∉ [said] := option_not_mem (List.forall_mem_singleton.2 h)
  constructor
  · split
    · exact hone
    · exact List.not_mem_nil
  · split
    · exact List.not_mem_nil
    · exact hone

/-- Whether a character is one of those that a script has for every project. -/
def isOwnChar (c : Char) : Bool :=
  c.isAlpha || ['/', ':', '\\', ',', ';', '.', '$', '(', ')', '@', '+', '-', '_'].contains c

section

variable {P : Char → Prop} (hown : ∀ c, isOwnChar c = true → P c)
include hown

theorem over_own {s : String} (h : s.toList.all isOwnChar = true) : Over P s :=
  fun c hc => hown c (List.all_eq_true.1 h c hc)

variable {p : Project} (h : p.TextsOver P)
include h

theorem over_artifact : Over P (artifact p) :=
  (over_own hown (by decide : (baseReference ++ "\\").toList.all isOwnChar = true)).append
    (Over.outputFile h.name h.assemblyName fun s hs => over_own hown
      ((by decide : ∀ s ∈ [".dll", ".netmodule", ".exe"], s.toList.all isOwnChar = true) s hs))

theorem over_resourceFolder : Over P (resourceFolder p) :=
  (over_own hown (by decide : (baseReference ++ "\\obj\\").toList.all isOwnChar = true)).append
    h.name

theorem over_resolve {f : ProjectFile} (hf : f ∈ p.files) : Over P (p.resolve f.relativePath) :=
  Over.resolve (hown _ (by decide)) h.path (h.files f hf)

theorem over_referencePath {r : AssemblyReference} (hr : r ∈ p.references) :
    Over P (referencePath p r) := by
  obtain ⟨hname, hhint⟩ := h.references r hr
  have hfile : Over P r.fileName := hname.append (over_own hown (by decide))
  rw [referencePath]
  split_ifs
  · exact (over_own hown
      (by decide : (baseReference ++ "\\").toList.all isOwnChar = true)).append hfile
  · exact Over.resolve (hown _ (by decide)) h.path hhint
  · exact hfile

theorem over_referencePaths {needed : List Project} (hneeded : ∀ q ∈ needed, q.TextsOver P) :
    ∀ s ∈ referencePaths needed p, Over P s := by
  rw [referencePaths, List.forall_mem_append, List.forall_mem_map, List.forall_mem_map]
  exact ⟨fun r hr => over_referencePath hown h hr, fun q hq => over_artifact hown (hneeded q hq)⟩

theorem over_embedded : ∀ a ∈ embedded p, Over P a.1 ∧ Over P a.2 := by
  have hname {f : ProjectFile} (hf : f ∈ p.files) : Over P (p.resourceName f) :=
    Over.resourceName (hown _ (by decide)) (over_own hown (by decide)) h.rootNamespace
      (h.files f hf)
  have hmem {f : ProjectFile} {resx : Bool}
      (hf : f ∈ (p.filesWith .embeddedResource).filter (·.isResx == resx)) : f ∈ p.files :=
    (List.mem_filter.1 (List.mem_filter.1 hf).1).1
  rw [embedded, List.forall_mem_append, List.forall_mem_map, List.forall_mem_map]
  refine ⟨fun f hf => ?_, fun f hf => ?_⟩
  · have hf := hname (@hmem f true (by simpa [Project.resxFiles] using hf))
    exact ⟨((over_resourceFolder hown h).append (over_own hown (by decide))).append hf, hf⟩
  · have hf := @hmem f false (by simpa [Project.resourceFiles] using hf)
    exact ⟨over_resolve hown h hf, hname hf⟩

theorem over_languageFlags {c : Configuration} (hc : Over P c.documentationFile) :
    ∀ s ∈ languageFlags p c, Over P s := by
  have hif {Q : Prop} [Decidable Q] {l : List String} (hl : ∀ s ∈ l, Over P s) :
      (∀ s ∈ if Q then l else [], Over P s) ∧ ∀ s ∈ if Q then [] else l, Over P s := by
    split <;> simp_all
  have hswitch {s : String} (hs : s.toList.all isOwnChar = true) : ∀ t ∈ [s], Over P t :=
    List.forall_mem_singleton.2 (over_own hown hs)
  rw [languageFlags]
  split
  · rw [List.forall_mem_append, List.forall_mem_append]
    refine ⟨⟨(hif (hswitch (by decide))).1, (hif (hswitch (by decide))).1⟩,
      (hif (List.forall_mem_singleton.2 ?_)).2⟩
    exact (over_own hown (by decide :
      ("/doc:" ++ baseReference ++ "\\").toList.all isOwnChar = true)).append hc.fileName
  · rw [List.forall_mem_append]
    refine ⟨(hif (List.forall_mem_singleton.2 ?_)).2, (hif (List.forall_mem_singleton.2 ?_)).2⟩
    · exact (over_own hown (by decide)).append h.rootNamespace
    · exact (over_own hown (by decide)).append
        (Over.join (over_own hown (by decide)) h.imports)

theorem over_options (configuration : String) :
    ∀ s ∈ options p (p.configuration configuration), Over P s := by
  obtain ⟨hdocumentation, hdefines⟩ := h.configuration configuration
  have htarget : Over P p.compilerTarget := over_own hown
    ((by decide : ∀ s ∈ ["library", "module", "exe", "winexe"],
      s.toList.all isOwnChar = true) _ p.compilerTarget_mem)
  simp only [options, List.forall_mem_append, List.forall_mem_cons]
  refine ⟨⟨⟨⟨?_, ?_, by simp⟩, ?_, by simp⟩, ?_⟩, over_languageFlags hown h hdocumentation⟩
  · exact (over_own hown (by decide)).append htarget
  · exact over_own hown (by decide)
  · split <;> exact over_own hown (by decide)
  · split
    · simp
    · exact List.forall_mem_singleton.2 ((over_own hown (by decide)).append
        (Over.join (over_own hown (by decide)) (hdefines.symbolsOf (hown _ (by decide)))))

end

theorem ne_newline_of_isOwnChar (c : Char) (h : isOwnChar c = true) : c ≠ '\n' := by
  rintro rfl
  exact absurd h (by decide)

/-! ## Lines -/

theorem reads_comment {s : String} (hnewline : Over (· ≠ '\n') s)
    (hend : s.toList.getLast? ≠ some '\\') : Reads ["# " ++ s] [] [] := by
  have htext : ("# " ++ s).toList = '#' :: ' ' :: s.toList := by simp
  have hwhole : IsWhole ("# " ++ s).toList := by
    refine ⟨fun h => ?_, ?_⟩
    · rw [htext, List.mem_cons, List.mem_cons] at h
      rcases h with h | h | h
      · exact absurd h (by decide)
      · exact absurd h (by decide)
      · exact hnewline _ h rfl
    · by_cases hs : s.toList = []
      · simp [htext, hs]
      · rwa [getLast?_append hs]
  have h := reads_whole hwhole
  rwa [htext] at h

/-- A command on one line that ends with a quote. -/
theorem isWhole_quoted {s : String} (hnewline : Over (· ≠ '\n') s) :
    IsWhole (s ++ "\"").toList := by
  refine ⟨fun h => ?_, ?_⟩
  · rw [String.toList_append, List.mem_append] at h
    rcases h with h | h
    · exact hnewline _ h rfl
    · exact absurd h (by decide)
  · rw [getLast?_append (by decide)]
    decide

theorem isCommand_append {s t : String} (h : isCommand s.toList = true) :
    isCommand (s ++ t).toList = true := by
  obtain ⟨cs, hcs⟩ := exists_eq_of_isCommand h
  rw [String.toList_append, hcs]
  rfl

theorem isWhole_makeFolder {folder : String} (h : Over (· ≠ '\n') folder) :
    IsWhole (makeFolder folder).toList := by
  refine isWhole_quoted ?_
  exact (((by decide : Over (· ≠ '\n') "\t@if not exist \"").append h).append (by decide)).append h

theorem isCommand_makeFolder (folder : String) : isCommand (makeFolder folder).toList = true :=
  isCommand_append (isCommand_append (isCommand_append (isCommand_append (by decide))))

theorem reads_makeFolder {folder : String} (h : Over (· ≠ '\n') folder) :
    Reads [makeFolder folder] [] [] :=
  reads_commands (List.forall_mem_singleton.2 ⟨isWhole_makeFolder h, isCommand_makeFolder folder⟩)

/-! ## Rules -/

/-- The flag that embeds a compiled resource. -/
def resourceFlag (p : Project) (f : ProjectFile) : String :=
  "/res:" ++ compiledResource p f ++ "," ++ p.resourceName f

/-- The rule of a project that needs others. -/
def ruleOf (needed : List Project) (p : Project) : Rule :=
  ⟨artifact p, needed.map artifact ++ p.sourceFiles.map (fun f => p.resolve f.relativePath) ++
    p.resxFiles.map (compiledResource p) ++ p.resourceFiles.map fun f => p.resolve f.relativePath⟩

/-- The rules of the resources that are compiled. -/
def resourceRules (p : Project) : List Rule :=
  p.resxFiles.map fun f => ⟨compiledResource p f, [p.resolve f.relativePath]⟩

section

variable {p : Project} (h : Readable p)
include h

theorem isPath_resourceFlag {f : ProjectFile} (hf : f ∈ p.resxFiles) :
    IsPath (resourceFlag p f) := by
  obtain ⟨s, hs⟩ := @exists_resourceName p f (List.mem_filter.1 hf).2
  refine isPath_of_over (by simp [resourceFlag]) ?_ ?_
  · exact (((by decide : Over (isWordChar · = true) "/res:").append
      (over_compiledResource h hf)).append (by decide)).append (over_resourceName h hf)
  · rw [resourceFlag, hs, getLast?_append (by simp), getLast?_append (by decide)]
    decide

theorem reads_resourceRule {f : ProjectFile} (hf : f ∈ p.resxFiles) :
    Reads (resourceRule p f) [⟨compiledResource p f, [p.resolve f.relativePath]⟩] [] := by
  have htarget := isPath_compiledResource h hf
  have hsource := isPath_resolve h (List.mem_filter.1 (List.mem_filter.1 hf).1).1
  have hline : Reads [compiledResource p f ++ ": " ++ p.resolve f.relativePath]
      [⟨compiledResource p f, [p.resolve f.relativePath]⟩] [] := by
    have hrule := @reads_rule _ htarget (h.resource_colon f hf) [p.resolve f.relativePath]
      (by simpa using hsource)
    have htext : compiledResource p f ++ ": " ++ p.resolve f.relativePath =
        compiledResource p f ++ ":" ++ (" " ++ p.resolve f.relativePath) := by
      rw [← String.toList_inj]
      simp
    rw [htext]
    simpa [Text.join] using hrule
  have hcommand : Reads ["\t$(RESGEN) /nologo " ++ p.resolve f.relativePath ++ " " ++
      compiledResource p f] [] [] := by
    refine reads_commands (List.forall_mem_singleton.2 ⟨⟨fun hmem => ?_, ?_⟩,
      isCommand_append (isCommand_append (isCommand_append (by decide)))⟩)
    · simp only [String.toList_append, List.mem_append] at hmem
      rcases hmem with ((hmem | hmem) | hmem) | hmem
      · exact absurd hmem (by decide)
      · exact (hsource.chars _ hmem).2.1 rfl
      · exact absurd hmem (by decide)
      · exact (htarget.chars _ hmem).2.1 rfl
    · rw [getLast?_append htarget.ne_nil]
      exact htarget.backslash
  have hfolder := reads_makeFolder (over_resourceFolder @ne_newline_of_isOwnChar h.texts)
  have hrules := hline.append (hfolder.append (hcommand.append reads_blank))
  rw [resourceRule, quote_eq htarget, quote_eq hsource]
  exact hrules

theorem reads_resourceRules :
    Reads (p.resxFiles.flatMap (resourceRule p)) (resourceRules p) [] := by
  have hrules := @Reads.flatMap _ p.resxFiles _ (fun f => [_]) (fun _ => []) fun f hf =>
    reads_resourceRule h hf
  rw [← List.map_eq_flatMap, List.flatMap_eq_nil_iff.2 fun _ _ => rfl] at hrules
  exact hrules

/-- All that the compiler is told is on lines of its own. -/
theorem over_flags {needed : List Project} (hneeded : ∀ q ∈ needed, Readable q)
    (configuration : String) : ∀ s ∈ flags needed p (p.configuration configuration),
      Over (· ≠ '\n') s := by
  have hown := @ne_newline_of_isOwnChar
  rw [flags_eq, List.forall_mem_cons]
  simp only [List.forall_mem_append, List.forall_mem_map]
  refine ⟨by decide, ⟨over_options hown h.texts configuration, fun s hs => ?_⟩, fun a ha => ?_⟩
  · have hreference := over_referencePaths hown h.texts (fun q hq => (hneeded q hq).texts) s hs
    exact (show Over (· ≠ '\n') "/r:" by decide).append (over_quote hreference (by decide))
  · obtain ⟨hpath, hname⟩ := over_embedded hown h.texts a ha
    exact (((show Over (· ≠ '\n') "/res:" by decide).append (over_quote hpath (by decide))).append
      (by decide)).append hname

theorem resourceFlag_mem {needed : List Project} {c : Configuration} {f : ProjectFile}
    (hf : f ∈ p.resxFiles) : resourceFlag p f ∈ flags needed p c := by
  have hmem : (compiledResource p f, p.resourceName f) ∈ embedded p :=
    List.mem_append_left _ (List.mem_map_of_mem hf)
  have hflag := List.mem_map_of_mem (f := fun a : String × String =>
    "/res:" ++ quote a.1 ++ "," ++ a.2) hmem
  rw [quote_eq (isPath_compiledResource h hf)] at hflag
  exact List.mem_append_right _ hflag

theorem reads_compiler {needed : List Project} (hneeded : ∀ q ∈ needed, Readable q)
    (configuration : String) :
    Reads ["\t" ++ compilerMacro p.kind ++ " " ++ Text.join continuation
        (flags needed p (p.configuration configuration) ++ (sources p).map quote), ""] []
      ((p.resxFiles.map (resourceFlag p)).map String.toList) := by
  have hpieces : ∀ s ∈ flags needed p (p.configuration configuration) ++ (sources p).map quote,
      Over (· ≠ '\n') s := by
    rw [List.forall_mem_append, List.forall_mem_map, sources, List.forall_mem_map]
    exact ⟨over_flags h hneeded configuration, fun f hf => over_quote (Over.resolve (by decide)
      h.texts.path (h.texts.files f (List.mem_filter.1 hf).1)) (by decide)⟩
  have hresources : ∀ s ∈ p.resxFiles.map (resourceFlag p),
      s ∈ flags needed p (p.configuration configuration) ++ (sources p).map quote ∧ IsPath s :=
    List.forall_mem_map.2 fun f hf =>
      ⟨List.mem_append_left _ (resourceFlag_mem h hf), isPath_resourceFlag h hf⟩
  -- The compiler and its first flag are one piece.
  obtain ⟨more, hmore, hne⟩ : ∃ more, flags needed p (p.configuration configuration) ++
      (sources p).map quote = "/nologo" :: more ∧ more ≠ [] := ⟨_, rfl, List.cons_ne_nil _ _⟩
  obtain ⟨middle, last, rfl⟩ := (List.eq_nil_or_concat' more).resolve_left hne
  rw [hmore] at hpieces hresources ⊢
  rw [List.forall_mem_cons] at hpieces
  have hfirst : ∀ k : Language, Over (· ≠ '\n') ("\t" ++ compilerMacro k ++ " " ++ "/nologo") ∧
      isCommand ("\t" ++ compilerMacro k ++ " " ++ "/nologo").toList = true := by
    intro k
    cases k <;> decide
  have hcommand := @reads_command _ last middle (hfirst p.kind).2 (List.forall_mem_cons.2
    ⟨fun hc => (hfirst p.kind).1 _ hc rfl, fun s hs hc => hpieces.2 s hs _ hc rfl⟩)
    (p.resxFiles.map (resourceFlag p)) fun s hs => ?_
  · rw [append_join]
    exact hcommand
  · obtain ⟨hmem, hpath⟩ := hresources s hs
    refine ⟨(List.mem_cons.1 hmem).resolve_left ?_, hpath⟩
    obtain ⟨f, -, rfl⟩ := List.mem_map.1 hs
    intro heq
    simp [resourceFlag, ← String.toList_inj] at heq

theorem isPath_prerequisites {needed : List Project} (hneeded : ∀ q ∈ needed, Readable q) :
    ∀ s ∈ prerequisites needed p, IsPath s := by
  have hfiles : ∀ files : List ProjectFile, files ⊆ p.files →
      ∀ s ∈ files.map (fun f => p.resolve f.relativePath), IsPath s := by
    intro files hsub
    rw [List.forall_mem_map]
    exact fun f hf => isPath_resolve h (hsub hf)
  rw [prerequisites, embedded, List.map_append, List.map_map, List.map_map]
  simp only [List.forall_mem_append, List.forall_mem_map]
  refine ⟨⟨fun q hq => isPath_artifact (hneeded q hq),
    hfiles _ fun f hf => (List.mem_filter.1 hf).1⟩,
    fun f hf => isPath_compiledResource h hf, fun f hf => isPath_resolve h ?_⟩
  exact (List.mem_filter.1 (List.mem_filter.1 hf).1).1

theorem reads_projectRules {needed : List Project} (hneeded : ∀ q ∈ needed, Readable q)
    (configuration : String) :
    Reads (projectRules configuration p needed) (ruleOf needed p :: resourceRules p)
      ((p.resxFiles.map (resourceFlag p)).map String.toList) := by
  have hprerequisites := isPath_prerequisites h hneeded
  have hrule : Reads [dependencyLine (artifact p) ((prerequisites needed p).map quote)]
      [ruleOf needed p] [] := by
    rw [map_quote hprerequisites]
    have hread := reads_rule (isPath_artifact h) h.artifact_colon hprerequisites
    have heq : (⟨artifact p, prerequisites needed p⟩ : Rule) = ruleOf needed p := by
      simp [ruleOf, prerequisites, sources, embedded, Function.comp_def]
    rw [heq] at hread
    exact hread
  have hall := (reads_comment h.texts.name h.name_end).append (hrule.append
    ((reads_makeFolder (by decide : Over (· ≠ '\n') baseReference)).append
      ((reads_compiler h hneeded configuration).append (reads_resourceRules h))))
  simpa [projectRules] using hall

end

/-! ## Scripts -/

/-- What stands before the rules of a script. -/
def preamble (m : Parameters) (solutionName : String) : String :=
  String.ofList (withEnds ['\n'] (origin solutionName ++ macroLines m ++ [""]))

/-- The rules of a script. -/
def scriptRules (o : BuildOrder) : List Rule :=
  ⟨"all", o.projects.map artifact⟩ ::
    (o.projects.flatMap (fun p => ruleOf (o.needed p) p :: resourceRules p) ++ [⟨"clean", []⟩])

/-- The lines of the rules of a script. -/
def ruleLines (o : BuildOrder) (configuration : String) : List String :=
  [dependencyLine "all" (o.projects.map artifact), ""] ++
    o.projects.flatMap (fun p => projectRules configuration p (o.needed p)) ++ cleanRule o

/-- The text of lines that all end. -/
theorem toList_join_lines (lines : List String) :
    (Text.join "\n" (lines ++ [""])).toList = withEnds ['\n'] lines := by
  simp [Text.join, String.toList_intercalate, intercalate_concat, withEnds, List.flatMap_map]

/-- There is a script if and only if no dependency is missing. -/
theorem script_eq_ok {o : BuildOrder} {m : Parameters} {solutionName text : String} :
    script o m solutionName = .ok text ↔
      (∀ p ∈ o.projects, o.dependencies p = .ok (o.needed p)) ∧
        text = preamble m solutionName ++
          String.ofList (withEnds ['\n'] (ruleLines o m.configurationName)) := by
  have hjoin : ∀ rules : List (List String), rules = o.projects.map (fun p =>
      projectRules m.configurationName p (o.needed p)) →
      Text.join "\n" (origin solutionName ++ macroLines m ++ [""] ++
        [dependencyLine "all" (o.projects.map artifact), ""] ++ rules.flatten ++
          cleanRule o ++ [""]) =
        preamble m solutionName ++
          String.ofList (withEnds ['\n'] (ruleLines o m.configurationName)) := by
    rintro _ rfl
    rw [← List.flatMap_def, ← String.toList_inj, toList_join_lines, String.toList_append, preamble,
      String.toList_ofList, String.toList_ofList, ruleLines, ← withEnds_append]
    simp only [List.append_assoc]
  rw [script, Fallible.map_eq_ok]
  constructor
  · rintro ⟨all, hlines, rfl⟩
    obtain ⟨rules, hrules, hall⟩ := Fallible.bind_eq_ok.1 hlines
    obtain ⟨hneeded, hrules⟩ := BuildOrder.mapM_dependencies.1 hrules
    cases hall
    exact ⟨hneeded, hjoin rules hrules⟩
  · rintro ⟨hneeded, rfl⟩
    refine ⟨_, ?_, hjoin _ rfl⟩
    rw [lines, BuildOrder.mapM_dependencies.2 ⟨hneeded, rfl⟩]
    rfl

theorem reads_cleanRule {o : BuildOrder} (horder : ∀ p ∈ o.projects, Readable p) :
    Reads (cleanRule o) [⟨"clean", []⟩] [] := by
  have htarget : Reads ["clean:"] [⟨"clean", []⟩] [] :=
    @reads_rule "clean" (isPath_of_over (by simp) (by decide) (by decide)) (by decide) [] (by simp)
  have hquoted {before middle s : String} (hbefore : Over (· ≠ '\n') before)
      (hmiddle : Over (· ≠ '\n') middle) (hs : Over (· ≠ '\n') s)
      (hcommand : isCommand before.toList = true) :
      IsWhole (before ++ s ++ middle ++ s ++ "\"").toList ∧
        isCommand (before ++ s ++ middle ++ s ++ "\"").toList = true :=
    ⟨isWhole_quoted (((hbefore.append hs).append hmiddle).append hs),
      isCommand_append (isCommand_append (isCommand_append (isCommand_append hcommand)))⟩
  have hcommands : ∀ s ∈ (cleanRule o).tail, IsWhole s.toList ∧ isCommand s.toList = true := by
    rw [cleanRule, List.cons_append, List.tail_cons, List.forall_mem_append, List.forall_mem_map,
      List.forall_mem_map, List.forall_mem_map]
    refine ⟨fun p hp => ?_, fun p hp => ?_⟩
    · exact hquoted (by decide) (by decide)
        (fun c hc => ((isPath_artifact (horder p hp)).chars c hc).2.1) (by decide)
    · exact hquoted (by decide) (by decide)
        (over_resourceFolder @ne_newline_of_isOwnChar (horder p (List.mem_filter.1 hp).1).texts)
        (by decide)
  exact htarget.append (reads_commands hcommands)

theorem reads_ruleLines {o : BuildOrder} (horder : ∀ p ∈ o.projects, Readable p)
    (hneeds : ∀ p ∈ o.projects, o.Needs p (o.needed p)) (configuration : String) :
    Reads (ruleLines o configuration) (scriptRules o)
      (o.projects.flatMap fun p => (p.resxFiles.map (resourceFlag p)).map String.toList) := by
  have hall : Reads [dependencyLine "all" (o.projects.map artifact)]
      [⟨"all", o.projects.map artifact⟩] [] :=
    reads_rule (isPath_of_over (by simp) (by decide) (by decide)) (by decide)
      (List.forall_mem_map.2 fun p hp => isPath_artifact (horder p hp))
  have hprojects := Reads.flatMap fun p hp => reads_projectRules (horder p hp)
    (fun q hq => horder q ((hneeds p hp).mem hq)) configuration
  have hlines := (hall.append reads_blank).append (hprojects.append (reads_cleanRule horder))
  rw [List.append_nil, List.append_nil, List.append_nil, List.nil_append] at hlines
  rw [ruleLines, List.append_assoc]
  exact hlines

/-- Whether a rule stands before another one is a matter of the projects alone. -/
theorem scriptRules_split {o : BuildOrder} {before after : List Project} {p q : Project}
    (hsplit : o.projects = before ++ p :: after) (hq : q ∈ before) :
    ∃ earlier later, scriptRules o = earlier ++ ruleOf (o.needed p) p :: later ∧
      ruleOf (o.needed q) q ∈ earlier := by
  refine ⟨⟨"all", o.projects.map artifact⟩ ::
    before.flatMap (fun p => ruleOf (o.needed p) p :: resourceRules p),
    resourceRules p ++ after.flatMap (fun p => ruleOf (o.needed p) p :: resourceRules p) ++
      [⟨"clean", []⟩], ?_, ?_⟩
  · rw [scriptRules, hsplit]
    simp only [List.flatMap_append, List.flatMap_cons, List.cons_append, List.append_assoc]
  · exact List.mem_cons_of_mem _ (List.mem_flatMap.2 ⟨q, hq, List.mem_cons_self⟩)

/-- The rules of a project's resources are among those of a script. -/
theorem resourceRule_mem_scriptRules {o : BuildOrder} {p : Project} (hp : p ∈ o.projects)
    {f : ProjectFile} (hf : f ∈ p.resxFiles) :
    ⟨compiledResource p f, [p.resolve f.relativePath]⟩ ∈ scriptRules o :=
  List.mem_cons_of_mem _ (List.mem_append_left _ (List.mem_flatMap.2
    ⟨p, hp, List.mem_cons_of_mem _ (List.mem_map_of_mem hf)⟩))

/-- Reading a script as a makefile gives the rules that it was written for: one that makes all
assemblies, for each project one that needs the assemblies of its dependencies and its files, one
for each resource that is compiled, and one that deletes what is built. What is compiled is named
in the same way where it is made, needed and embedded; where identifiers differ from project to
project, what a project needs of others is made before. -/
theorem script_reads {ps : List Project} {o : BuildOrder}
    (horder : BuildOrder.ofProjects ps = .ok o) (hreadable : ∀ p ∈ ps, Readable p) (m : Parameters)
    (solutionName : String) :
    ((ps.map (·.id)).Nodup → ∃ text, script o m solutionName = .ok text) ∧
      ∀ text, script o m solutionName = .ok text →
        ∃ rest, text = preamble m solutionName ++ rest ∧ rules rest = scriptRules o ∧
          (∀ p ∈ o.projects, o.Needs p (o.needed p)) ∧
          (∀ p ∈ o.projects, ∀ f ∈ p.resxFiles,
            compiledResource p f ∈ (ruleOf (o.needed p) p).prerequisites ∧
            (∃ line ∈ commands rest, (resourceFlag p f).toList ∈ words line) ∧
            ∃ rule ∈ rules rest, rule.target = compiledResource p f) ∧
          ((ps.map (·.id)).Nodup → ∀ before p after, o.projects = before ++ p :: after →
            ∀ q ∈ o.needed p, ∃ earlier later,
              rules rest = earlier ++ ruleOf (o.needed p) p :: later ∧
                ruleOf (o.needed q) q ∈ earlier) := by
  have hprojects : ∀ p ∈ o.projects, Readable p := fun p hp =>
    hreadable p (BuildOrder.mem_of_ofProjects horder hp)
  refine ⟨fun hid => ⟨_, script_eq_ok.2 ⟨fun p hp => BuildOrder.dependencies_needed
    (BuildOrder.exists_dependencies hid horder hp), rfl⟩⟩, fun text h => ?_⟩
  obtain ⟨hneeded, rfl⟩ := script_eq_ok.1 h
  have hneeds : ∀ p ∈ o.projects, o.Needs p (o.needed p) := fun p hp =>
    BuildOrder.needs_of_dependencies (hneeded p hp)
  have hreads := reads_ruleLines hprojects hneeds m.configurationName
  have hrules := hreads.rules_eq
  refine ⟨_, rfl, hrules, hneeds, fun p hp f hf => ⟨?_, ?_, ?_⟩,
    fun hid before p after hsplit q hq => ?_⟩
  · exact List.mem_append_left _ (List.mem_append_right _ (List.mem_map_of_mem hf))
  · exact hreads.mem_commands (List.mem_flatMap.2
      ⟨p, hp, List.mem_map_of_mem (List.mem_map_of_mem hf)⟩)
  · exact ⟨_, hrules ▸ resourceRule_mem_scriptRules hp hf, rfl⟩
  · have hleast := (BuildOrder.ofProjects_eq_ok hid horder).2.2
    have hbefore := (hneeds p (hsplit ▸ List.mem_append_right _ List.mem_cons_self)).mem_before
      ((hleast.perm.map _).nodup_iff.2 hid) hleast.dependencies_first hsplit hq
    rw [hrules]
    exact scriptRules_split hsplit hbefore

/-- A library with resources that are compiled. -/
def resourceLibrary : Project :=
  { id := "L", name := "Library", path := "lib\\Library.csproj", rootNamespace := "Lib"
    files := [⟨"Strings.resx", .embeddedResource⟩, ⟨"Tool.cs", .compile⟩] }

/-- A program that needs the library. -/
def libraryProgram : Project :=
  ["L"].foldl .addDependency
    { id := "P", name := "App", path := "App.vbproj", kind := .vb, outputType := "Exe", index := 1
      files := [⟨"logo.png", .embeddedResource⟩, ⟨"Main.vb", .compile⟩], imports := ["System"] }

theorem script_reads_pair :
    ∃ o text rest, BuildOrder.ofProjects [libraryProgram, resourceLibrary] = .ok o ∧
      (∀ p ∈ [libraryProgram, resourceLibrary], Readable p) ∧
      ([libraryProgram, resourceLibrary].map (·.id)).Nodup ∧
      script o [] "Pair" = .ok text ∧ text = preamble [] "Pair" ++ rest ∧
      rules rest = [⟨"all", ["$(BUILD_BASEDIR)\\Library.dll", "$(BUILD_BASEDIR)\\App.exe"]⟩,
        ⟨"$(BUILD_BASEDIR)\\Library.dll", ["lib\\Tool.cs",
          "$(BUILD_BASEDIR)\\obj\\Library\\Lib.Strings.resources"]⟩,
        ⟨"$(BUILD_BASEDIR)\\obj\\Library\\Lib.Strings.resources", ["lib\\Strings.resx"]⟩,
        ⟨"$(BUILD_BASEDIR)\\App.exe", ["$(BUILD_BASEDIR)\\Library.dll", "Main.vb", "logo.png"]⟩,
        ⟨"clean", []⟩] ∧
      ∃ line ∈ commands rest, ("/res:$(BUILD_BASEDIR)\\obj\\Library\\Lib.Strings.resources," ++
        "Lib.Strings.resources").toList ∈ words line := by
  have horder : BuildOrder.ofProjects [libraryProgram, resourceLibrary] =
      .ok ⟨[resourceLibrary, libraryProgram]⟩ := by
    rw [BuildOrder.ofProjects_eq_arrange (by decide) (by cbv)]
    decide
  have hid : ([libraryProgram, resourceLibrary].map (·.id)).Nodup := by decide
  have hreadable : ∀ p ∈ [libraryProgram, resourceLibrary], Readable p := by decide
  obtain ⟨hexists, hreads⟩ := script_reads horder hreadable [] "Pair"
  obtain ⟨text, htext⟩ := hexists hid
  obtain ⟨rest, hrest, hrules, -, hresources, -⟩ := hreads text htext
  obtain ⟨-, hcommand, -⟩ := hresources resourceLibrary (by simp)
    ⟨"Strings.resx", .embeddedResource⟩ (by decide)
  have hlibrary : BuildOrder.needed ⟨[resourceLibrary, libraryProgram]⟩ resourceLibrary = [] := by
    cbv
  have hprogram : BuildOrder.needed ⟨[resourceLibrary, libraryProgram]⟩ libraryProgram =
      [resourceLibrary] := by
    cbv
  refine ⟨_, text, rest, horder, hreadable, hid, htext, hrest, hrules.trans ?_, hcommand⟩
  rw [scriptRules]
  simp only [List.flatMap_cons, List.flatMap_nil, hlibrary, hprogram]
  decide

/-- A project that is written where another one with its identifier stands in the order. -/
def sharedProject (name : String) (dependencies : List String) : Project :=
  dependencies.foldl .addDependency { id := "X", name, path := "" }

/-- Two projects with one identifier, and what they need. -/
def sharedProjects : List Project :=
  [sharedProject "M" ["A"], sharedProject "N" ["A", "Z"], { id := "A", name := "A", path := "" },
    { id := "Z", name := "Z", path := "" }]

/-- The order that they are put in. -/
def sharedOrder : BuildOrder :=
  ⟨[{ id := "A", name := "A", path := "" }, sharedProject "N" ["A", "Z"],
    { id := "Z", name := "Z", path := "" }]⟩

/-- A project with a source whose path is a drive only. -/
def driveProject : Project :=
  { id := "X", name := "A", path := "C:\\x\\A.csproj", files := [⟨"C:", .compile⟩] }

/-- Projects with one identifier are one project to a build order, which has it before what only
one of them needs. The path of a drive resolves to a path that ends with a backslash: what is read
goes on in the next line. -/
theorem rules_shared_id_and_drive :
    (∃ o text rest, BuildOrder.ofProjects sharedProjects = .ok o ∧
      (∀ p ∈ sharedProjects, Readable p) ∧ script o [] "" = .ok text ∧
      text = preamble [] "" ++ rest ∧
      ∃ earlier later, rules rest = earlier ++ ⟨"$(BUILD_BASEDIR)\\N.dll",
          ["$(BUILD_BASEDIR)\\A.dll", "$(BUILD_BASEDIR)\\Z.dll"]⟩ :: later ∧
        "$(BUILD_BASEDIR)\\Z.dll" ∉ earlier.map (·.target)) ∧
    ∃ o text rest, BuildOrder.ofProjects [driveProject] = .ok o ∧
      (∀ s ∈ [driveProject.name, driveProject.path, "C:"], s ≠ "" ∧ Over (isWordChar · = true) s ∧
        s.toList.getLast? ≠ some '\\') ∧
      driveProject.TextsOver (· ≠ '\n') ∧ ':' ∉ (artifact driveProject).toList ∧
      script o [] "" = .ok text ∧ text = preamble [] "" ++ rest ∧
      driveProject.sourceFiles.map (fun f => driveProject.resolve f.relativePath) = ["C:\\x\\"] ∧
      ∀ rule ∈ rules rest, rule.prerequisites ≠ ["C:\\x\\"] := by
  constructor
  · have horder : BuildOrder.ofProjects sharedProjects = .ok sharedOrder := by
      rw [BuildOrder.ofProjects_eq_arrange (by decide) (by cbv)]
      decide
    have hreadable : ∀ p ∈ sharedProjects, Readable p := by decide
    have hdependencies : ∀ p ∈ sharedOrder.projects, sharedOrder.dependencies p =
        .ok (p.dependencies.map fun id => { id, name := id, path := "" }) := by
      refine List.forall_mem_cons.2
        ⟨?_, List.forall_mem_cons.2 ⟨?_, List.forall_mem_singleton.2 ?_⟩⟩
      all_goals cbv
    have hneeded : ∀ p ∈ sharedOrder.projects, sharedOrder.dependencies p =
        .ok (sharedOrder.needed p) := fun p hp =>
      BuildOrder.dependencies_needed ⟨_, hdependencies p hp⟩
    have hrules := (reads_ruleLines
      (fun p hp => hreadable p (BuildOrder.mem_of_ofProjects horder hp))
      (fun p hp => BuildOrder.needs_of_dependencies (hneeded p hp)) "").rules_eq
    have hsplit : scriptRules sharedOrder =
        [⟨"all", ["$(BUILD_BASEDIR)\\A.dll", "$(BUILD_BASEDIR)\\N.dll", "$(BUILD_BASEDIR)\\Z.dll"]⟩,
          ⟨"$(BUILD_BASEDIR)\\A.dll", []⟩] ++ ⟨"$(BUILD_BASEDIR)\\N.dll",
            ["$(BUILD_BASEDIR)\\A.dll", "$(BUILD_BASEDIR)\\Z.dll"]⟩ ::
          [⟨"$(BUILD_BASEDIR)\\Z.dll", []⟩, ⟨"clean", []⟩] := by
      rw [scriptRules, List.flatMap_congr fun p hp => by
        rw [BuildOrder.needed_eq (hdependencies p hp)]]
      decide
    exact ⟨_, _, _, horder, hreadable, script_eq_ok.2 ⟨hneeded, rfl⟩, rfl, _, _,
      hrules.trans hsplit, by decide⟩
  · have horder : BuildOrder.ofProjects [driveProject] = .ok ⟨[driveProject]⟩ := by
      rw [BuildOrder.ofProjects_eq_arrange (by decide) (by cbv)]
      decide
    have hdependencies : BuildOrder.dependencies ⟨[driveProject]⟩ driveProject = .ok [] := by cbv
    have hneeded := BuildOrder.needed_eq hdependencies
    refine ⟨_, _, _, horder, by decide, by decide, by decide, script_eq_ok.2 ⟨?_, rfl⟩, rfl,
      by decide, ?_⟩
    · rw [List.forall_mem_singleton, hneeded]
      exact hdependencies
    · rw [rules, String.toList_ofList, ruleLines, List.flatMap_singleton, hneeded]
      decide

end SolutionScript.NMake
