import SolutionScript.Proofs.FileSystem.Matching
import SolutionScript.Proofs.Solution.PathReferences
import SolutionScript.Proofs.Solution.Settings

/-!
# Sources below a descriptor

The sources that a kit finds are all that stands below the folder of the descriptor with a name
that ends as the names of sources do, except in output folders (`findSources_eq_ok`): each of them
once, in ascending order. What stands there is not looked at, so a folder with such a name is a
source as well. These are all sources of a descriptor whose items add none
(`exists_paths_of_read`).
-/

namespace SolutionScript

open FileSystem Fallible Xml

namespace FileSystem

/-! ## Names that end in a text -/

namespace NamePattern

variable {pattern : NamePattern} {cs ending : List Char}

/-- A star stands for any characters. -/
theorem fits_star :
    fits (.star :: pattern) cs = true ↔ ∃ rest, rest <:+ cs ∧ fits pattern rest = true := by
  induction cs with
  | nil => simp [fits]
  | cons c cs ih =>
    rw [fits, Bool.or_eq_true, ih]
    constructor
    · rintro (h | ⟨rest, hrest, h⟩)
      · exact ⟨c :: cs, List.suffix_refl _, h⟩
      · exact ⟨rest, hrest.trans (List.suffix_cons c cs), h⟩
    · rintro ⟨rest, hrest, h⟩
      rcases List.suffix_cons_iff.1 hrest with rfl | hrest
      · exact .inl h
      · exact .inr ⟨rest, hrest, h⟩

/-- Characters stand for themselves. -/
theorem fits_chars : fits (ending.map .char) cs = true ↔ cs = ending := by
  induction ending generalizing cs with
  | nil => simp [fits]
  | cons c ending ih =>
    cases cs with
    | nil => simp [fits]
    | cons c' cs =>
      simp only [List.map_cons, fits, accepts, Bool.and_eq_true, beq_iff_eq, ih, List.cons.injEq]
      exact and_congr_left' eq_comm

theorem fits_ending : fits (.star :: ending.map .char) cs = true ↔ ending <:+ cs := by
  simp only [fits_star, fits_chars, exists_eq_right]

end NamePattern

/-! ## Everything below a folder -/

namespace Disk

variable {d : Disk} {here : Location} {folder : HostPath} {names : List String}
  {pattern : NamePattern} {found : List HostPath}

/-- A search of all folders looks at each of them. -/
theorem locate_of_select_like (hw : d.tree.WellFormed) (hl : d.locate folder = .ok here)
    (hhere : d.tree.entry? here = some .folder)
    (hstands : (d.tree.entry? (here ++ names)).isSome = true)
    (h : d.select [.like pattern] { folder with names := folder.names ++ names } = .ok found) :
    d.locate { folder with names := folder.names ++ names } = .ok (here ++ names) := by
  rcases locate_standing hw hl hhere hstands with hok | hlong
  · exact hok
  · rw [select, folderAt, hlong] at h
    cases h

/-- From a folder, a search for names in all folders finds all that stands below it with a name that
fits. -/
theorem mem_select_names (hw : d.tree.WellFormed) (hl : d.locate folder = .ok here)
    (hhere : d.tree.entry? here = some .folder)
    (h : d.select [.everywhere, .like pattern] folder = .ok found) :
    { folder with names := folder.names ++ names } ∈ found ↔
      (d.tree.entry? (here ++ names)).isSome = true ∧
        ∃ folders name, names = folders ++ [name] ∧ pattern.fits name.toList = true := by
  have hbranches := branches_everywhere h
  constructor
  · intro hq
    obtain ⟨folders, hleads, group, hgroup, hq⟩ := hbranches.of_mem _ hq
    obtain ⟨last, hlast, group', hgroup', hq⟩ := (branches_like hgroup).of_mem _ hq
    cases hgroup'
    have hnames : folder.names ++ names = folder.names ++ folders ++ last := by simpa using hq
    rw [List.append_assoc, List.append_cancel_left_eq] at hnames
    subst hnames
    cases hlast with
    | @like l name _ place stands inner fits =>
      have hdown := hleads.not_mem hw (by simp)
      rw [eq_append_of_locate hl hdown place, List.append_assoc] at stands
      exact ⟨stands, folders, name, rfl, fits⟩
  · rintro ⟨hsome, folders, name, rfl, hfits⟩
    rw [← List.append_assoc] at hsome ⊢
    have hfolder := hw.entry?_of_append (by simp) hsome
    have hleads : LeadsOn d folder [.like pattern] .everywhere folders := by
      by_cases hnil : folders = []
      · rw [hnil]
        exact .stay
      · exact .down hl (hw.mem_foldersBelow.2 ⟨hnil, hfolder⟩)
    obtain ⟨group, hgroup, hsub⟩ := hbranches.exists_group _ hleads
    have hplace := locate_of_select_like hw hl hhere (by rw [hfolder]; rfl) hgroup
    obtain ⟨group', hgroup', hsub'⟩ :=
      (branches_like hgroup).exists_group _ (.like hplace hsome (absurd rfl) hfits)
    cases hgroup'
    exact hsub (hsub' List.mem_cons_self)

theorem mem_glob_names (hw : d.tree.WellFormed) (hnull : hasNull folder = false)
    (hl : d.locate folder = .ok here)
    (h : d.glob folder [.everywhere, .like pattern] = .ok found) :
    { folder with names := folder.names ++ names } ∈ found ↔
      (d.tree.entry? (here ++ names)).isSome = true ∧
        ∃ folders name, names = folders ++ [name] ∧ pattern.fits name.toList = true := by
  rw [glob, bind_eq_ok] at h
  obtain ⟨stands, hstands, h⟩ := h
  cases stands with
  | false =>
    cases h
    refine iff_of_false List.not_mem_nil ?_
    rintro ⟨hsome, folders, name, rfl, -⟩
    have hhere := hw.entry?_of_append (by simp) hsome
    cases hstands.symm.trans (isFolder_iff.2 ⟨hnull, here, hl, hhere⟩)
  | true =>
    obtain ⟨-, here', hl', hhere⟩ := isFolder_iff.1 hstands
    obtain rfl := Except.ok.inj (hl.symm.trans hl')
    exact mem_select_names hw hl hhere h

end Disk

end FileSystem

namespace Descriptor.Properties

variable {d : Disk} {p q : Project} {root : Element} {file folder : HostPath} {here : Location}
  {references : List ProjectReference}

/-! ## What counts as a source -/

/-- How the names of sources end. -/
def sourceEnding : Language → String
  | .csharp => ".cs"
  | .vb => ".vb"

/-- Names that lead down to a source: the last one ends as the names of sources do, and no other one
is that of an output folder. -/
def IsSource (language : Language) (names : List String) : Prop :=
  ∃ folders name, names = folders ++ [name] ∧
    (sourceEnding language).toList <:+ name.toList ∧
    ∀ folder ∈ folders, Text.lower folder ≠ "bin" ∧ Text.lower folder ≠ "obj"

theorem isSource_append {language : Language} {folders : List String} {name : String} :
    IsSource language (folders ++ [name]) ↔ (sourceEnding language).toList <:+ name.toList ∧
      ∀ folder ∈ folders, Text.lower folder ≠ "bin" ∧ Text.lower folder ≠ "obj" := by
  constructor
  · rintro ⟨folders', name', heq, h⟩
    obtain ⟨rfl, hname⟩ := List.append_inj' heq rfl
    rwa [List.singleton_inj.1 hname]
  · exact fun h => ⟨folders, name, rfl, h⟩

theorem exists_sourcePattern (language : Language) : ∃ pattern : NamePattern,
    sourcePattern language = [.everywhere, .like pattern] ∧
      ∀ cs, pattern.fits cs = true ↔ (sourceEnding language).toList <:+ cs := by
  cases language with
  | csharp =>
    have hparse : NamePattern.parse "*.cs".toList = .star :: ".cs".toList.map .char := by
      decide +kernel
    refine ⟨_, rfl, fun cs => ?_⟩
    rw [hparse]
    exact NamePattern.fits_ending
  | vb =>
    have hparse : NamePattern.parse "*.vb".toList = .star :: ".vb".toList.map .char := by
      decide +kernel
    refine ⟨_, rfl, fun cs => ?_⟩
    rw [hparse]
    exact NamePattern.fits_ending

/-- What a kit finds below a folder, as the names from there. -/
theorem findSources_eq_ok {language : Language} {sources : List ProjectFile}
    (hw : d.tree.WellFormed) (hnull : Disk.hasNull folder = false)
    (hl : d.locate folder = .ok here) (h : findSources d language folder = .ok sources) :
    ∃ paths : List (List String),
      sources = paths.map (fun names => ⟨Include.descriptorPath names, .compile⟩) ∧
      paths.Pairwise (· < ·) ∧
      ∀ names, names ∈ paths ↔
        (d.tree.entry? (here ++ names)).isSome = true ∧ IsSource language names := by
  obtain ⟨pattern, hpattern, hfits⟩ := exists_sourcePattern language
  rw [findSources, hpattern] at h
  split at h
  · cases h
  · rename_i found hfound
    cases h
    have hbelow : ∀ p ∈ found, Below folder p := fun p => Disk.below_of_mem_glob hfound
    have hsorted : ∀ p ∈ sorted found, Below folder p := fun p hp => hbelow p (mem_sorted.1 hp)
    refine ⟨_, rfl, ?_, fun names => ?_⟩
    · exact (List.pairwise_map.2
        (pairwise_sorted_below hbelow (Disk.nodup_glob hw hfound))).filter _
    · have hfolders (folders : List String) (name : String) :
          (!(folders ++ [name]).dropLast.any isOutputFolder) = true ↔
            ∀ folder ∈ folders, Text.lower folder ≠ "bin" ∧ Text.lower folder ≠ "obj" := by
        simp [isOutputFolder]
      rw [List.mem_filter, mem_map_below hsorted, mem_sorted,
        Disk.mem_glob_names hw hnull hl hfound]
      constructor
      · rintro ⟨⟨hstands, folders, name, rfl, hname⟩, houtput⟩
        exact ⟨hstands, folders, name, rfl, (hfits _).1 hname, (hfolders _ _).1 houtput⟩
      · rintro ⟨hstands, folders, name, rfl, hname, houtput⟩
        exact ⟨⟨hstands, folders, name, rfl, (hfits _).2 hname⟩, (hfolders _ _).2 houtput⟩

/-! ## Reading -/

/-- No item of a descriptor adds a source. -/
def AddsNoSources (d : Disk) (p : Project) (file : HostPath) (root : Element) : Prop :=
  ∀ e ∈ (root.childrenNamed "ItemGroup").flatMap (·.children), ∀ files,
    readItem d p.directory file.parent e = .ok (.files files) →
      ∀ f ∈ files, f.buildAction ≠ .compile

/-- The folder of a file that can be read is there. -/
theorem exists_locate_parent {bytes : List UInt8} (h : d.read file = .ok bytes) :
    Disk.hasNull file.parent = false ∧ ∃ here, d.locate file.parent = .ok here := by
  obtain ⟨hnull, l, hl, -⟩ := Disk.read_eq_ok.1 h
  by_cases hnames : file.names = []
  · have hparent : file.parent = file := by
      rw [HostPath.parent, hnames, List.dropLast_nil, ← hnames]
    rw [hparent]
    exact ⟨hnull, l, hl⟩
  · have hfile : file = { file.parent with
        names := file.parent.names ++ [file.names.getLast hnames] } := by
      rw [HostPath.parent, List.dropLast_append_getLast]
    rw [hfile] at hnull hl
    obtain ⟨here, hhere, -⟩ := Disk.locate_append hl
    exact ⟨Disk.hasNull_of_append hnull, here, hhere⟩

theorem sourceFiles_applyItems {items : List Item} (hp : p.sourceFiles = [])
    (hitems : ∀ files, Item.files files ∈ items → ∀ f ∈ files, f.buildAction ≠ .compile) :
    (applyItems p items).sourceFiles = [] := by
  rw [Project.sourceFiles, Project.filesWith] at hp ⊢
  rw [applyItems, List.filter_append, hp, List.nil_append, List.filter_eq_nil_iff]
  intro f hf
  obtain ⟨item, hitem, hf⟩ := List.mem_flatMap.1 hf
  cases item with
  | files files => simpa using hitems files hitem f hf
  | assembly reference => cases hf
  | project reference => cases hf
  | nothing => cases hf

/-- What a kit finds is compiled. -/
theorem filter_of_findSources {language : Language} {sources : List ProjectFile}
    (h : findSources d language folder = .ok sources) :
    sources.filter (·.buildAction = .compile) = sources := by
  rw [findSources] at h
  split at h
  · cases h
  · cases h
    refine List.filter_eq_self.2 fun f hf => ?_
    obtain ⟨names, -, rfl⟩ := List.mem_map.1 hf
    rfl

/-- What a kit finds are all the sources of a project that has no others. -/
theorem sourceFiles_of_finish {items : List Item} (hp : (applyItems p items).sourceFiles = [])
    (h : finish d true folder p items = .ok (q, references)) :
    findSources d p.kind folder = .ok q.sourceFiles := by
  rw [finish, hp] at h
  obtain ⟨sources, hsources, h⟩ := map_eq_ok.1 h
  cases h
  rw [Project.sourceFiles, Project.filesWith] at hp ⊢
  rw [List.filter_append, hp, List.nil_append, filter_of_findSources hsources]
  exact hsources

/-- The language that the name of a descriptor shows. -/
def languageOf (file : HostPath) : Language :=
  if Text.lower file.suffix = ".vbproj" then .vb else .csharp

theorem kind_withLanguage (hkind : p.kind = .csharp) :
    (withLanguage p file).kind = languageOf file := by
  rw [withLanguage, languageOf]
  split
  · rfl
  · exact hkind

theorem files_withLanguage (p : Project) (file : HostPath) :
    (withLanguage p file).files = p.files := by
  rw [withLanguage]
  split <;> rfl

/-- The sources of a descriptor with a kit whose items add none, as the names from its folder. -/
theorem exists_paths_of_read (hw : d.tree.WellFormed) (hload : load d file p.name = .ok root)
    (hroot : root.localName = "Project")
    (hkit : root.value "Sdk" ≠ "" ∨ root.childrenNamed "Sdk" ≠ []) (hkind : p.kind = .csharp)
    (hp : p.sourceFiles = []) (hitems : AddsNoSources d p file root)
    (h : Descriptor.read d p file = .ok (q, references)) :
    ∃ (here : Location) (paths : List (List String)), d.locate file.parent = .ok here ∧
      q.sourceFiles = paths.map (fun names => ⟨Include.descriptorPath names, .compile⟩) ∧
      paths.Pairwise (· < ·) ∧
      ∀ names, names ∈ paths ↔
        (d.tree.entry? (here ++ names)).isSome = true ∧ IsSource (languageOf file) names := by
  obtain ⟨bytes, hbytes, -⟩ := Template.load_eq_ok.1 hload
  obtain ⟨hnull, here, hhere⟩ := exists_locate_parent hbytes
  obtain ⟨q', hread, rfl⟩ := exists_read_properties hload hroot h
  rw [read_eq_finish] at hread
  obtain ⟨items, hmapped, hfinish⟩ := bind_eq_ok.1 hread
  have huses : (decide (root.value "Sdk" ≠ "") || !(root.childrenNamed "Sdk").isEmpty) = true := by
    simpa using hkit
  have hnone : (applyItems (applyProperties (withLanguage p file) (PropertyTable.ofRoot root) file)
      items).sourceFiles = [] := by
    refine sourceFiles_applyItems ?_ fun files hfiles => ?_
    · rwa [Project.sourceFiles, Project.filesWith, applyProperties, files_withLanguage]
    · obtain ⟨e, he, hitem⟩ := (mem_iff_of_mapM_eq_ok hmapped).1 hfiles
      exact hitems e he files hitem
  rw [huses] at hfinish
  have hfound := sourceFiles_of_finish hnone hfinish
  rw [applyProperties, kind_withLanguage hkind] at hfound
  obtain ⟨paths, hpaths⟩ := findSources_eq_ok hw hnull hhere hfound
  exact ⟨here, paths, hhere, hpaths⟩

/-- Where no item of a descriptor with a kit adds a source, the sources are all that stands below
its folder and has the name of a source, each of them once, in ascending order. If no folder has
such a name, they are the files. -/
theorem read_sources (hw : d.tree.WellFormed) (hload : load d file p.name = .ok root)
    (hroot : root.localName = "Project")
    (hkit : root.value "Sdk" ≠ "" ∨ root.childrenNamed "Sdk" ≠ []) (hkind : p.kind = .csharp)
    (hp : p.sourceFiles = []) (hitems : AddsNoSources d p file root)
    (h : Descriptor.read d p file = .ok (q, references)) :
    ∃ (here : Location) (paths : List (List String)), d.locate file.parent = .ok here ∧
      q.sourceFiles = paths.map (fun names => ⟨Include.descriptorPath names, .compile⟩) ∧
      paths.Pairwise (· < ·) ∧
      (∀ names, names ∈ paths ↔
        (d.tree.entry? (here ++ names)).isSome = true ∧ IsSource (languageOf file) names) ∧
      ((∀ names, d.tree.entry? (here ++ names) = some .folder →
          ¬ IsSource (languageOf file) names) →
        ∀ names, names ∈ paths ↔
          (∃ bytes, d.tree.entry? (here ++ names) = some (.file bytes)) ∧
            IsSource (languageOf file) names) := by
  obtain ⟨here, paths, hhere, hpaths, hascending, hmem⟩ :=
    exists_paths_of_read hw hload hroot hkit hkind hp hitems h
  refine ⟨here, paths, hhere, hpaths, hascending, hmem, fun hfolders names => ?_⟩
  rw [hmem]
  refine and_congr_left fun hsource => ?_
  cases hentry : d.tree.entry? (here ++ names) with
  | none => simp
  | some entry =>
    cases entry with
    | folder => exact absurd hsource (hfolders names hentry)
    | file bytes => simp

/-- A descriptor with a kit, and with an item that is no source. -/
def kitTree : Element :=
  ⟨"Project", [("Sdk", "Microsoft.NET.Sdk")], [
    .element "ItemGroup" [] [.element "None" [("Include", "Notes.txt")] []]]⟩

/-- A disk with the descriptor. Beside it stand a source file, a folder with the name of a source,
and an output folder. -/
def kitDisk : Disk where
  tree := ⟨[(["Work"], .folder), (["Work", "App.csproj"], documentFile kitTree),
    (["Work", "Old.cs"], .folder), (["Work", "Main.cs"], .file []), (["Work", "OBJ"], .folder),
    (["Work", "OBJ", "Made.cs"], .file [])]⟩
  home := ["Work"]

theorem wellFormed_kitDisk : kitDisk.tree.WellFormed := by decide

theorem load_kitDisk :
    load kitDisk ⟨.relative, ["App.csproj"]⟩ appProject.name = .ok kitTree :=
  load_documentFile kitDisk _ rfl (by decide)

theorem addsNoSources_kitTree :
    AddsNoSources kitDisk appProject ⟨.relative, ["App.csproj"]⟩ kitTree := by
  have hitem : readItem kitDisk appProject.directory ⟨.relative, []⟩
      ⟨"None", [("Include", "Notes.txt")], []⟩ = .ok (.files [⟨"Notes.txt", .none⟩]) := rfl
  intro e he files hfiles f hf
  obtain rfl := List.mem_singleton.1 he
  cases hitem.symm.trans hfiles
  rw [List.mem_singleton.1 hf]
  decide

theorem exists_read_kitDisk : ∃ q references,
    Descriptor.read kitDisk appProject ⟨.relative, ["App.csproj"]⟩ = .ok (q, references) := by
  have hends : (Descriptor.read kitDisk appProject ⟨.relative, ["App.csproj"]⟩).isOk = true := by
    rw [Descriptor.read, load_kitDisk]
    decide +kernel
  cases hread : Descriptor.read kitDisk appProject ⟨.relative, ["App.csproj"]⟩ with
  | error e =>
    rw [hread] at hends
    cases hends
  | ok r => exact ⟨r.1, r.2, rfl⟩

theorem read_sources_kit : ∃ (q : Project) (references : List ProjectReference)
    (paths : List (List String)),
    Descriptor.read kitDisk appProject ⟨.relative, ["App.csproj"]⟩ = .ok (q, references) ∧
      q.sourceFiles = paths.map (fun names => ⟨Include.descriptorPath names, .compile⟩) ∧
      paths.Pairwise (· < ·) ∧ ["Main.cs"] ∈ paths ∧ ["OBJ", "Made.cs"] ∉ paths := by
  obtain ⟨q, references, hread⟩ := exists_read_kitDisk
  obtain ⟨here, paths, hhere, hpaths, hascending, hmem, -⟩ := read_sources wellFormed_kitDisk
    load_kitDisk rfl (.inl (by decide)) rfl rfl addsNoSources_kitTree hread
  obtain rfl : ["Work"] = here := Except.ok.inj hhere
  have hmain : IsSource .csharp ([] ++ ["Main.cs"]) :=
    isSource_append.2 ⟨by decide, by simp⟩
  have hmade : ¬ IsSource .csharp (["OBJ"] ++ ["Made.cs"]) := fun h =>
    ((isSource_append.1 h).2 "OBJ" (by simp)).2 (by decide)
  exact ⟨q, references, paths, hread, hpaths, hascending, (hmem _).2 ⟨by decide, hmain⟩,
    fun h => hmade ((hmem _).1 h).2⟩

/-- A folder with the name of a source is one of the sources. -/
theorem folder_mem_sourceFiles :
    kitDisk.tree.entry? ["Work", "Old.cs"] = some .folder ∧
      ∃ q references,
        Descriptor.read kitDisk appProject ⟨.relative, ["App.csproj"]⟩ = .ok (q, references) ∧
          ⟨"Old.cs", .compile⟩ ∈ q.sourceFiles := by
  refine ⟨by decide, ?_⟩
  obtain ⟨q, references, hread⟩ := exists_read_kitDisk
  obtain ⟨here, paths, hhere, hpaths, -, hmem⟩ := exists_paths_of_read wellFormed_kitDisk
    load_kitDisk rfl (.inl (by decide)) rfl rfl addsNoSources_kitTree hread
  obtain rfl : ["Work"] = here := Except.ok.inj hhere
  have hold : IsSource .csharp ([] ++ ["Old.cs"]) :=
    isSource_append.2 ⟨by decide, by simp⟩
  have hfound : ["Old.cs"] ∈ paths := (hmem _).2 ⟨by decide, hold⟩
  exact ⟨q, references, hread, hpaths ▸ List.mem_map.2 ⟨_, hfound, rfl⟩⟩

end Descriptor.Properties

end SolutionScript
