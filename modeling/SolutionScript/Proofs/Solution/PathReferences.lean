import SolutionScript.Proofs.Solution.Dialects
import SolutionScript.Proofs.Solution.Rearranged
import SolutionScript.Proofs.Solution.Respelled

/-!
# References by path

A reference to a project without an identifier points to the project at its path. However the path
is spelled, the same solution is loaded (`load_respelled`), if the reference is found: a reference
that points to nothing keeps its path as it is written. The descriptor with the reference is read
alike in both spellings but for the reference (`Gap.exists_read`), and what is compared is the same
(`DescriptorPath.comparable_joined`).
-/

namespace SolutionScript

open FileSystem Fallible Xml

namespace Descriptor.Properties

/-! ## One item of a descriptor -/

/-- A descriptor with properties, with a gap among its items. -/
structure Gap where
  name : String
  attributes : Keyed String
  before : List Node
  group : String
  groupAttributes : Keyed String
  groupBefore : List Node
  groupAfter : List Node
  after : List Node
  name_eq : localPart name = "Project"
  group_eq : localPart group = "ItemGroup"

namespace Gap

variable (g : Gap)

/-- The descriptor with an item in its gap. -/
def fill (item : Element) : Element :=
  ⟨g.name, g.attributes, g.before ++ .element g.group g.groupAttributes
    (g.groupBefore ++ item.toNode :: g.groupAfter) :: g.after⟩

theorem children_fill (item : Element) : (g.fill item).children =
    g.before.filterMap Element.ofNode? ++ ⟨g.group, g.groupAttributes,
      g.groupBefore ++ item.toNode :: g.groupAfter⟩ :: g.after.filterMap Element.ofNode? := by
  rw [Element.children, fill, List.filterMap_append, List.filterMap_cons]
  rfl

/-- Whatever the item is, the other parts of the descriptor are the same. -/
theorem childrenNamed_fill {n : String} (h : n ≠ "ItemGroup") (item item' : Element) :
    (g.fill item).childrenNamed n = (g.fill item').childrenNamed n := by
  have hgroup (content : List Node) :
      decide (Element.localName ⟨g.group, g.groupAttributes, content⟩ = n) = false :=
    decide_eq_false fun heq => h (heq.symm.trans g.group_eq)
  rw [Element.childrenNamed, Element.childrenNamed, children_fill, children_fill,
    List.filter_append, List.filter_append, List.filter_cons, List.filter_cons, hgroup, hgroup]
  rfl

/-- The item stands between others, which are the same whatever it is. -/
theorem exists_items : ∃ before after, ∀ item,
    ((g.fill item).childrenNamed "ItemGroup").flatMap (·.children) = before ++ item :: after := by
  refine ⟨((g.before.filterMap Element.ofNode?).filter (·.localName = "ItemGroup")).flatMap
      (·.children) ++ g.groupBefore.filterMap Element.ofNode?,
    g.groupAfter.filterMap Element.ofNode? ++
      ((g.after.filterMap Element.ofNode?).filter (·.localName = "ItemGroup")).flatMap
        (·.children), fun item => ?_⟩
  have hgroup (content : List Node) :
      decide (Element.localName ⟨g.group, g.groupAttributes, content⟩ = "ItemGroup") = true :=
    decide_eq_true g.group_eq
  have hitem : Element.children ⟨g.group, g.groupAttributes,
      g.groupBefore ++ item.toNode :: g.groupAfter⟩ =
        g.groupBefore.filterMap Element.ofNode? ++
          item :: g.groupAfter.filterMap Element.ofNode? := by
    rw [Element.children, List.filterMap_append, List.filterMap_cons]
    rfl
  rw [Element.childrenNamed, children_fill, List.filter_append, List.filter_cons, hgroup,
    if_pos rfl, List.flatMap_append, List.flatMap_cons, hitem]
  simp

end Gap

/-- The references to projects among some items. -/
def referencesAmong (items : List Item) : List ProjectReference :=
  items.filterMap fun
    | .project reference => some reference
    | _ => none

/-- A project with what its items add, among them the sources that a kit finds. -/
def finish (d : Disk) (usesKit : Bool) (folder : HostPath) (p : Project) (items : List Item) :
    Except Failure (Project × List ProjectReference) :=
  let p := applyItems p items
  if usesKit && p.sourceFiles.isEmpty then
    (findSources d p.kind folder).map fun sources =>
      ({ p with files := p.files ++ sources }, referencesAmong items)
  else .ok (p, referencesAmong items)

variable {d : Disk} {p : Project} {file : HostPath}

theorem read_eq_finish (root : Element) : read d p root file =
    ((root.childrenNamed "ItemGroup").flatMap (·.children)).mapM
      (readItem d p.directory file.parent) >>=
        finish d (decide (root.value "Sdk" ≠ "") || !(root.childrenNamed "Sdk").isEmpty) file.parent
          (applyProperties (withLanguage p file) (PropertyTable.ofRoot root) file) := by
  have hdirectory : (applyProperties (withLanguage p file) (PropertyTable.ofRoot root)
      file).directory = p.directory := by
    rw [Project.directory, Project.directory, ← (withLanguage_describes p file).toKeeps.path,
      applyProperties]
  rw [read]
  dsimp only
  rw [hdirectory]
  refine congrArg _ (funext fun items => ?_)
  dsimp only [finish]
  split
  · cases findSources d _ file.parent <;> rfl
  · rfl

/-- A reference to a project is listed, and makes no other difference. -/
theorem finish_project (usesKit : Bool) (folder : HostPath) (p : Project) (before after : List Item)
    (r : ProjectReference) : finish d usesKit folder p (before ++ .project r :: after) =
      (finish d usesKit folder p (before ++ after)).map fun (q, _) =>
        (q, referencesAmong before ++ r :: referencesAmong after) := by
  have happlied :
      applyItems p (before ++ .project r :: after) = applyItems p (before ++ after) := by
    simp [applyItems]
  have hreferences : referencesAmong (before ++ .project r :: after) =
      referencesAmong before ++ r :: referencesAmong after := by
    simp [referencesAmong]
  rw [finish, finish, happlied, hreferences]
  dsimp only
  split
  · cases findSources d _ folder <;> rfl
  · rfl

/-- Where the item is a reference to a project, the descriptor is read alike but for the
reference. -/
theorem Gap.exists_read (g : Gap) (d : Disk) (p : Project) (file : HostPath) :
    ∃ x : Except Failure (Project × List ProjectReference × List ProjectReference),
      ∀ item r, readItem d p.directory file.parent item = .ok (.project r) →
        read d p (g.fill item) file = x.map fun (q, before, after) =>
          (q, before ++ r :: after) := by
  obtain ⟨before, after, hitems⟩ := g.exists_items
  let blank : Element := g.fill ⟨"", [], []⟩
  let rest (known more : List Item) := finish d
    (decide (blank.value "Sdk" ≠ "") || !(blank.childrenNamed "Sdk").isEmpty) file.parent
    (applyProperties (withLanguage p file) (PropertyTable.ofRoot blank) file) (known ++ more)
  refine ⟨do
    let known ← before.mapM (readItem d p.directory file.parent)
    let more ← after.mapM (readItem d p.directory file.parent)
    (rest known more).map fun (q, _) => (q, referencesAmong known, referencesAmong more),
    fun item r hitem => ?_⟩
  have hproperties : PropertyTable.ofRoot (g.fill item) = PropertyTable.ofRoot blank := by
    rw [PropertyTable.ofRoot, PropertyTable.ofRoot, g.childrenNamed_fill (by decide)]
  have hsdk : (g.fill item).childrenNamed "Sdk" = blank.childrenNamed "Sdk" :=
    g.childrenNamed_fill (by decide) ..
  have hvalue : (g.fill item).value "Sdk" = blank.value "Sdk" := rfl
  rw [read_eq_finish, hitems, hproperties, hsdk, hvalue, List.mapM_append, List.mapM_cons, hitem]
  cases before.mapM (readItem d p.directory file.parent) with
  | error e => rfl
  | ok known =>
    cases after.mapM (readItem d p.directory file.parent) with
    | error e => rfl
    | ok more =>
      refine (finish_project _ _ _ known more r).trans ?_
      show (rest known more).map _ = ((rest known more).map _).map _
      cases rest known more <;> rfl

/-- The item with another path in it. -/
def withInclude (item : Element) (path : String) : Element :=
  { item with attributes := item.attributes.put "Include" path }

theorem value_withInclude (item : Element) (path : String) :
    (withInclude item path).value "Include" = path := by
  rw [Element.value, Element.value?, withInclude, Keyed.get?_put_self, Option.getD_some]

/-- An item refers to a project by its path, and not by an identifier. -/
structure IsPathReference (item : Element) : Prop where
  name : item.localName = "ProjectReference"
  unidentified : childText item "Project" = ""
  given : item.value "Include" ≠ ""

theorem IsPathReference.withInclude {item : Element} (h : IsPathReference item) {path : String}
    (hpath : path ≠ "") : IsPathReference (withInclude item path) :=
  ⟨h.name, h.unidentified, by rwa [value_withInclude]⟩

/-- The reference that an item makes, in the descriptor of a project. -/
def referenceOf (p : Project) (item : Element) : ProjectReference :=
  projectReference p.directory (item.value "Include") item

theorem IsPathReference.readItem_eq {item : Element} (h : IsPathReference item) (p : Project)
    (folder : HostPath) :
    readItem d p.directory folder item = .ok (.project (referenceOf p item)) := by
  simp only [readItem, h.given, if_false, h.name]
  rfl

end Descriptor.Properties

/-! ## Loading -/

namespace Solution

open Descriptor Descriptor.Properties

variable {d d' : Disk} {file base : HostPath} {mappings : List PathMapping} {place : Location}
  {g : Gap} {item item' : Element}

/-- The descriptor of a project is read from a place. -/
def ReadFrom (d : Disk) (base : HostPath) (mappings : List PathMapping) (place : Location)
    (p : Project) : Prop :=
  ∃ source, descriptorFile base mappings p.name p.path = .ok source ∧ d.locate source = .ok place

/-- A document stands at a place. -/
def Holds (d : Disk) (place : Location) (root : Element) : Prop :=
  ∃ bytes, d.tree.entry? place = some (.file bytes) ∧ Xml.Document.parse bytes = .ok root

/-- A project is loaded with the one reference in place of the other, if it is read from a
place. -/
inductive Loaded.Exchanged (at? : Project → Prop) (r r' : Project → ProjectReference) :
    Loaded → Loaded → Prop
  | same (l : Loaded) : Exchanged at? r r' l l
  | reference {p : Project} (h : at? p) (before after : List ProjectReference) (line : ℕ) :
    Exchanged at? r r' ⟨p, before ++ r p :: after, line⟩ ⟨p, before ++ r' p :: after, line⟩

/-- A descriptor is the same on both disks, or it is the one at the place. -/
theorem load_cases {root root' : Element} (hd : SameBut place d d') (h : Holds d place root)
    (h' : Holds d' place root') (source : HostPath) (name : String) :
    Descriptor.load d source name = Descriptor.load d' source name ∨
      d.locate source = .ok place ∧ Descriptor.load d source name = .ok root ∧
        Descriptor.load d' source name = .ok root' := by
  obtain ⟨bytes, hentry, hparse⟩ := h
  obtain ⟨bytes', hentry', hparse'⟩ := h'
  rcases hd.read_cases hentry hentry' source with hread | ⟨hplace, hread, hread'⟩
  · exact .inl (by rw [Descriptor.load, Descriptor.load, hread])
  · exact .inr ⟨hplace, Template.load_eq_ok.2 ⟨bytes, hread, hparse⟩,
      Template.load_eq_ok.2 ⟨bytes', hread', hparse'⟩⟩

theorem localName_fill (g : Gap) (item : Element) : (g.fill item).localName = "Project" := g.name_eq

/-- A descriptor with properties is no template. -/
theorem not_isTemplate_fill (g : Gap) (item general : Element) :
    ¬ Template.IsTemplate (g.fill item) general := fun h =>
  absurd ((localName_fill g item).symm.trans h.1) (by decide)

theorem referenceOf_congr {p q : Project} (h : q.path = p.path) (item : Element) :
    referenceOf q item = referenceOf p item := by
  rw [referenceOf, referenceOf, Project.directory, Project.directory, h]

theorem loadsAlike_exchanged (hd : SameBut place d d') (h : Holds d place (g.fill item))
    (h' : Holds d' place (g.fill item')) (hitem : IsPathReference item)
    (hitem' : IsPathReference item') :
    LoadsAlike d d' file base mappings (Both fun _ => True) Eq
      (Loaded.Exchanged (ReadFrom d base mappings place) (referenceOf · item)
        (referenceOf · item')) where
  home := hd.home_eq
  other _ _ := ⟨trivial, trivial⟩
  refused _ _ _ _ := ⟨trivial, trivial⟩
  template source name := by
    rcases load_cases hd h h' source name with heq | ⟨-, hload, hload'⟩
    · rw [heq]
      exact (Agree.refl _).mono (fun _ _ he => he) fun root _ hroot =>
        hroot ▸ Template.SameTemplate.refl root
    · rw [hload, hload']
      exact .ok fun general => iff_of_false (not_isTemplate_fill g item' general)
        (not_isTemplate_fill g item general)
  descriptor := by
    rintro p source line _ hsource rfl
    rcases load_cases hd h h' source p.name with heq | ⟨hplace, hload, hload'⟩
    · rw [Descriptor.read, Descriptor.read, heq, hd.readProperties_eq]
      exact (Agree.refl _).mono (fun _ _ he => he) fun r _ hr => hr ▸ .same _
    · obtain ⟨x, hx⟩ := g.exists_read d p source
      rw [Descriptor.read, Descriptor.read, hload, hload', ← hd.readProperties_eq]
      simp only [bind, Except.bind, localName_fill, hx _ _ (hitem.readItem_eq p _),
        hx _ _ (hitem'.readItem_eq p _)]
      cases hend : x with
      | error e => exact Agree.error
      | ok r =>
        obtain ⟨q, before, after⟩ := r
        have hread := hx _ _ (hitem.readItem_eq p _)
        rw [hend] at hread
        have hkeeps := (Properties.read_describes hread).toKeeps
        have hfrom : ReadFrom d base mappings place { q with outputPath := outputPathOf q } :=
          ⟨source, by rw [← hsource]; exact congrArg₂ _ hkeeps.name hkeeps.path, hplace⟩
        rw [← referenceOf_congr hkeeps.path item, ← referenceOf_congr hkeeps.path item']
        exact .ok (.reference hfrom before after line)
  project hl := by
    cases hl <;> rfl

/-- A reference points to a project of a solution by its path. -/
def Finds (ps : List Project) (r : ProjectReference) : Prop :=
  ∃ target ∈ ps, comparable target.path = comparable (r.path.getD "")

/-- Two references by paths that are the same for comparisons point to the same project, if they
point to one. -/
theorem resolveReference_of_comparable {ps : List Project} {r r' : ProjectReference}
    (hid : r.projectId = none) (hid' : r'.projectId = none) (hpath : r.path.getD "" ≠ "")
    (hpath' : r'.path.getD "" ≠ "")
    (h : comparable (r'.path.getD "") = comparable (r.path.getD "")) (hfinds : Finds ps r) :
    ∃ target ∈ ps, resolveReference ps r = target.id ∧ resolveReference ps r' = target.id := by
  obtain ⟨known, hknown, hsame⟩ := hfinds
  obtain ⟨target, htarget⟩ : ∃ target,
      ps.find? (fun p => comparable p.path = comparable (r.path.getD "")) = some target :=
    Option.isSome_iff_exists.1 (List.find?_isSome.2 ⟨known, hknown, by simpa using hsame⟩)
  refine ⟨target, List.mem_of_find?_eq_some htarget, ?_, ?_⟩
  · simp [resolveReference, hid, hpath, htarget]
  · simp [resolveReference, hid', hpath', h, htarget]

/-- What a reference points to is a matter of the identifiers and paths of the projects. -/
theorem resolveReference_congr {ps qs : List Project}
    (h : List.Forall₂ (fun p q : Project => q.id = p.id ∧ q.path = p.path) ps qs)
    (r : ProjectReference) : resolveReference qs r = resolveReference ps r := by
  have hfind (P : String → Bool) :
      (qs.find? fun p => P p.path).map (·.id) = (ps.find? fun p => P p.path).map (·.id) := by
    induction h with
    | nil => rfl
    | cons hp _ ih =>
      rw [List.find?_cons, List.find?_cons, hp.2]
      split
      · exact congrArg some hp.1
      · exact ih
  have hany (P : String → Bool) : (qs.any fun p => P p.id) = ps.any fun p => P p.id := by
    clear hfind
    induction h with
    | nil => rfl
    | cons hp _ ih => rw [List.any_cons, List.any_cons, ih, hp.1]
  have hpath := hfind fun path => comparable path = comparable (r.path.getD "")
  have hid := hany fun id => id = r.projectId.getD ""
  simp only [resolveReference, hid]
  generalize qs.find? _ = found' at hpath ⊢
  generalize ps.find? _ = found at hpath ⊢
  cases found' with
  | none =>
    cases found with
    | none => rfl
    | some p => cases hpath
  | some q =>
    cases found with
    | none => cases hpath
    | some p => simp only [Option.some.inj hpath]

/-- The identifiers and paths of projects are the same once references are resolved. -/
theorem forall₂_of_resolve {projects : List Project} {dependencies : Keyed (List String)}
    {loaded : List Loaded} {ps : List Project}
    (h : loaded.mapM (resolve file projects dependencies) = .ok ps) :
    List.Forall₂ (fun p q : Project => q.id = p.id ∧ q.path = p.path) (loaded.map (·.project)) ps :=
  List.forall₂_map_left_iff.2 ((mapM_eq_ok.1 h).imp fun _ _ hl =>
    ⟨(resolve_eq_ok hl).1.id, (resolve_eq_ok hl).1.path⟩)

/-- A project comes out the same with the one reference in place of the other, if both point to the
same project. -/
theorem resolve_exchanged {at? : Project → Prop} {r r' : Project → ProjectReference}
    {projects : List Project} {dependencies : Keyed (List String)} {l l' : Loaded}
    (h : Loaded.Exchanged at? r r' l l')
    (hr : at? l.project → resolveReference projects (r' l.project) =
      resolveReference projects (r l.project)) :
    resolve file projects dependencies l' = resolve file projects dependencies l := by
  cases h with
  | same => rfl
  | @reference p hat before after line =>
    have hids : (before ++ r' p :: after).map (resolveReference projects) =
        (before ++ r p :: after).map (resolveReference projects) := by
      rw [List.map_append, List.map_append, List.map_cons, List.map_cons, hr hat]
    rw [resolve, resolve, hids]

/-- However the path of a project is spelled that a reference without an identifier has, the
reference points to the same project and the same solution is loaded, if the reference is found by
its path wherever its descriptor is read, and all paths are relative. -/
theorem load_respelled {s : Solution} {path : String} (hd : SameBut place d d')
    (h : Holds d place (g.fill item)) (h' : Holds d' place (g.fill (withInclude item path)))
    (hitem : IsPathReference item)
    (hrelative : DescriptorPath.Relative (item.value "Include").toList)
    (hpath : DescriptorPath.Respelled (item.value "Include").toList path.toList)
    (hload : load d file mappings = .ok s)
    (hprojects : ∀ p ∈ s.projects, DescriptorPath.Relative p.path.toList)
    (hfinds : ∀ p ∈ s.projects, ReadFrom d file.parent mappings place p →
      Finds s.projects (referenceOf p item)) :
    load d' file mappings = .ok s ∧
      ∀ p ∈ s.projects, ReadFrom d file.parent mappings place p →
        ∃ target ∈ s.projects, resolveReference s.projects (referenceOf p item) = target.id ∧
          resolveReference s.projects (referenceOf p (withInclude item path)) = target.id := by
  have hne : path ≠ "" := fun hnil => hpath.ne_nil (by simpa using hitem.given) (by simp [hnil])
  have hpoints : ∀ p ∈ s.projects, ReadFrom d file.parent mappings place p →
      ∃ target ∈ s.projects, resolveReference s.projects (referenceOf p item) = target.id ∧
        resolveReference s.projects (referenceOf p (withInclude item path)) = target.id := by
    intro p hp hfrom
    refine resolveReference_of_comparable (if_pos hitem.unidentified)
      (if_pos (hitem.withInclude hne).unidentified) (DescriptorPath.normal_ne_empty _)
      (DescriptorPath.normal_ne_empty _) ?_ (hfinds p hp hfrom)
    have hfolder := DescriptorPath.relative_directory (hprojects p hp)
    have hjoined := DescriptorPath.comparable_joined hfolder hrelative hpath
    rwa [← value_withInclude item path] at hjoined
  refine ⟨?_, hpoints⟩
  have hloads : LoadsAlike d d' file file.parent mappings _ Eq _ :=
    loadsAlike_exchanged hd h h' hitem (hitem.withInclude hne)
  obtain ⟨lines, text, loaded, hlines, htext, hloaded, hresolved, hrender, hversion⟩ :=
    load_eq_ok.1 hload
  have hfile : d.locate file ≠ .ok place := fun hplace => by
    obtain ⟨bytes, hentry, hparse⟩ := h
    exact (isMalformed_of_parse hplace hlines htext).noDocument bytes _ hentry hparse
  have hlines' : readLines d' file = .ok lines := by
    rw [← hlines, readLines, readLines, hd.read_eq hfile]
  obtain ⟨loaded', hloaded', hexchanged⟩ := Agree.exists_ok
    (hloads.entries (List.forall₂_same.2 fun _ _ => ⟨rfl, rfl⟩)) hloaded
  refine load_eq_ok.2 ⟨lines, text, loaded', hlines', htext, hloaded', ?_, hrender, hversion⟩
  rw [hloads.map_project_eq hexchanged, ← hresolved]
  refine mapM_congr_forall₂ ((List.forall₂_and_left _ _).2 ⟨fun l hl => hl, hexchanged⟩ |>.imp
    fun l l' hll' => resolve_exchanged hll'.2 fun hfrom => ?_)
  obtain ⟨p, hp, hlp⟩ := exists_of_mapM_eq_ok hresolved hll'.1
  have hkeeps := (resolve_eq_ok hlp).1
  have hfromp : ReadFrom d file.parent mappings place p := by
    rw [ReadFrom, hkeeps.name, hkeeps.path]
    exact hfrom
  obtain ⟨target, -, htarget, htarget'⟩ := hpoints p hp hfromp
  rw [← resolveReference_congr (forall₂_of_resolve hresolved),
    ← resolveReference_congr (forall₂_of_resolve hresolved), ← referenceOf_congr hkeeps.path,
    ← referenceOf_congr hkeeps.path, htarget, htarget']

/-! ## A reference in two spellings -/

/-- A solution with two projects in folders of their own. -/
def linkLines : List String :=
  ["Microsoft Visual Studio Solution File, Format Version 8.00",
    "Project(\"{FAE04EC0-301F-11D3-BF4B-00C04F79EFBC}\") = \"App\", \"App\\App.csproj\", \"{A}\"",
    "EndProject",
    "Project(\"{FAE04EC0-301F-11D3-BF4B-00C04F79EFBC}\") = \"Core\", \"Core\\Core.csproj\", \"{C}\"",
    "EndProject"]

/-- A descriptor with one item. -/
def linkGap : Gap where
  name := "Project"
  attributes := []
  before := []
  group := "ItemGroup"
  groupAttributes := []
  groupBefore := []
  groupAfter := []
  after := []
  name_eq := by decide
  group_eq := by decide

/-- A reference to the second project by its path. -/
def linkItem : Element := ⟨"ProjectReference", [("Include", "..\\Core\\Core.csproj")], []⟩

/-- The path in another spelling. -/
def linkPath : String := ".\\../core\\Lib\\..\\Core.csproj"

/-- A disk on which the first project has an item. -/
def linkDisk (item : Element) : Disk where
  tree := ⟨[(["Work"], .folder), (["Work", "App.sln"], plainFile linkLines),
    (["Work", "App"], .folder), (["Work", "App", "App.csproj"], documentFile (linkGap.fill item)),
    (["Work", "Core"], .folder), (["Work", "Core", "Core.csproj"], plainFile bareDescriptor)]⟩
  home := ["Work"]

/-- The projects as their blocks declare them. -/
def linkApp : Project := { id := "{A}", name := "App", path := "App\\App.csproj" }
def linkCore : Project := { id := "{C}", name := "Core", path := "Core\\Core.csproj", index := 1 }

theorem respelled_linkPath :
    DescriptorPath.Respelled (linkItem.value "Include").toList linkPath.toList := by
  have hseparator : DescriptorPath.Respells "..\\Core\\Core.csproj".toList
      "../Core\\Core.csproj".toList :=
    .separator "..".toList "Core\\Core.csproj".toList rfl rfl
  have hletter : DescriptorPath.Respells "../Core\\Core.csproj".toList
      "../core\\Core.csproj".toList :=
    .letter "../".toList "ore\\Core.csproj".toList (by decide)
  have hdot : DescriptorPath.Respells "../core\\Core.csproj".toList
      ".\\../core\\Core.csproj".toList :=
    .dot "../core\\Core.csproj".toList DescriptorPath.startsSegment_nil rfl
  have hpair : DescriptorPath.Respells ".\\../core\\Core.csproj".toList linkPath.toList :=
    @DescriptorPath.Respells.pair ".\\../core\\".toList "Lib".toList "Core.csproj".toList
      (DescriptorPath.startsSegment_concat ".\\../core".toList rfl)
      ⟨by decide, by decide, by decide, by decide⟩ _ _ rfl rfl
  exact .tail (.tail (.tail (.single hseparator) hletter) hdot) hpair

theorem read_linkApp : ∃ p, Descriptor.read (linkDisk linkItem) linkApp
    ⟨.relative, ["App", "App.csproj"]⟩ = .ok (p, [referenceOf linkApp linkItem]) := by
  have hload : Descriptor.load (linkDisk linkItem) ⟨.relative, ["App", "App.csproj"]⟩ linkApp.name =
      .ok (linkGap.fill linkItem) :=
    load_documentFile _ _ rfl (by decide)
  rw [Descriptor.read, hload]
  exact ⟨_, rfl⟩

theorem read_linkCore : ∃ q, Descriptor.read (linkDisk linkItem) linkCore
    ⟨.relative, ["Core", "Core.csproj"]⟩ = .ok (q, []) :=
  ⟨_, read_bareDescriptor rfl rfl⟩

theorem resolveReference_link {p q : Project} (hp : linkApp.Keeps p) (hq : linkCore.Keeps q)
    (r : ProjectReference) :
    resolveReference [p, q] r = resolveReference [linkApp, linkCore] r :=
  resolveReference_congr (.cons ⟨hp.id, hp.path⟩ (.cons ⟨hq.id, hq.path⟩ .nil)) r

theorem resolveReference_linkItem :
    resolveReference [linkApp, linkCore] (referenceOf linkApp linkItem) = "{C}" := by
  decide

/-- The first project is loaded with a dependency on the second one. -/
theorem load_link : ∃ p q, linkApp.Keeps p ∧ linkCore.Keeps q ∧
    load (linkDisk linkItem) ⟨.relative, ["App.sln"]⟩ [] = .ok ⟨"App.sln", "8.00", [p, q]⟩ := by
  obtain ⟨app, hreadApp⟩ := read_linkApp
  obtain ⟨core, hreadCore⟩ := read_linkCore
  have happ : linkApp.Describes app := Descriptor.read_describes hreadApp
  have hcore : linkCore.Describes core := Descriptor.read_describes hreadCore
  have hbuildable : "{FAE04EC0-301F-11D3-BF4B-00C04F79EFBC}" ∈ buildableTypes := by decide
  have hlines : readLines (linkDisk linkItem) ⟨.relative, ["App.sln"]⟩ = .ok linkLines :=
    readLines_plainFile rfl (by decide)
  have hparse : SolutionText.parse linkLines = .ok ⟨"8.00",
      [⟨"{FAE04EC0-301F-11D3-BF4B-00C04F79EFBC}", "App", "App\\App.csproj", "{A}", 2, []⟩,
        ⟨"{FAE04EC0-301F-11D3-BF4B-00C04F79EFBC}", "Core", "Core\\Core.csproj", "{C}", 4, []⟩],
      []⟩ := by
    decide
  have hfileApp : descriptorFile ⟨.relative, []⟩ [] "App" "App\\App.csproj" =
      .ok ⟨.relative, ["App", "App.csproj"]⟩ := by decide
  have hfileCore : descriptorFile ⟨.relative, []⟩ [] "Core" "Core\\Core.csproj" =
      .ok ⟨.relative, ["Core", "Core.csproj"]⟩ := by decide
  have hreference : resolveReference [app, core] (referenceOf linkApp linkItem) = "{C}" :=
    (resolveReference_link happ.toKeeps hcore.toKeeps _).trans resolveReference_linkItem
  have hrender : "App.sln" = HostPath.render ⟨.relative, ["App.sln"]⟩ := by decide
  refine ⟨app.addDependency "{C}", core, happ.toKeeps.trans (addDependency_keeps app "{C}"),
    hcore.toKeeps, load_eq_ok.2 ⟨linkLines, _,
      [⟨app, [referenceOf linkApp linkItem], 2⟩, ⟨core, [], 4⟩], hlines, hparse, ?_, ?_, hrender,
      rfl⟩⟩
  · have hid : app.id = "{A}" := happ.id
    have hname : app.name = "App" := happ.name
    simp only [linkApp, linkCore] at hreadApp hreadCore
    simp [List.foldlM, loadEntry, projectsOf, hbuildable, loadProject, bind, Except.bind, pure,
      Except.pure, hfileApp, hfileCore, hreadApp, hreadCore, linkApp, HostPath.parent, hid, hname]
  · have hid : app.id = "{A}" := happ.id
    have hnone : app.dependencies = [] := happ.dependencies
    have hnoneCore : core.dependencies = [] := hcore.dependencies
    simp [resolve, hreference, Project.addDependency, hid, hnone, hnoneCore, Keyed.get?, bind,
      Except.bind, pure, Except.pure]

theorem load_respelled_link :
    ∃ s, load (linkDisk linkItem) ⟨.relative, ["App.sln"]⟩ [] = .ok s ∧
      load (linkDisk (withInclude linkItem linkPath)) ⟨.relative, ["App.sln"]⟩ [] = .ok s ∧
      ∃ p ∈ s.projects, p.id = "{A}" ∧
        resolveReference s.projects (referenceOf p (withInclude linkItem linkPath)) = "{C}" := by
  obtain ⟨p, q, hp, hq, hload⟩ := load_link
  have hd : SameBut ["Work", "App", "App.csproj"] (linkDisk linkItem)
      (linkDisk (withInclude linkItem linkPath)) := by
    have hbare (e : Element) : (documentFile e).bare = .file [] := rfl
    refine ⟨?_, fun l hl => ?_⟩
    · simp only [Disk.bare, FileTree.bare, linkDisk, List.map_cons, List.map_nil, hbare]
    · simp only [FileTree.entry?, linkDisk, List.find?_cons, beq_eq_false_iff_ne.2 hl.symm]
  have hholds {item : Element} (h : (linkGap.fill item).toNode.isCompact = true) :
      Holds (linkDisk item) ["Work", "App", "App.csproj"] (linkGap.fill item) :=
    ⟨_, rfl, Xml.Document.parse_compact h⟩
  have hfinds : ∀ p' ∈ [p, q], Finds [p, q] (referenceOf p' linkItem) := by
    have hcomparable : ∀ p' ∈ [linkApp, linkCore], comparable linkCore.path =
        comparable ((referenceOf p' linkItem).path.getD "") := by
      decide
    simp only [List.forall_mem_cons] at hcomparable ⊢
    refine ⟨⟨q, by simp, ?_⟩, ⟨q, by simp, ?_⟩, by simp⟩
    · rw [referenceOf_congr hp.path, hq.path, hcomparable.1]
    · rw [referenceOf_congr hq.path, hq.path, hcomparable.2.1]
  have hrelative : ∀ p' ∈ [p, q], DescriptorPath.Relative p'.path.toList := by
    simp only [List.forall_mem_cons, hp.path, hq.path]
    exact ⟨⟨by decide, by decide⟩, ⟨by decide, by decide⟩, by simp⟩
  have hfrom : ReadFrom (linkDisk linkItem) ⟨.relative, []⟩ [] ["Work", "App", "App.csproj"] p := by
    refine ⟨⟨.relative, ["App", "App.csproj"]⟩, ?_, rfl⟩
    rw [hp.name, hp.path]
    decide
  obtain ⟨hload', hpoints⟩ := load_respelled hd (hholds (by decide))
    (hholds (by decide)) ⟨by decide, by decide, by decide⟩ ⟨by decide, by decide⟩
    respelled_linkPath hload hrelative fun p' hp' _ => hfinds p' hp'
  obtain ⟨target, -, hid, hid'⟩ := hpoints p (by simp) hfrom
  refine ⟨_, hload, hload', p, by simp, hp.id, hid'.trans (hid.symm.trans ?_)⟩
  rw [referenceOf_congr hp.path, resolveReference_link hp hq, resolveReference_linkItem]

end Solution

end SolutionScript
