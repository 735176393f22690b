import SolutionScript.Proofs.Keyed
import SolutionScript.Proofs.Solution.Blueprint
import SolutionScript.Proofs.Solution.Loading
import SolutionScript.Proofs.Solution.PlainFile
import SolutionScript.Proofs.Text.Split
import SolutionScript.Proofs.Xml.Compact

/-!
# Two forms of descriptors for one project

A descriptor with properties is read as the project of the blueprint that it was written for
(`Properties.read_blueprint`), as is one with attributes. So the projects that the two are read as
differ at most in their languages and imports, and they depend on the same projects
(`read_dialects`).
-/

namespace SolutionScript

open FileSystem Text Xml Element

namespace Descriptor.Properties

/-! ## Properties -/

namespace PropertyTable

theorem note_common {e : Element} (h : e.value "Condition" = "") (t : PropertyTable) :
    t.note "" e = { t with common := t.common.put e.localName (trim e.text) } := by
  have hnone : Condition.configuration? "" = none := rfl
  simp [note, h, hnone]

section

variable {condition name : String} (h : Condition.configuration? condition = some name)
  (hne : name ≠ "")
include h hne

theorem note_named (t : PropertyTable) (e : Element) :
    t.note condition e =
      { t with
        byConfiguration := t.byConfiguration.put name
          (((t.byConfiguration.get? name).getD []).put e.localName (trim e.text)) } := by
  simp [note, h, hne]

variable {m : Keyed (Keyed String)} (hnew : name ∉ m.keys) (common : Keyed String)
include hnew

theorem foldl_note_last (es : List Element) (own : Keyed String) :
    es.foldl (fun (t : PropertyTable) e => t.note condition e) ⟨common, m ++ [(name, own)]⟩ =
      ⟨common, m ++ [(name, es.foldl (fun own e => own.put e.localName (trim e.text)) own)]⟩ := by
  induction es generalizing own with
  | nil => rfl
  | cons e es ih =>
    rw [List.foldl_cons, note_named h hne, Keyed.get?_append_singleton hnew,
      Keyed.put_append_singleton hnew]
    exact ih _

/-- The properties for a configuration that is new are noted at the end. -/
theorem foldl_note_new {es : List Element} (hes : es ≠ []) :
    es.foldl (fun (t : PropertyTable) e => t.note condition e) ⟨common, m⟩ =
      ⟨common, m ++ [(name,
        es.foldl (fun (own : Keyed String) e => own.put e.localName (trim e.text)) [])]⟩ := by
  obtain ⟨e, es, rfl⟩ := List.exists_cons_of_ne_nil hes
  rw [List.foldl_cons, note_named h hne, Keyed.get?_of_not_mem hnew, Keyed.put_of_not_mem hnew]
  exact foldl_note_last h hne hnew common es _

end

/-- The properties that settings are written as. -/
def ofSetup (s : Setup) : Keyed String := settingNames.map fun n => (n, s.setting n)

theorem foldl_put_settings (s : Setup) :
    (settingNames.map fun n => ofText n (s.setting n)).foldl
        (fun (own : Keyed String) e => own.put e.localName (trim e.text)) [] = ofSetup s := by
  have hname : ∀ n ∈ settingNames, (ofText n (s.setting n)).localName = n :=
    (by decide : ∀ n ∈ settingNames, localPart n = n)
  have hkeys : settingNames.map (fun n => (ofText n (s.setting n)).localName) = settingNames :=
    (List.map_congr_left hname).trans (List.map_id' _)
  rw [List.foldl_map, Keyed.foldl_put_of_nodup (fun n => (ofText n (s.setting n)).localName)
    (fun n => trim (ofText n (s.setting n)).text) (by rw [hkeys]; decide), ofSetup]
  refine List.map_congr_left fun n hn => ?_
  rw [hname n hn, text_ofText, s.setting_trimmed n hn]

theorem foldl_setups (platform? : Option String) (common : Keyed String)
    {done setups : List Setup} (h : ((done ++ setups).map (·.name)).Nodup) :
    (setups.map (·.propertiesElement platform?)).foldl (fun (t : PropertyTable) group =>
        group.children.foldl (fun t e => t.note (group.value "Condition") e) t)
        ⟨common, done.map fun s => (s.name, ofSetup s)⟩ =
      ⟨common, (done ++ setups).map fun s => (s.name, ofSetup s)⟩ := by
  induction setups generalizing done with
  | nil => simp
  | cons s setups ih =>
    have hcondition : Condition.configuration? ((s.propertiesElement platform?).value "Condition") =
        some s.name :=
      Condition.configuration?_comparison platform? s.name_given.1 s.name_chars s.name_given.2
    have hnew : s.name ∉ Keyed.keys (done.map fun s => (s.name, ofSetup s)) := by
      rw [Keyed.keys, List.map_map]
      rw [List.map_append, List.map_cons] at h
      exact fun hmem => (List.nodup_append.1 h).2.2 _ hmem _ List.mem_cons_self rfl
    have hgroup : (s.propertiesElement platform?).children =
        settingNames.map fun n => ofText n (s.setting n) := children_group
    rw [List.map_cons, List.foldl_cons, hgroup,
      foldl_note_new hcondition s.name_given.1 hnew common (by simp [settingNames]),
      foldl_put_settings]
    have hdone : (done.map fun s => (s.name, ofSetup s)) ++ [(s.name, ofSetup s)] =
        (done ++ [s]).map fun s => (s.name, ofSetup s) := by
      simp
    rw [hdone, ih (by simpa using h), List.append_assoc, List.singleton_append]

/-- The properties that hold always. -/
def ofBlueprint (b : Blueprint) : Keyed String :=
  [("AssemblyName", b.assemblyName), ("OutputType", b.outputType),
    ("RootNamespace", b.rootNamespace)]

theorem foldl_common (b : Blueprint) :
    b.commonElement.children.foldl (fun (t : PropertyTable) e => t.note "" e) {} =
      ⟨ofBlueprint b, []⟩ := by
  have hnote {n s : String} (h : localPart n = n) (t : PropertyTable) :
      t.note "" (ofText n s) = { t with common := t.common.put n (trim s) } := by
    rw [note_common rfl, text_ofText]
    exact congrArg (fun n => { t with common := t.common.put n (trim s) }) h
  rw [Blueprint.commonElement, children_group]
  simp only [List.foldl_cons, List.foldl_nil, hnote (by decide : localPart "AssemblyName" = _),
    hnote (by decide : localPart "OutputType" = _),
    hnote (by decide : localPart "RootNamespace" = _), b.assemblyName_given.2,
    b.outputType_given.2, b.rootNamespace_given.2]
  rfl

theorem localName_propertyGroup {b : Blueprint} {platform? : Option String} {e : Element}
    (h : e ∈ b.commonElement :: b.configurations.map (·.propertiesElement platform?)) :
    e.localName = "PropertyGroup" := by
  rcases List.mem_cons.1 h with rfl | h
  · exact localName_group (by decide)
  · obtain ⟨s, -, rfl⟩ := List.mem_map.1 h
    exact localName_group (by decide)

/-- The table of a blueprint's descriptor. -/
def ofDescriptor (b : Blueprint) : PropertyTable :=
  ⟨ofBlueprint b, b.configurations.map fun s => (s.name, ofSetup s)⟩

theorem ofRoot_propertiesTree (b : Blueprint) (platform? : Option String) :
    ofRoot (b.propertiesTree platform?) = ofDescriptor b := by
  have hgroups : (b.propertiesTree platform?).childrenNamed "PropertyGroup" =
      b.commonElement :: b.configurations.map (·.propertiesElement platform?) := by
    rw [Blueprint.propertiesTree, childrenNamed_group, List.filter_append,
      List.filter_eq_self.2 fun e he => decide_eq_true (localName_propertyGroup he),
      List.filter_eq_nil_iff.2,
      List.append_nil]
    simp only [List.forall_mem_cons, localName_group (by decide : "ItemGroup".toList.head? ≠ _)]
    decide
  have hvalue : b.commonElement.value "Condition" = "" := rfl
  rw [ofRoot, hgroups, List.foldl_cons, hvalue, foldl_common]
  exact @foldl_setups platform? (ofBlueprint b) [] _ b.configurations_nodup

theorem configuration_ofSetup (t : PropertyTable) (s : Setup) :
    t.configuration s.name (ofSetup s) = s.configuration := by
  simp [configuration, ofSetup, settingNames, Keyed.get?, Setup.configuration]

theorem configurations_ofDescriptor (b : Blueprint) :
    (ofDescriptor b).configurations = b.configurations.map fun s => (s.name, ofSetup s) := by
  have hne : (b.configurations.map fun s => (s.name, ofSetup s)).isEmpty = false := by
    simpa using b.configurations_ne
  rw [configurations, ofDescriptor, hne]
  rfl

end PropertyTable

open PropertyTable in
theorem applyProperties_ofDescriptor (b : Blueprint) (p : Project) (file : HostPath) :
    applyProperties p (ofDescriptor b) file =
      { p with
        assemblyName := b.assemblyName
        outputType := b.outputType
        rootNamespace := b.rootNamespace
        configurations := b.configurations.foldl (fun m s => m.put s.name s.configuration)
          p.configurations } := by
  have hassembly : (ofDescriptor b).get "AssemblyName" = b.assemblyName := rfl
  have houtput : (ofDescriptor b).get "OutputType" = b.outputType := rfl
  have hroot : (ofDescriptor b).get "RootNamespace" = b.rootNamespace := rfl
  simp only [applyProperties, hassembly, houtput, hroot, configurations_ofDescriptor,
    List.foldl_map, configuration_ofSetup, if_neg b.assemblyName_given.1,
    if_neg b.outputType_given.1, if_neg b.rootNamespace_given.1]

/-! ## Items -/

/-- The reference to a project by an item. -/
def linkReference? (directory : String) : Link → Option ProjectReference
  | .project guid path name _ _ =>
    some {
      projectId := some (Guid.normalize guid)
      path := some (DescriptorPath.normal
        (DescriptorPath.join directory (DescriptorPath.ofHost path)))
      name := if trim name = "" then DescriptorPath.stem path else trim name }
  | _ => none

/-- What the item for a reference adds. -/
def linkItem (directory : String) (l : Link) : Item :=
  match l.assembly?, linkReference? directory l with
  | some reference, _ => .assembly reference
  | _, some reference => .project reference
  | _, _ => .nothing

theorem childText_ofText {name n s : String} {attributes : Keyed String} {es : List Element}
    (h : localPart n = n) : childText (group name attributes (ofText n s :: es)) n = trim s := by
  have hchild : (group name attributes (ofText n s :: es)).child? n = some (ofText n s) :=
    child?_group_cons h
  rw [childText, hchild]
  exact congrArg trim (text_ofText n s)

theorem childText_ofText_of_ne {name n m s : String} {attributes : Keyed String}
    {es : List Element} (h : localPart m ≠ n) :
    childText (group name attributes (ofText m s :: es)) n =
      childText (group name attributes es) n := by
  have hname : (ofText m s).localName ≠ n := h
  rw [childText, childText, child?_group_cons_of_ne hname]

theorem normalize_trim (guid : String) : Guid.normalize (trim guid) = Guid.normalize guid := by
  rw [Guid.normalize, Guid.normalize, Guid.normalizeList, Guid.normalizeList, trim,
    String.toList_ofList, trimList_of_trimmed (trimmed_trimList _)]

theorem isTrue_trim (s : String) : isTrue (trim s) = isTrue s := by
  rw [isTrue, isTrue, trim_trim]

variable {d : Disk} {directory : String} {folder : HostPath}

theorem readItem_link (l : Link) :
    readItem d directory folder l.propertiesElement = .ok (linkItem directory l) := by
  cases l with
  | assembly name hintPath copyLocal name_given name_chars hintPath_trimmed =>
    have hinclude : (Link.assembly name hintPath copyLocal name_given name_chars
        hintPath_trimmed).propertiesElement.value "Include" = name := rfl
    have hlocal : (Link.assembly name hintPath copyLocal name_given name_chars
        hintPath_trimmed).propertiesElement.localName = "Reference" := localName_group (by decide)
    have hcomma : name.toList.takeWhile (· != ',') = name.toList :=
      List.takeWhile_eq_self_iff.2 fun c hc => bne_iff_ne.2 fun h => name_chars (h ▸ hc)
    have hhint : childText (Link.assembly name hintPath copyLocal name_given name_chars
        hintPath_trimmed).propertiesElement "HintPath" = hintPath :=
      (childText_ofText (by decide)).trans hintPath_trimmed
    have hprivate : childText (Link.assembly name hintPath copyLocal name_given name_chars
        hintPath_trimmed).propertiesElement "Private" = trim copyLocal :=
      (childText_ofText_of_ne (by decide)).trans (childText_ofText (by decide))
    simp only [readItem, hinclude, hlocal, hhint, hprivate, isTrue_trim, hcomma,
      String.ofList_toList, name_given.2, if_neg name_given.1]
    rfl
  | com name guid name_ne guid_ne =>
    have hinclude : (Link.com name guid name_ne guid_ne).propertiesElement.value "Include" = name :=
      rfl
    have hlocal : (Link.com name guid name_ne guid_ne).propertiesElement.localName =
        "COMReference" := localName_group (by decide)
    simp only [readItem, hinclude, hlocal, if_neg name_ne]
    rfl
  | project guid path name guid_ne path_ne =>
    have hinclude : (Link.project guid path name guid_ne path_ne).propertiesElement.value
        "Include" = path := rfl
    have hlocal : (Link.project guid path name guid_ne path_ne).propertiesElement.localName =
        "ProjectReference" := localName_group (by decide)
    have hguid : childText (Link.project guid path name guid_ne path_ne).propertiesElement
        "Project" = trim guid := childText_ofText (by decide)
    have hname : childText (Link.project guid path name guid_ne path_ne).propertiesElement
        "Name" = trim name :=
      (childText_ofText_of_ne (by decide)).trans (childText_ofText (by decide))
    have hne : trim guid ≠ "" :=
      Attributes.ne_of_normalize_ne (by rw [normalize_trim]; exact guid_ne)
    simp only [readItem, projectReference, hinclude, hlocal, hguid, hname, normalize_trim,
      if_neg path_ne, if_neg hne]
    rfl

/-- A plain path stands for itself. -/
theorem expand_plain {path : String} (h : IsPlainPath path) :
    Include.expand d folder path = .ok [path] := by
  have hchars {c : Char} (hc : c ∈ ['/', ';', '*', '?']) : c ∉ path.toList := fun hmem =>
    h.chars c hmem hc
  have hhost : DescriptorPath.ofHost path = path := by
    rw [DescriptorPath.ofHost, replace, replaceList_of_not_mem _ (hchars (by decide)),
      String.ofList_toList]
  have hparts : Include.partsOf path = [path] := by
    rw [Include.partsOf, splitAt_of_not_mem (@hchars ';' (by decide)), List.map_singleton,
      h.given.2, hhost]
    simp [h.given.1]
  have hwild : Include.isWild path = false := by
    rw [Include.isWild, List.any_eq_false]
    intro c hc hwild
    rcases Bool.or_eq_true_iff.1 hwild with h | h
    · exact @hchars '*' (by decide) (eq_of_beq h ▸ hc)
    · exact @hchars '?' (by decide) (eq_of_beq h ▸ hc)
  have hpart : Include.expandPart d folder path = .ok [path] := by
    rw [Include.expandPart, hwild]
    rfl
  rw [Include.expand, hparts]
  simp [hpart, bind, Except.bind, pure, Except.pure]

theorem readItem_file {f : ProjectFile} (h : IsPlainPath f.relativePath) :
    readItem d directory folder (Blueprint.fileElement f) = .ok (.files [f]) := by
  have hinclude : (Blueprint.fileElement f).value "Include" = f.relativePath := rfl
  have hlocal : (Blueprint.fileElement f).localName = f.buildAction.name :=
    localName_group (by cases f.buildAction <;> decide)
  have haction : BuildAction.ofName? f.buildAction.name = some f.buildAction := by
    cases f.buildAction <;> rfl
  simp only [readItem, hinclude, hlocal, haction, if_neg h.given.1, expand_plain h]
  rfl

/-- The items of a blueprint's descriptor. -/
theorem mapM_items (b : Blueprint) (platform? : Option String) :
    (((b.propertiesTree platform?).childrenNamed "ItemGroup").flatMap (·.children)).mapM
        (readItem d directory folder) =
      .ok (b.references.map (linkItem directory) ++ b.files.map fun f => .files [f]) := by
  have hgroups : (b.propertiesTree platform?).childrenNamed "ItemGroup" =
      [.group "ItemGroup" [] (b.references.map (·.propertiesElement)),
        .group "ItemGroup" [] (b.files.map Blueprint.fileElement)] := by
    have hname {e : Element} (h : e ∈ b.commonElement ::
        b.configurations.map (·.propertiesElement platform?)) : e.localName ≠ "ItemGroup" := by
      rw [PropertyTable.localName_propertyGroup h]
      decide
    rw [Blueprint.propertiesTree, childrenNamed_group, List.filter_append,
      List.filter_eq_nil_iff.2 fun e he => by simpa using hname he, List.nil_append,
      List.filter_eq_self.2]
    simp only [List.forall_mem_cons, localName_group (by decide : "ItemGroup".toList.head? ≠ _)]
    decide
  have hitems : List.Forall₂ (fun e item => readItem d directory folder e = .ok item)
      (b.references.map (·.propertiesElement) ++ b.files.map Blueprint.fileElement)
      (b.references.map (linkItem directory) ++ b.files.map fun f => .files [f]) := by
    refine List.rel_append ?_ ?_
    · rw [List.forall₂_map_left_iff, List.forall₂_map_right_iff, List.forall₂_same]
      exact fun l _ => readItem_link l
    · rw [List.forall₂_map_left_iff, List.forall₂_map_right_iff, List.forall₂_same]
      exact fun f hf => readItem_file (b.files_plain f hf)
  rw [hgroups, Fallible.mapM_eq_ok]
  simpa [children_group] using hitems

theorem applyItems_items (b : Blueprint) (p : Project) (directory : String) :
    applyItems p (b.references.map (linkItem directory) ++ b.files.map fun f => .files [f]) =
      { p with
        references := p.references ++ b.references.filterMap (·.assembly?)
        files := p.files ++ b.files } := by
  have hfiles : (applyItems p (b.references.map (linkItem directory) ++
      b.files.map fun f => Item.files [f])).files = p.files ++ b.files := by
    simp only [applyItems]
    rw [List.flatMap_append, List.flatMap_map, List.flatMap_map, List.flatMap_singleton',
      List.flatMap_eq_nil_iff.2 fun l _ => by cases l <;> rfl, List.nil_append]
  have hreferences : (applyItems p (b.references.map (linkItem directory) ++
      b.files.map fun f => Item.files [f])).references =
        p.references ++ b.references.filterMap (·.assembly?) := by
    simp only [applyItems]
    rw [List.filterMap_append, List.filterMap_map, List.filterMap_map]
    refine congrArg (p.references ++ ·) ((congrArg₂ (· ++ ·) (List.filterMap_congr fun l _ => ?_)
      (List.filterMap_eq_nil_iff.2 fun _ _ => rfl)).trans (List.append_nil _))
    cases l <;> rfl
  rw [← hfiles, ← hreferences]
  rfl

theorem projects_items (b : Blueprint) (directory : String) :
    (b.references.map (linkItem directory) ++ b.files.map fun f => Item.files [f]).filterMap
      (fun
        | .project reference => some reference
        | _ => none) = b.references.filterMap (linkReference? directory) := by
  rw [List.filterMap_append, List.filterMap_map, List.filterMap_map]
  refine (congrArg₂ (· ++ ·) (List.filterMap_congr fun l _ => ?_)
    (List.filterMap_eq_nil_iff.2 fun _ _ => rfl)).trans (List.append_nil _)
  cases l <;> rfl

theorem childrenNamed_propertiesTree_of_ne {b : Blueprint} {platform? : Option String} {n : String}
    (hproperty : n ≠ "PropertyGroup") (hitem : n ≠ "ItemGroup") :
    (b.propertiesTree platform?).childrenNamed n = [] := by
  rw [Blueprint.propertiesTree, childrenNamed_group, List.filter_eq_nil_iff]
  intro e he
  rcases List.mem_append.1 he with he | he
  · rw [PropertyTable.localName_propertyGroup he]
    simpa using Ne.symm hproperty
  · have hname : e.localName = "ItemGroup" := by
      simp only [List.mem_cons, List.not_mem_nil, or_false] at he
      rcases he with rfl | rfl <;> exact localName_group (by decide)
    rw [hname]
    simpa using Ne.symm hitem

/-- A descriptor with properties is read as the project of the blueprint. -/
theorem read_blueprint {b : Blueprint} {platform? : Option String} {root : Element}
    (h : Alike readNames root (b.propertiesTree platform?)) (d : Disk) (p : Project)
    (file : HostPath) :
    read d p root file = .ok (b.fill p (withLanguage p file).kind [],
      b.references.filterMap (linkReference? p.directory)) := by
  have hkit : (decide ((b.propertiesTree platform?).value "Sdk" ≠ "") ||
      !((b.propertiesTree platform?).childrenNamed "Sdk").isEmpty) = false := by
    rw [childrenNamed_propertiesTree_of_ne (by decide) (by decide)]
    rfl
  obtain ⟨kind, hkind⟩ : ∃ kind, withLanguage p file = { p with kind } := by
    rw [withLanguage]
    split
    · exact ⟨.vb, rfl⟩
    · exact ⟨p.kind, rfl⟩
  have happlied := applyProperties_ofDescriptor b { p with kind } file
  rw [read_alike h, read, PropertyTable.ofRoot_propertiesTree, hkind, happlied]
  have hreferences := projects_items b p.directory
  have hdirectory (q : Project) (hq : q.path = p.path) : q.directory = p.directory := by
    rw [Project.directory, hq, Project.directory]
  rw [hdirectory _ rfl, mapM_items]
  simp only [bind, Except.bind, hkit, Bool.false_and, Bool.false_eq_true, if_false,
    applyItems_items]
  refine congrArg Except.ok (Prod.ext ?_ hreferences)
  simp [Blueprint.fill]

end Descriptor.Properties

/-! ## Resolved dependencies -/

namespace Solution

/-- A reference by the identifier of a project of the solution points to it. -/
theorem resolveReference_id {projects : List Project} {r : ProjectReference} {id : String}
    (h : r.projectId = some id) (hne : id ≠ "") (hid : ∃ q ∈ projects, q.id = id) :
    resolveReference projects r = id := by
  have hany : projects.any (·.id = id) = true := by simpa using hid
  simp [resolveReference, h, hne, hany]

/-- The identifiers that a project depends on, with one more. -/
theorem dependencies_addDependency (p : Project) (id : String) :
    (p.addDependency id).dependencies =
      if id ∈ p.dependencies then p.dependencies else p.dependencies ++ [id] := by
  rw [Project.addDependency]
  split <;> rfl

theorem dependencies_foldl_addDependency (ids : List String) (p : Project) :
    (ids.foldl Project.addDependency p).dependencies =
      ids.foldl (fun found id => if id ∈ found then found else found ++ [id]) p.dependencies := by
  induction ids generalizing p with
  | nil => rfl
  | cons id ids ih => rw [List.foldl_cons, ih, dependencies_addDependency, List.foldl_cons]

/-- What a project depends on is a matter of what identifies it and of what its references point
to. -/
theorem resolve_dependencies_congr {file : HostPath} {projects projects' : List Project}
    {dependencies : Keyed (List String)} {l l' : Loaded} (hid : l.project.id = l'.project.id)
    (hname : l.project.name = l'.project.name) (hline : l.line = l'.line)
    (hdependencies : l.project.dependencies = l'.project.dependencies)
    (hreferences : l.references.map (resolveReference projects) =
      l'.references.map (resolveReference projects')) :
    (resolve file projects dependencies l).map (·.dependencies) =
      (resolve file projects' dependencies l').map (·.dependencies) := by
  have hids : l.references.map (resolveReference projects) ++
      (dependencies.get? l.project.id).getD [] =
        l'.references.map (resolveReference projects') ++
          (dependencies.get? l'.project.id).getD [] := by
    rw [hreferences, hid]
  rw [resolve, resolve, hids]
  generalize l'.references.map (resolveReference projects') ++
    (dependencies.get? l'.project.id).getD [] = ids
  have hkeeps := foldl_addDependency_keeps ids l.project
  have hkeeps' := foldl_addDependency_keeps ids l'.project
  have hsame : (ids.foldl Project.addDependency l.project).dependencies =
      (ids.foldl Project.addDependency l'.project).dependencies := by
    rw [dependencies_foldl_addDependency, dependencies_foldl_addDependency, hdependencies]
  have hsameId := hkeeps.id.trans (hid.trans hkeeps'.id.symm)
  have hsameName := hkeeps.name.trans (hname.trans hkeeps'.name.symm)
  simp only [hsame, hsameId, hsameName, hline]
  split
  · rfl
  · exact congrArg Except.ok hsame

end Solution

/-! ## Both forms -/

namespace Blueprint

theorem configurations_fill (b : Blueprint) {p : Project} (h : p.configurations = [])
    (kind : Language) (imports : List String) : (b.fill p kind imports).configurations =
      b.configurations.map fun s => (s.name, s.configuration) := by
  have hput := Keyed.foldl_put_of_nodup Setup.name Setup.configuration b.configurations_nodup
  rw [← hput, ← h]
  rfl

/-- The project that is read for a blueprint, with where its assembly goes. -/
def built (b : Blueprint) (p : Project) (kind : Language) (imports : List String) : Project :=
  { b.fill p kind imports with outputPath := Descriptor.outputPathOf (b.fill p kind imports) }

/-- Where the assembly goes depends neither on the language nor on what is imported. -/
theorem built_eq (b : Blueprint) (p : Project) (kind kind' : Language)
    (imports imports' : List String) :
    b.built p kind' imports' =
      { b.built p kind imports with
        kind := (b.built p kind' imports').kind
        imports := (b.built p kind' imports').imports } := rfl

section

variable (b : Blueprint) (p : Project) (kind : Language) (imports : List String)

theorem id_built : (b.built p kind imports).id = p.id := rfl

theorem name_built : (b.built p kind imports).name = p.name := rfl

theorem dependencies_built : (b.built p kind imports).dependencies = p.dependencies := rfl

end

/-- The identifiers that the references to projects name. -/
def guids (b : Blueprint) : List String := b.references.filterMap (·.guid?)

theorem ne_empty_of_guid? {l : Link} {guid : String} (h : l.guid? = some guid) : guid ≠ "" := by
  cases l with
  | assembly => simp [Link.guid?] at h
  | com => simp [Link.guid?] at h
  | project guid' path name guid_ne path_ne =>
    rw [Link.guid?] at h
    rw [← Option.some.inj h]
    exact guid_ne

/-- References that name identifiers of projects of the solution point to these. -/
theorem map_resolveReference {b : Blueprint} {f : Link → Option ProjectReference}
    {projects : List Project} (hf : ∀ l, (f l).map (·.projectId) = l.guid?.map some)
    (h : ∀ guid ∈ b.guids, ∃ q ∈ projects, q.id = guid) :
    (b.references.filterMap f).map (Solution.resolveReference projects) = b.guids := by
  rw [List.map_filterMap, guids]
  refine List.filterMap_congr fun l hl => ?_
  have hfl := hf l
  cases hguid : l.guid? with
  | none =>
    rw [hguid, Option.map_none, Option.map_eq_none_iff] at hfl
    rw [hfl, Option.map_none]
  | some guid =>
    rw [hguid, Option.map_some, Option.map_eq_some_iff] at hfl
    obtain ⟨r, hr, hid⟩ := hfl
    rw [hr, Option.map_some, Solution.resolveReference_id hid (ne_empty_of_guid? hguid)
      (h guid (List.mem_filterMap.2 ⟨l, hl, hguid⟩))]

end Blueprint

namespace Descriptor

theorem Attributes.projectId_linkReference? (l : Link) :
    (linkReference? l).map (·.projectId) = l.guid?.map some := by
  cases l <;> simp [linkReference?, Link.guid?]

theorem Properties.projectId_linkReference? (directory : String) (l : Link) :
    (linkReference? directory l).map (·.projectId) = l.guid?.map some := by
  cases l <;> simp [linkReference?, Link.guid?]

theorem read_attributesTree {b : Blueprint} {language : Language} {imports : List String} {d : Disk}
    {file : HostPath} {p : Project} {root : Element} (hload : load d file p.name = .ok root)
    (h : Alike readNames root (b.attributesTree language imports)) :
    read d p file =
      .ok (b.built p language imports, b.references.filterMap Attributes.linkReference?) := by
  have hname : root.localName = "VisualStudioProject" :=
    h.localName_eq.trans (localName_group (by decide))
  rw [read, hload]
  simp only [bind, Except.bind, hname, Attributes.read_blueprint h]
  rfl

theorem read_propertiesTree {b : Blueprint} {platform? : Option String} {d : Disk} {file : HostPath}
    {p : Project} {root : Element} (hload : load d file p.name = .ok root)
    (h : Alike readNames root (b.propertiesTree platform?)) :
    read d p file = .ok (b.built p (Properties.withLanguage p file).kind [],
      b.references.filterMap (Properties.linkReference? p.directory)) := by
  have hname : root.localName = "Project" := h.localName_eq.trans (localName_group (by decide))
  rw [read, hload]
  simp only [bind, Except.bind, hname, Properties.read_blueprint h]
  rfl

end Descriptor

open Descriptor Blueprint in
/-- The two forms of descriptors for one project are read as projects that have the same settings,
configurations, references and files in the same order, and the same path for what they build;
they differ at most in language and imports. Where the solution has the projects that are referred
to, the two depend on the same projects. -/
theorem read_dialects (b : Blueprint) (language : Language) (imports : List String)
    (platform? : Option String) {d d' : Disk} {file file' : HostPath} {p : Project}
    {root root' : Element} (hload : load d file p.name = .ok root)
    (hload' : load d' file' p.name = .ok root')
    (hroot : Alike readNames root (b.attributesTree language imports))
    (hroot' : Alike readNames root' (b.propertiesTree platform?)) :
    ∃ q q' references references', read d p file = .ok (q, references) ∧
      read d' p file' = .ok (q', references') ∧
      q = b.built p language imports ∧ q' = { q with kind := q'.kind, imports := q'.imports } ∧
      (p.configurations = [] →
        q.configurations = b.configurations.map fun s => (s.name, s.configuration)) ∧
      ∀ projects projects', (∀ guid ∈ b.guids, ∃ r ∈ projects, r.id = guid) →
        (∀ guid ∈ b.guids, ∃ r ∈ projects', r.id = guid) →
        references.map (Solution.resolveReference projects) = b.guids ∧
        ∀ solution dependencies line,
          (Solution.resolve solution projects dependencies ⟨q, references, line⟩).map
              (·.dependencies) =
            (Solution.resolve solution projects' dependencies ⟨q', references', line⟩).map
              (·.dependencies) := by
  have hguids {projects : List Project} (h : ∀ guid ∈ b.guids, ∃ r ∈ projects, r.id = guid) :
      (b.references.filterMap Attributes.linkReference?).map
        (Solution.resolveReference projects) = b.guids :=
    Blueprint.map_resolveReference Attributes.projectId_linkReference? h
  have hguids' {projects : List Project} (h : ∀ guid ∈ b.guids, ∃ r ∈ projects, r.id = guid) :
      (b.references.filterMap (Properties.linkReference? p.directory)).map
        (Solution.resolveReference projects) = b.guids :=
    Blueprint.map_resolveReference (Properties.projectId_linkReference? p.directory) h
  have hbuilt := b.built_eq p language (Properties.withLanguage p file').kind imports []
  refine ⟨_, _, _, _, read_attributesTree hload hroot, read_propertiesTree hload' hroot', rfl,
    hbuilt, fun h => b.configurations_fill h language imports, fun projects projects' h h' =>
    ⟨hguids h, fun solution dependencies line => ?_⟩⟩
  refine Solution.resolve_dependencies_congr ?_ ?_ rfl ?_ ((hguids h).trans (hguids' h').symm)
  · rw [id_built, id_built]
  · rw [name_built, name_built]
  · rw [dependencies_built, dependencies_built]

/-! ## One project in both forms -/

/-- A configuration with all settings. -/
def debugSetup : Setup where
  name := "Debug"
  setting
    | "OutputPath" => "bin"
    | "DocumentationFile" => "App.xml"
    | "DefineConstants" => "TRACE"
    | "DebugSymbols" => "True"
    | _ => "false"
  name_given := by decide
  name_chars := by decide
  setting_trimmed := by decide

/-- A program that refers to an assembly, a library and a project. -/
def consoleBlueprint : Blueprint where
  assemblyName := "App"
  outputType := "Exe"
  rootNamespace := "Sample"
  configurations := [debugSetup]
  references :=
    [.assembly "System.Xml" "Lib" "true" (by decide) (by decide) (by decide),
      .com "Excel" "{E}" (by decide) (by decide),
      .project "{c}" "Core.csproj" "Core" (by decide) (by decide)]
  files := [⟨"Main.cs", .compile⟩, ⟨"App.resx", .embeddedResource⟩]
  assemblyName_given := by decide
  outputType_given := by decide
  rootNamespace_given := by decide
  configurations_ne := by decide
  configurations_nodup := by decide
  files_plain := by
    simp only [List.forall_mem_cons]
    exact ⟨⟨by decide, by decide⟩, ⟨by decide, by decide⟩, by simp⟩

/-- The file of a document that has an element. -/
def documentFile (e : Element) : Entry :=
  .file (encode (String.ofList (Document.utf8Declaration ++ '\n' :: e.toNode.render)))

/-- A disk with a descriptor in each form. -/
def consoleDisk : Disk where
  tree := ⟨[(["Work"], .folder),
    (["Work", "App.csproj"], documentFile (consoleBlueprint.attributesTree .csharp ["System"])),
    (["Work", "App.vbproj"], documentFile (consoleBlueprint.propertiesTree (some "AnyCPU")))]⟩
  home := ["Work"]

theorem load_documentFile (d : Disk) (file : HostPath) {e : Element} {name : String}
    (hread : d.read file =
      .ok (encode (String.ofList (Document.utf8Declaration ++ '\n' :: e.toNode.render))))
    (h : e.toNode.isCompact = true) : Descriptor.load d file name = .ok e := by
  rw [Descriptor.load, hread]
  simp only [Document.parse_compact h]

open Descriptor in
theorem read_dialects_console :
    ∃ q q' references references',
      read consoleDisk appProject ⟨.relative, ["App.csproj"]⟩ = .ok (q, references) ∧
      read consoleDisk appProject ⟨.relative, ["App.vbproj"]⟩ = .ok (q', references') ∧
      q' = { q with kind := q'.kind, imports := q'.imports } ∧
      q.configurations = [("Debug", debugSetup.configuration)] ∧
      references.map (Solution.resolveReference [appProject, coreProject]) = ["{C}"] ∧
      ∀ solution dependencies line,
        (Solution.resolve solution [q, coreProject] dependencies ⟨q, references, line⟩).map
            (·.dependencies) =
          (Solution.resolve solution [q', coreProject] dependencies ⟨q', references', line⟩).map
            (·.dependencies) := by
  have hids (p : Project) :
      ∀ guid ∈ consoleBlueprint.guids, ∃ r ∈ [p, coreProject], r.id = guid := by
    have hguids : consoleBlueprint.guids = ["{C}"] := by decide
    rw [hguids, List.forall_mem_singleton]
    exact ⟨coreProject, by simp, rfl⟩
  obtain ⟨q, q', references, references', hread, hread', -, hsame, hconfigurations, hresolved⟩ :=
    read_dialects consoleBlueprint .csharp ["System"] (some "AnyCPU") (p := appProject)
      (load_documentFile consoleDisk ⟨.relative, ["App.csproj"]⟩ rfl (by decide))
      (load_documentFile consoleDisk ⟨.relative, ["App.vbproj"]⟩ rfl (by decide))
      (.refl _) (.refl _)
  exact ⟨q, q', references, references', hread, hread', hsame, hconfigurations rfl,
    (hresolved [appProject, coreProject] _ (hids appProject) (hids appProject)).1,
    (hresolved _ _ (hids q) (hids q')).2⟩

end SolutionScript
