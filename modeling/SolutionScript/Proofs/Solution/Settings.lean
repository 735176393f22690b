import SolutionScript.Proofs.Graph.SortKey
import SolutionScript.Proofs.Keyed
import SolutionScript.Proofs.Solution.Dialects

/-!
# What the properties of a descriptor say

Each property of a descriptor is assigned to one configuration, or holds always, or does not count
(`Declared.target?`, `Declared.IsGlobal`). The table of properties is a fold over them in document
order: what it has under a name is the value of the last of them (`common_tableOf`,
`own_tableOf`), and its configurations are those that properties are assigned to
(`keys_tableOf`). So the settings of a configuration are those of `HasSettings`
(`read_configurations`). Where no property is assigned to a configuration, there are the two usual
ones, each with an output folder of its own (`configurations_of_unassigned`).
-/

namespace SolutionScript.Descriptor.Properties

open FileSystem

/-- A property as a descriptor declares it, with the condition of its group. -/
structure Declared where
  groupCondition : String
  element : Xml.Element

/-- The properties of a descriptor in document order. -/
def declared (root : Xml.Element) : List Declared :=
  (root.childrenNamed "PropertyGroup").flatMap fun group =>
    group.children.map fun e => ⟨group.value "Condition", e⟩

namespace Declared

/-- The configuration that a condition names, unless the name is empty. -/
def named? (condition : String) : Option String :=
  (Condition.configuration? condition).filter (· ≠ "")

variable (x : Declared)

/-- The configuration that a property is assigned to. The condition of its group comes first. -/
def target? : Option String := (named? x.groupCondition).or (named? (x.element.value "Condition"))

/-- A property that holds in all configurations has no condition of its own. -/
def IsGlobal : Prop := x.target? = none ∧ x.element.value "Condition" = ""

instance : DecidablePred IsGlobal := fun x =>
  inferInstanceAs (Decidable (x.target? = none ∧ x.element.value "Condition" = ""))

/-- The name of a property, without its namespace. -/
def name : String := x.element.localName

def value : String := Text.trim x.element.text

end Declared

/-- The last of some properties for which something holds. -/
def IsLast (P : Declared → Prop) (ps : List Declared) (x : Declared) : Prop :=
  ∃ before after, ps = before ++ x :: after ∧ P x ∧ ∀ y ∈ after, ¬ P y

/-- The text that properties give a setting of a configuration: that of the last property assigned
to the configuration, else that of the last one that holds always, else the default. -/
inductive IsSetting (ps : List Declared) (configuration name default : String) : String → Prop where
  | own {x : Declared}
      (last : IsLast (fun y => y.target? = some configuration ∧ y.name = name) ps x) :
      IsSetting ps configuration name default x.value
  | common {x : Declared}
      (unassigned : ∀ y ∈ ps, ¬ (y.target? = some configuration ∧ y.name = name))
      (last : IsLast (fun y => y.IsGlobal ∧ y.name = name) ps x) :
      IsSetting ps configuration name default x.value
  | default (unassigned : ∀ y ∈ ps, ¬ (y.target? = some configuration ∧ y.name = name))
      (missing : ∀ y ∈ ps, ¬ (y.IsGlobal ∧ y.name = name)) :
      IsSetting ps configuration name default default

/-- The settings of a configuration are what properties make them. -/
structure HasSettings (ps : List Declared) (c : Configuration) : Prop where
  outputPath : IsSetting ps c.name "OutputPath" ("bin\\" ++ c.name ++ "\\") c.outputPath
  documentationFile : IsSetting ps c.name "DocumentationFile" "" c.documentationFile
  defineConstants : IsSetting ps c.name "DefineConstants" "" c.defineConstants
  debugSymbols : ∃ text, IsSetting ps c.name "DebugSymbols" "" text ∧
    c.debugSymbols = isTrue text
  allowUnsafeBlocks : ∃ text, IsSetting ps c.name "AllowUnsafeBlocks" "" text ∧
    c.allowUnsafeBlocks = isTrue text
  checkOverflow : ∃ text, IsSetting ps c.name "CheckForOverflowUnderflow" "" text ∧
    c.checkOverflow = isTrue text

theorem find?_reverse_eq_some {P : Declared → Prop} [DecidablePred P] {ps : List Declared}
    {x : Declared} (h : ps.reverse.find? (P ·) = some x) : IsLast P ps x := by
  obtain ⟨hx, after, before, hsplit, hafter⟩ := List.find?_eq_some_iff_append.1 h
  refine ⟨before.reverse, after.reverse, ?_, of_decide_eq_true hx, fun y hy => ?_⟩
  · rw [← List.reverse_reverse ps, hsplit, List.reverse_append, List.reverse_cons,
      List.append_assoc, List.singleton_append]
  · simpa using hafter y (List.mem_reverse.1 hy)

theorem find?_reverse_eq_none {P : Declared → Prop} [DecidablePred P] {ps : List Declared}
    (h : ps.reverse.find? (P ·) = none) : ∀ y ∈ ps, ¬ P y := fun y hy => by
  simpa using List.find?_eq_none.1 h y (List.mem_reverse.2 hy)

namespace PropertyTable

/-! ## One property -/

section

variable {x : Declared} {configuration : String}

theorem target_eq (x : Declared) :
    (if (Condition.configuration? x.groupCondition).getD "" = "" then
      (Condition.configuration? (x.element.value "Condition")).getD ""
    else (Condition.configuration? x.groupCondition).getD "") = x.target?.getD "" := by
  have hnamed (condition : String) :
      Declared.named? condition = if (Condition.configuration? condition).getD "" = "" then none
        else some ((Condition.configuration? condition).getD "") := by
    rw [Declared.named?]
    cases Condition.configuration? condition with
    | none => rfl
    | some name => by_cases hne : name = "" <;> simp [Option.filter, hne]
  rw [Declared.target?, hnamed, hnamed]
  split
  · split
    · rename_i h
      simpa using h
    · rfl
  · rfl

theorem target?_ne_empty (h : x.target? = some configuration) : configuration ≠ "" := by
  have hnamed {condition name : String} (h : Declared.named? condition = some name) :
      name ≠ "" := by
    simpa using (Option.filter_eq_some_iff.1 h).2
  rcases Option.or_eq_some_iff.1 h with h | ⟨-, h⟩
  · exact hnamed h
  · exact hnamed h

/-- Notes a property that is assigned to a configuration. -/
theorem note_assigned (h : x.target? = some configuration) (t : PropertyTable) :
    t.note x.groupCondition x.element =
      { t with
        byConfiguration := t.byConfiguration.put configuration
          (((t.byConfiguration.get? configuration).getD []).put x.name x.value) } := by
  have hne := target?_ne_empty h
  simp only [note, target_eq, h, Option.getD_some, hne, ne_eq, not_false_eq_true, if_true]
  rfl

theorem note_global (h : x.IsGlobal) (t : PropertyTable) :
    t.note x.groupCondition x.element = { t with common := t.common.put x.name x.value } := by
  simp only [note, target_eq]
  simp only [h.1, h.2, Option.getD_none, ne_eq, not_true_eq_false, if_true, if_false]
  rfl

theorem note_other (htarget : x.target? = none) (hglobal : ¬ x.IsGlobal) (t : PropertyTable) :
    t.note x.groupCondition x.element = t := by
  have hcondition : x.element.value "Condition" ≠ "" := fun h => hglobal ⟨htarget, h⟩
  simp only [note, target_eq, htarget, Option.getD_none, hcondition, ne_eq, not_true_eq_false,
    if_false]

end

/-! ## All properties -/

/-- The table of some properties. -/
def tableOf (ps : List Declared) : PropertyTable :=
  ps.foldl (fun t x => t.note x.groupCondition x.element) {}

theorem ofRoot_eq (root : Xml.Element) : ofRoot root = tableOf (declared root) := by
  rw [ofRoot, tableOf, declared, List.foldl_flatMap]
  simp only [List.foldl_map]

variable (ps : List Declared) (configuration name : String)

theorem tableOf_snoc (x : Declared) :
    tableOf (ps ++ [x]) = (tableOf ps).note x.groupCondition x.element := by
  rw [tableOf, List.foldl_append]
  rfl

theorem find?_reverse_snoc (P : Declared → Prop) [DecidablePred P] (x : Declared) :
    (ps ++ [x]).reverse.find? (P ·) = if P x then some x else ps.reverse.find? (P ·) := by
  rw [List.reverse_append, List.reverse_singleton, List.singleton_append, List.find?_cons]
  by_cases h : P x <;> simp [h]

/-- The induction appends one property, as the table notes them. -/
theorem common_tableOf : (tableOf ps).common.get? name =
    (ps.reverse.find? fun x => x.IsGlobal ∧ x.name = name).map Declared.value := by
  induction ps using List.reverseRecOn with
  | nil => rfl
  | append_singleton ps x ih =>
    rw [tableOf_snoc, find?_reverse_snoc]
    by_cases hglobal : x.IsGlobal
    · rw [note_global hglobal]
      by_cases hname : x.name = name
      · rw [if_pos ⟨hglobal, hname⟩, hname, Keyed.get?_put_self, Option.map_some]
      · rw [if_neg fun h => hname h.2, Keyed.get?_put_of_ne _ _ (Ne.symm hname), ih]
    · rw [if_neg fun h => hglobal h.1, ← ih]
      cases htarget : x.target? with
      | none => rw [note_other htarget hglobal]
      | some other => rw [note_assigned htarget]

/-- What the table has for a configuration. -/
def own (t : PropertyTable) (configuration : String) : Keyed String :=
  (t.byConfiguration.get? configuration).getD []

theorem own_note_assigned {x : Declared} (h : x.target? = some configuration) (t : PropertyTable) :
    (t.note x.groupCondition x.element).own configuration =
      (t.own configuration).put x.name x.value := by
  rw [note_assigned h, own, Keyed.get?_put_self]
  rfl

theorem own_note_other {x : Declared} (h : x.target? ≠ some configuration) (t : PropertyTable) :
    (t.note x.groupCondition x.element).own configuration = t.own configuration := by
  cases htarget : x.target? with
  | none =>
    by_cases hglobal : x.IsGlobal
    · rw [note_global hglobal]
      rfl
    · rw [note_other htarget hglobal]
  | some other =>
    have hne : configuration ≠ other := fun heq => h (heq ▸ htarget)
    rw [note_assigned htarget, own, Keyed.get?_put_of_ne _ _ hne]
    rfl

theorem own_tableOf : ((tableOf ps).own configuration).get? name =
    (ps.reverse.find? fun x => x.target? = some configuration ∧ x.name = name).map
      Declared.value := by
  induction ps using List.reverseRecOn with
  | nil => rfl
  | append_singleton ps x ih =>
    rw [tableOf_snoc, find?_reverse_snoc]
    by_cases htarget : x.target? = some configuration
    · rw [own_note_assigned _ htarget]
      by_cases hname : x.name = name
      · rw [if_pos ⟨htarget, hname⟩, hname, Keyed.get?_put_self, Option.map_some]
      · rw [if_neg fun h => hname h.2, Keyed.get?_put_of_ne _ _ (Ne.symm hname), ih]
    · rw [if_neg fun h => htarget h.1, own_note_other _ htarget, ih]

/-- The configurations come in the order of the first property that is assigned to them. -/
theorem keys_tableOf :
    (tableOf ps).byConfiguration.keys = (ps.filterMap (·.target?)).eraseDups := by
  induction ps using List.reverseRecOn with
  | nil => rfl
  | append_singleton ps x ih =>
    rw [tableOf_snoc, List.filterMap_append, List.eraseDups_append, ← ih]
    cases htarget : x.target? with
    | none =>
      have hnew : List.removeAll ([] : List String) (ps.filterMap (·.target?)) = [] := rfl
      simp only [List.filterMap_cons, List.filterMap_nil, htarget, hnew, List.eraseDups_nil,
        List.append_nil]
      by_cases hglobal : x.IsGlobal
      · rw [note_global hglobal]
      · rw [note_other htarget hglobal]
    | some other =>
      rw [note_assigned htarget, Keyed.keys_put]
      have hmem : other ∈ (tableOf ps).byConfiguration.keys ↔ other ∈ ps.filterMap (·.target?) := by
        rw [ih, List.mem_eraseDups]
      have hnew : [x].filterMap (·.target?) = [other] := by simp [htarget]
      rw [hnew, List.removeAll]
      by_cases h : other ∈ ps.filterMap (·.target?)
      · simp only [List.filter_cons, List.elem_eq_true_of_mem h, if_pos (hmem.2 h)]
        exact (List.append_nil _).symm
      · simp only [List.filter_cons, List.elem_eq_contains, List.contains_eq_mem, h,
          if_neg (mt hmem.1 h)]
        rfl

theorem nodup_keys_tableOf : (tableOf ps).byConfiguration.keys.Nodup := by
  rw [keys_tableOf]
  exact nodup_eraseDups _

/-- A lookup in a table is what the properties say. -/
theorem isSetting_tableOf (default : String) :
    IsSetting ps configuration name default
      ((((tableOf ps).own configuration).get? name).or ((tableOf ps).common.get? name)|>.getD
        default) := by
  rw [own_tableOf, common_tableOf]
  cases hown : ps.reverse.find? fun x => x.target? = some configuration ∧ x.name = name with
  | some x => exact .own (find?_reverse_eq_some hown)
  | none =>
    cases hcommon : ps.reverse.find? fun x => x.IsGlobal ∧ x.name = name with
    | some x => exact .common (find?_reverse_eq_none hown) (find?_reverse_eq_some hcommon)
    | none => exact .default (find?_reverse_eq_none hown) (find?_reverse_eq_none hcommon)

theorem hasSettings_tableOf : HasSettings ps
    ((tableOf ps).configuration configuration ((tableOf ps).own configuration)) := by
  have hsetting (name default : String) := isSetting_tableOf ps configuration name default
  rw [PropertyTable.configuration]
  refine ⟨?_, hsetting "DocumentationFile" "", hsetting "DefineConstants" "",
    ⟨_, hsetting "DebugSymbols" "", ?_⟩, ⟨_, hsetting "AllowUnsafeBlocks" "", ?_⟩,
    ⟨_, hsetting "CheckForOverflowUnderflow" "", ?_⟩⟩
  · have hdefault : "bin\\" ++ configuration ++ "\\" = defaultOutput configuration "" := by
      simp [defaultOutput]
    rw [hdefault]
    exact hsetting "OutputPath" (defaultOutput configuration "")
  all_goals dsimp only

end PropertyTable

/-! ## Reading -/

section

variable {d : Disk} {p q : Project} {root : Xml.Element} {file : HostPath}
  {references : List ProjectReference}

theorem configurations_applyProperties (p : Project) (t : PropertyTable) (file : HostPath) :
    (applyProperties p t file).configurations = t.configurations.foldl (fun m (name, own) =>
      m.put name (t.configuration name own)) p.configurations := by
  rw [applyProperties]

/-- Configurations come from properties alone. -/
theorem configurations_of_read (h : read d p root file = .ok (q, references)) :
    q.configurations =
      (PropertyTable.ofRoot root).configurations.foldl (fun m (name, own) =>
        m.put name ((PropertyTable.ofRoot root).configuration name own)) p.configurations := by
  have happlied : (applyProperties (withLanguage p file) (PropertyTable.ofRoot root)
      file).configurations = _ := configurations_applyProperties ..
  have hlanguage : (withLanguage p file).configurations = p.configurations := by
    rw [withLanguage]
    split <;> rfl
  rw [hlanguage] at happlied
  unfold read at h
  obtain ⟨items, -, h⟩ := Fallible.bind_eq_ok.1 h
  generalize applyProperties (withLanguage p file) (PropertyTable.ofRoot root) file = p'
    at h happlied
  rw [← happlied]
  dsimp only at h
  split at h
  · obtain ⟨sources, -, h⟩ := Fallible.bind_eq_ok.1 h
    cases h
    rfl
  · cases h
    rfl

open PropertyTable in
theorem configurations_of_assigned (hp : p.configurations = [])
    (hassigned : ∃ x ∈ declared root, x.target? ≠ none)
    (h : read d p root file = .ok (q, references)) :
    q.configurations = (tableOf (declared root)).byConfiguration.map fun (name, own) =>
      (name, (tableOf (declared root)).configuration name own) := by
  have hkeys := nodup_keys_tableOf (declared root)
  have hne : (tableOf (declared root)).byConfiguration ≠ [] := fun hnil => by
    obtain ⟨x, hx, htarget⟩ := hassigned
    obtain ⟨name, hname⟩ := Option.ne_none_iff_exists'.1 htarget
    have hmem : name ∈ ((declared root).filterMap (·.target?)).eraseDups :=
      List.mem_eraseDups.2 (List.mem_filterMap.2 ⟨x, hx, hname⟩)
    rw [← keys_tableOf, hnil] at hmem
    exact List.not_mem_nil hmem
  rw [configurations_of_read h, hp, ofRoot_eq, configurations, if_neg (by simpa using hne)]
  exact Keyed.foldl_put_of_nodup Prod.fst
    (fun a => (tableOf (declared root)).configuration a.1 a.2) hkeys

open PropertyTable in
/-- Where properties are assigned to configurations, the project has these configurations, in the
order of their first properties. Each setting of a configuration is what the last property of its
name says that is assigned to the configuration, wherever there are others that hold always. -/
theorem read_configurations (hload : load d file p.name = .ok root)
    (hroot : root.localName = "Project") (hp : p.configurations = [])
    (hassigned : ∃ x ∈ declared root, x.target? ≠ none)
    (h : Descriptor.read d p file = .ok (q, references)) :
    q.configurations.keys = ((declared root).filterMap (·.target?)).eraseDups ∧
      ∀ x ∈ q.configurations, x.2.name = x.1 ∧ HasSettings (declared root) x.2 := by
  obtain ⟨q', hread, hq⟩ : ∃ q', read d p root file = .ok (q', references) ∧
      q.configurations = q'.configurations := by
    obtain ⟨root', hload', h⟩ := Fallible.bind_eq_ok.1 h
    obtain rfl := Except.ok.inj (hload.symm.trans hload')
    simp only [hroot] at h
    obtain ⟨⟨q', references'⟩, hread, h⟩ := Fallible.bind_eq_ok.1 h
    cases h
    exact ⟨q', hread, rfl⟩
  have hkeys := nodup_keys_tableOf (declared root)
  rw [hq, configurations_of_assigned hp hassigned hread, ← keys_tableOf]
  refine ⟨?_, fun x hx => ?_⟩
  · rw [Keyed.keys, List.map_map]
    rfl
  · obtain ⟨⟨name, own⟩, hmem, rfl⟩ := List.mem_map.1 hx
    have hown : (tableOf (declared root)).own name = own := by
      rw [PropertyTable.own, Keyed.get?_of_mem hkeys hmem, Option.getD_some]
    refine ⟨rfl, ?_⟩
    rw [← hown]
    exact hasSettings_tableOf (declared root) name

end

/-- A descriptor in which a property for all configurations comes after one with a condition, and
another one is assigned to a configuration by a condition of its own. -/
def settingsTree : Xml.Element :=
  ⟨"Project", [], [
    .element "PropertyGroup" [("Condition", "'$(Configuration)' == 'Debug'")] [
      .element "DefineConstants" [] [.text "DEBUG"]],
    .element "PropertyGroup" [] [
      .element "DefineConstants" [] [.text "TRACE"],
      .element "OutputPath" [("Condition", "'$(Configuration)' == 'Release'")] [.text "out"],
      .element "DebugSymbols" [] [.text "true"]]]⟩

/-- A disk with the descriptor. -/
def settingsDisk : Disk where
  tree := ⟨[(["Work"], .folder), (["Work", "App.csproj"], documentFile settingsTree)]⟩
  home := ["Work"]

theorem read_configurations_settings :
    ∃ q references,
      Descriptor.read settingsDisk appProject ⟨.relative, ["App.csproj"]⟩ = .ok (q, references) ∧
      q.configurations.keys = ["Debug", "Release"] ∧
      ∀ x ∈ q.configurations, x.2.name = x.1 ∧ HasSettings (declared settingsTree) x.2 := by
  have hload : load settingsDisk ⟨.relative, ["App.csproj"]⟩ appProject.name = .ok settingsTree :=
    load_documentFile settingsDisk _ rfl (by decide)
  obtain ⟨q, references, hread⟩ : ∃ q references,
      Descriptor.read settingsDisk appProject ⟨.relative, ["App.csproj"]⟩ =
        .ok (q, references) := by
    rw [Descriptor.read, hload]
    exact ⟨_, _, rfl⟩
  obtain ⟨hkeys, hsettings⟩ := read_configurations hload (by decide) rfl (by decide) hread
  have hassigned : ((declared settingsTree).filterMap (·.target?)).eraseDups =
      ["Debug", "Release"] := by
    decide
  exact ⟨q, references, hread, hkeys.trans hassigned, hsettings⟩

/-! ## Without assigned properties -/

namespace PropertyTable

variable {ps : List Declared}

theorem byConfiguration_of_unassigned (h : ∀ x ∈ ps, x.target? = none) :
    (tableOf ps).byConfiguration = [] := by
  have hkeys := keys_tableOf ps
  rw [List.filterMap_eq_nil_iff.2 h, List.eraseDups_nil, Keyed.keys, List.map_eq_nil_iff] at hkeys
  exact hkeys

theorem own_of_unassigned (h : ∀ x ∈ ps, x.target? = none) (configuration : String) :
    (tableOf ps).own configuration = [] := by
  rw [PropertyTable.own, byConfiguration_of_unassigned h]
  rfl

/-- A property that always holds is the setting of any configuration. -/
theorem isSetting_get (h : ∀ x ∈ ps, x.target? = none) (configuration name : String) :
    IsSetting ps configuration name "" ((tableOf ps).get name) := by
  have hsetting := isSetting_tableOf ps configuration name ""
  rwa [own_of_unassigned h] at hsetting

/-- One of the usual configurations has an output folder of its own, and for the rest what the
properties say. -/
theorem configuration_usual (t : PropertyTable) (name folder : String) :
    { t.configuration name [("OutputPath", folder)] with
      outputPath := (t.configuration name []).outputPath } = t.configuration name [] := by
  simp [configuration, Keyed.get?]

end PropertyTable

section

variable {d : Disk} {p q : Project} {root : Xml.Element} {file : HostPath}
  {references : List ProjectReference}

/-- Reading a descriptor with properties is reading its properties and items; only the path of the
assembly comes after that. -/
theorem exists_read_properties (hload : load d file p.name = .ok root)
    (hroot : root.localName = "Project") (h : Descriptor.read d p file = .ok (q, references)) :
    ∃ q', read d p root file = .ok (q', references) ∧
      q = { q' with outputPath := outputPathOf q' } := by
  obtain ⟨root', hload', h⟩ := Fallible.bind_eq_ok.1 h
  obtain rfl := Except.ok.inj (hload.symm.trans hload')
  simp only [hroot] at h
  obtain ⟨⟨q', references'⟩, hread, h⟩ := Fallible.bind_eq_ok.1 h
  cases h
  exact ⟨q', hread, rfl⟩

open PropertyTable in
theorem configurations_of_unassigned (hp : p.configurations = [])
    (hunassigned : ∀ x ∈ declared root, x.target? = none)
    (h : read d p root file = .ok (q, references)) :
    q.configurations = ["Debug", "Release"].map fun name =>
      (name, (tableOf (declared root)).configuration name
        [("OutputPath",
          defaultOutput name ((tableOf (declared root)).get "TargetFramework"))]) := by
  rw [configurations_of_read h, hp, ofRoot_eq, configurations,
    byConfiguration_of_unassigned hunassigned]
  rfl

open PropertyTable in
/-- Where no property is assigned to a configuration, the project has the two usual ones. The output
folder of each is the usual one, with a folder for the framework that is targeted: whatever the
properties say of the output folder, it does not count. All other settings are what the
properties say. -/
theorem read_usualConfigurations (hload : load d file p.name = .ok root)
    (hroot : root.localName = "Project") (hp : p.configurations = [])
    (hunassigned : ∀ x ∈ declared root, x.target? = none)
    (h : Descriptor.read d p file = .ok (q, references)) :
    q.configurations.keys = ["Debug", "Release"] ∧
      ∀ x ∈ q.configurations, x.2.name = x.1 ∧ ∃ said framework,
        HasSettings (declared root) { x.2 with outputPath := said } ∧
        IsSetting (declared root) x.1 "TargetFramework" "" framework ∧
        x.2.outputPath =
          "bin\\" ++ x.1 ++ "\\" ++ if framework = "" then "" else framework ++ "\\" := by
  obtain ⟨q', hread, rfl⟩ := exists_read_properties hload hroot h
  rw [configurations_of_unassigned hp hunassigned hread]
  refine ⟨rfl, fun x hx => ?_⟩
  obtain ⟨name, -, rfl⟩ := List.mem_map.1 hx
  have hsettings := hasSettings_tableOf (declared root) name
  rw [own_of_unassigned hunassigned, ← configuration_usual] at hsettings
  refine ⟨rfl, _, _, hsettings, isSetting_get hunassigned name "TargetFramework", ?_⟩
  simp [configuration, Keyed.get?, defaultOutput]

end

/-- A descriptor that names an output folder and a framework for all configurations. -/
def outputTree : Xml.Element :=
  ⟨"Project", [], [
    .element "PropertyGroup" [] [
      .element "TargetFramework" [] [.text "net8.0"],
      .element "OutputPath" [] [.text "out\\"],
      .element "DebugSymbols" [] [.text "true"]]]⟩

/-- A disk with a descriptor. -/
def treeDisk (root : Xml.Element) : Disk where
  tree := ⟨[(["Work"], .folder), (["Work", "App.csproj"], documentFile root)]⟩
  home := ["Work"]

theorem load_treeDisk {root : Xml.Element} (h : root.toNode.isCompact = true) :
    load (treeDisk root) ⟨.relative, ["App.csproj"]⟩ appProject.name = .ok root :=
  load_documentFile (treeDisk root) _ rfl h

theorem load_outputTree :
    load (treeDisk outputTree) ⟨.relative, ["App.csproj"]⟩ appProject.name = .ok outputTree :=
  load_treeDisk (by decide)

theorem read_outputTree : ∃ q references,
    Descriptor.read (treeDisk outputTree) appProject ⟨.relative, ["App.csproj"]⟩ =
      .ok (q, references) ∧
      q.configurations.map (·.2.outputPath) =
        ["bin\\Debug\\net8.0\\", "bin\\Release\\net8.0\\"] := by
  rw [Descriptor.read, load_outputTree]
  exact ⟨_, _, rfl, by decide⟩

theorem read_usualConfigurations_output : ∃ q references,
    Descriptor.read (treeDisk outputTree) appProject ⟨.relative, ["App.csproj"]⟩ =
      .ok (q, references) ∧
      q.configurations.keys = ["Debug", "Release"] ∧
      ∀ x ∈ q.configurations, x.2.name = x.1 ∧ ∃ said framework,
        HasSettings (declared outputTree) { x.2 with outputPath := said } ∧
        IsSetting (declared outputTree) x.1 "TargetFramework" "" framework ∧
        x.2.outputPath =
          "bin\\" ++ x.1 ++ "\\" ++ if framework = "" then "" else framework ++ "\\" := by
  obtain ⟨q, references, hread, -⟩ := read_outputTree
  exact ⟨q, references, hread,
    read_usualConfigurations load_outputTree (by decide) rfl (by decide) hread⟩

/-- The output folder that holds for all configurations is that of neither. -/
theorem outputPath_ne_said :
    (∀ x ∈ declared outputTree, x.target? = none) ∧
      (∀ configuration, IsSetting (declared outputTree) configuration "OutputPath" "" "out\\") ∧
      ∃ q references,
        Descriptor.read (treeDisk outputTree) appProject ⟨.relative, ["App.csproj"]⟩ =
          .ok (q, references) ∧
          q.configurations.map (·.2.outputPath) ≠ ["out\\", "out\\"] := by
  have hunassigned : ∀ x ∈ declared outputTree, x.target? = none := by decide
  obtain ⟨q, references, hread, hpaths⟩ := read_outputTree
  refine ⟨hunassigned, fun configuration => ?_, q, references, hread, ?_⟩
  · have hsaid : (PropertyTable.tableOf (declared outputTree)).get "OutputPath" = "out\\" := by
      decide
    exact hsaid ▸ PropertyTable.isSetting_get hunassigned configuration "OutputPath"
  · rw [hpaths]
    decide

end SolutionScript.Descriptor.Properties
