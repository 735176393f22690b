import SolutionScript.Proofs.Solution.PathReferences
import SolutionScript.Proofs.Solution.Settings

/-!
# Where a condition stands

A property is put under a condition by its group, or by an attribute of its own. If the condition
names a configuration, or is empty, both are read alike. Any other condition takes a property out
of the descriptor where it stands at the property; where it stands at the group, the property
holds always (`read_conditioned`).
-/

namespace SolutionScript.Descriptor.Properties

open FileSystem Solution Xml

/-! ## One group of a descriptor -/

/-- A descriptor with properties, with room for a property in a group of its own. -/
structure Room where
  name : String
  attributes : Keyed String
  before : List Node
  group : String
  groupAttributes : Keyed String
  groupBefore : List Node
  groupAfter : List Node
  after : List Node
  name_eq : localPart name = "Project"
  group_eq : localPart group = "PropertyGroup"
  unconditioned : groupAttributes.get? "Condition" = none
  groupBefore_eq : groupBefore.filterMap Element.ofNode? = []
  groupAfter_eq : groupAfter.filterMap Element.ofNode? = []

/-- A property under a condition of its own. -/
def withCondition (e : Element) (c : String) : Element :=
  { e with attributes := e.attributes.put "Condition" c }

theorem value_withCondition (e : Element) (c : String) :
    (withCondition e c).value "Condition" = c := by
  rw [Element.value, Element.value?, withCondition, Keyed.get?_put_self, Option.getD_some]

namespace Room

variable (g : Room)

/-- The descriptor with some attributes and content of the group. -/
def fill (attributes : Keyed String) (content : List Node) : Element :=
  ⟨g.name, g.attributes, g.before ++ .element g.group attributes
    (g.groupBefore ++ (content ++ g.groupAfter)) :: g.after⟩

/-- The descriptor with a property in the group, and a condition at the group. -/
def inGroup (c : String) (e : Element) : Element :=
  g.fill (g.groupAttributes.put "Condition" c) [e.toNode]

/-- The descriptor with a property in the group, and a condition at the property. -/
def onProperty (c : String) (e : Element) : Element :=
  g.fill g.groupAttributes [(withCondition e c).toNode]

/-- The descriptor without a property in the group. -/
def vacant : Element := g.fill g.groupAttributes []

theorem children_fill (attributes : Keyed String) (content : List Node) :
    (g.fill attributes content).children = g.before.filterMap Element.ofNode? ++
      ⟨g.group, attributes, g.groupBefore ++ (content ++ g.groupAfter)⟩ ::
        g.after.filterMap Element.ofNode? := by
  rw [Element.children, fill, List.filterMap_append, List.filterMap_cons]
  rfl

/-- Whatever the group has, the other parts of the descriptor are the same. -/
theorem childrenNamed_fill {n : String} (h : n ≠ "PropertyGroup")
    (attributes attributes' : Keyed String) (content content' : List Node) :
    (g.fill attributes content).childrenNamed n =
      (g.fill attributes' content').childrenNamed n := by
  have hgroup (attributes : Keyed String) (content : List Node) :
      decide (Element.localName ⟨g.group, attributes, content⟩ = n) = false :=
    decide_eq_false fun heq => h (heq.symm.trans g.group_eq)
  rw [Element.childrenNamed, Element.childrenNamed, children_fill, children_fill,
    List.filter_append, List.filter_append, List.filter_cons, List.filter_cons, hgroup, hgroup]
  rfl

/-- The properties of the group stand between others, which are the same whatever it has. -/
theorem exists_declared : ∃ before after, ∀ attributes content,
    declared (g.fill attributes content) = before ++
      ((content.filterMap Element.ofNode?).map fun e =>
        ⟨(attributes.get? "Condition").getD "", e⟩) ++ after := by
  let properties (groups : List Element) : List Declared :=
    (groups.filter (·.localName = "PropertyGroup")).flatMap fun group =>
      group.children.map fun e => ⟨group.value "Condition", e⟩
  refine ⟨properties (g.before.filterMap Element.ofNode?),
    properties (g.after.filterMap Element.ofNode?), fun attributes content => ?_⟩
  have hgroup : decide (Element.localName ⟨g.group, attributes,
      g.groupBefore ++ (content ++ g.groupAfter)⟩ = "PropertyGroup") = true :=
    decide_eq_true g.group_eq
  have hchildren : Element.children ⟨g.group, attributes,
      g.groupBefore ++ (content ++ g.groupAfter)⟩ = content.filterMap Element.ofNode? := by
    rw [Element.children, List.filterMap_append, List.filterMap_append, g.groupBefore_eq,
      g.groupAfter_eq, List.nil_append, List.append_nil]
  rw [declared, Element.childrenNamed, children_fill, List.filter_append, List.filter_cons, hgroup,
    if_pos rfl, List.flatMap_append, List.flatMap_cons, hchildren, List.append_assoc]
  rfl

variable {g} {attributes attributes' : Keyed String} {content content' : List Node}

/-- The group makes a difference through the table of properties only. -/
theorem read_fill (h : PropertyTable.ofRoot (g.fill attributes content) =
      PropertyTable.ofRoot (g.fill attributes' content')) (d : Disk) (p : Project)
    (file : HostPath) :
    read d p (g.fill attributes content) file = read d p (g.fill attributes' content') file := by
  have hitems : (g.fill attributes content).childrenNamed "ItemGroup" =
      (g.fill attributes' content').childrenNamed "ItemGroup" :=
    g.childrenNamed_fill (by decide) ..
  have hsdk : (g.fill attributes content).childrenNamed "Sdk" =
      (g.fill attributes' content').childrenNamed "Sdk" :=
    g.childrenNamed_fill (by decide) ..
  have hvalue : (g.fill attributes content).value "Sdk" =
      (g.fill attributes' content').value "Sdk" := rfl
  rw [read_eq_finish, read_eq_finish, h, hitems, hsdk, hvalue]

end Room

/-! ## One property in two places -/

namespace PropertyTable

/-- One property among others counts through what the table notes of it. -/
theorem tableOf_exchange {x y : Declared}
    (h : ∀ t : PropertyTable, t.note x.groupCondition x.element = t.note y.groupCondition y.element)
    (before after : List Declared) :
    tableOf (before ++ [x] ++ after) = tableOf (before ++ [y] ++ after) := by
  simp only [tableOf, List.foldl_append, List.foldl_cons, List.foldl_nil, h]

/-- A property that is not noted could as well be missing. -/
theorem tableOf_skip {x : Declared}
    (h : ∀ t : PropertyTable, t.note x.groupCondition x.element = t)
    (before after : List Declared) :
    tableOf (before ++ [x] ++ after) = tableOf (before ++ [] ++ after) := by
  simp only [tableOf, List.foldl_append, List.foldl_cons, List.foldl_nil, h]

variable {c : String} {e : Element}

theorem named?_empty : Declared.named? "" = none := rfl

/-- The condition of the group is the only one of a property without its own. -/
theorem target?_inGroup (he : e.value "Condition" = "") :
    Declared.target? ⟨c, e⟩ = Declared.named? c := by
  rw [Declared.target?, he, named?_empty, Option.or_none]

theorem target?_onProperty : Declared.target? ⟨"", withCondition e c⟩ = Declared.named? c := by
  rw [Declared.target?, value_withCondition, named?_empty, Option.none_or]

/-- A condition that names a configuration, or is empty, is noted alike in both places. -/
theorem note_inGroup_eq (he : e.value "Condition" = "")
    (hc : c = "" ∨ Declared.named? c ≠ none) (t : PropertyTable) :
    t.note c e = t.note "" (withCondition e c) := by
  cases hnamed : Declared.named? c with
  | some name =>
    have hin := note_assigned (x := ⟨c, e⟩) ((target?_inGroup he).trans hnamed) t
    have hon := note_assigned (x := ⟨"", withCondition e c⟩) (target?_onProperty.trans hnamed) t
    exact hin.trans hon.symm
  | none =>
    obtain rfl : c = "" := hc.resolve_right fun hne => hne hnamed
    have hin := note_global (x := ⟨"", e⟩) ⟨(target?_inGroup he).trans hnamed, he⟩ t
    have hon := note_global (x := ⟨"", withCondition e ""⟩)
      ⟨target?_onProperty.trans hnamed, value_withCondition e ""⟩ t
    exact hin.trans hon.symm

/-- A condition that names no configuration is no condition at a group. -/
theorem note_inGroup_of_unnamed (he : e.value "Condition" = "") (hc : Declared.named? c = none)
    (t : PropertyTable) : t.note c e = t.note "" e :=
  (note_global (x := ⟨c, e⟩) ⟨(target?_inGroup he).trans hc, he⟩ t).trans
    (note_global (x := ⟨"", e⟩) ⟨(target?_inGroup he).trans named?_empty, he⟩ t).symm

/-- At a property it takes the property away. -/
theorem note_onProperty_of_unnamed (hne : c ≠ "") (hc : Declared.named? c = none)
    (t : PropertyTable) : t.note "" (withCondition e c) = t :=
  note_other (x := ⟨"", withCondition e c⟩) (target?_onProperty.trans hc)
    (fun hglobal => hne ((value_withCondition e c).symm.trans hglobal.2)) t

end PropertyTable

/-- Two documents are read alike: a disk that has the one of them at a place, and a disk that has
the other one there, give the same for every descriptor of every project. -/
def ReadAlike (root root' : Element) : Prop :=
  ∀ d d' : Disk, ∀ place, SameBut place d d' → Holds d place root → Holds d' place root' →
    ∀ p file, Descriptor.read d p file = Descriptor.read d' p file

theorem readAlike_of_read {root root' : Element} (hroot : root.localName = "Project")
    (hroot' : root'.localName = "Project")
    (h : ∀ d p file, read d p root file = read d p root' file) : ReadAlike root root' := by
  intro d d' place hd hhold hhold' p file
  rcases load_cases hd hhold hhold' file p.name with heq | ⟨-, hload, hload'⟩
  · rw [Descriptor.read, Descriptor.read, heq, hd.readProperties_eq]
  · rw [Descriptor.read, Descriptor.read, hload, hload', ← hd.readProperties_eq]
    simp only [bind, Except.bind, hroot, hroot', h]

theorem Room.readAlike {g : Room} {attributes attributes' : Keyed String}
    {content content' : List Node}
    (h : PropertyTable.ofRoot (g.fill attributes content) =
      PropertyTable.ofRoot (g.fill attributes' content')) :
    ReadAlike (g.fill attributes content) (g.fill attributes' content') :=
  readAlike_of_read g.name_eq g.name_eq (Room.read_fill h)

section

variable (g : Room) (c : String) {e : Element}

theorem get?_put_condition (m : Keyed String) (c : String) :
    ((m.put "Condition" c).get? "Condition").getD "" = c := by
  rw [Keyed.get?_put_self, Option.getD_some]

open PropertyTable in
/-- A property without a condition of its own is read alike under a condition of its group and
under the same condition of its own, if the condition names a configuration or is empty. Any other
condition makes no difference at the group, so that the property holds always; at the property
it makes the same difference as leaving the property out. -/
theorem read_conditioned (he : e.value "Condition" = "") :
    (c = "" ∨ Declared.named? c ≠ none → ReadAlike (g.inGroup c e) (g.onProperty c e)) ∧
      (c ≠ "" → Declared.named? c = none →
        ReadAlike (g.inGroup c e) (g.inGroup "" e) ∧ ReadAlike (g.onProperty c e) g.vacant) := by
  obtain ⟨before, after, hdeclared⟩ := g.exists_declared
  have hin (c : String) : PropertyTable.ofRoot (g.inGroup c e) =
      tableOf (before ++ [⟨c, e⟩] ++ after) := by
    rw [ofRoot_eq, Room.inGroup, hdeclared, get?_put_condition]
    rfl
  have hon : PropertyTable.ofRoot (g.onProperty c e) =
      tableOf (before ++ [⟨"", withCondition e c⟩] ++ after) := by
    rw [ofRoot_eq, Room.onProperty, hdeclared, g.unconditioned]
    rfl
  have hvacant : PropertyTable.ofRoot g.vacant = tableOf (before ++ [] ++ after) := by
    rw [ofRoot_eq, Room.vacant, hdeclared]
    rfl
  refine ⟨fun hc => Room.readAlike ?_, fun hne hc => ⟨Room.readAlike ?_, Room.readAlike ?_⟩⟩
  · have hsame : tableOf (before ++ [⟨c, e⟩] ++ after) =
        tableOf (before ++ [⟨"", withCondition e c⟩] ++ after) :=
      tableOf_exchange (x := ⟨c, e⟩) (y := ⟨"", withCondition e c⟩) (note_inGroup_eq he hc) ..
    exact (hin c).trans (hsame.trans hon.symm)
  · have hsame : tableOf (before ++ [⟨c, e⟩] ++ after) = tableOf (before ++ [⟨"", e⟩] ++ after) :=
      tableOf_exchange (x := ⟨c, e⟩) (y := ⟨"", e⟩) (note_inGroup_of_unnamed he hc) ..
    exact (hin c).trans (hsame.trans (hin "").symm)
  · have hsame : tableOf (before ++ [⟨"", withCondition e c⟩] ++ after) =
        tableOf (before ++ [] ++ after) :=
      tableOf_skip (x := ⟨"", withCondition e c⟩) (note_onProperty_of_unnamed hne hc) ..
    exact hon.trans (hsame.trans hvacant.symm)

end

/-! ## A property in two places -/

theorem localPart_project : localPart "Project" = "Project" := by decide

/-- A descriptor with an empty group among other things. -/
def exeRoom : Room where
  name := "Project"
  attributes := []
  before := [.element "PropertyGroup" [] [.element "OutputType" [] [.text "Exe"]]]
  group := "PropertyGroup"
  groupAttributes := []
  groupBefore := []
  groupAfter := []
  after := [.element "ItemGroup" [] [.element "Reference" [("Include", "System")] []]]
  name_eq := localPart_project
  group_eq := by decide
  unconditioned := rfl
  groupBefore_eq := rfl
  groupAfter_eq := rfl

/-- The name of the assembly as a property. -/
def assemblyProperty : Element := ⟨"AssemblyName", [], [.text "Other"]⟩

/-- A condition that names a configuration, and one that does not. -/
def debugCondition : String := "'$(Configuration)' == 'Debug'"
def systemCondition : String := "'$(OS)' == 'Windows_NT'"

theorem sameBut_treeDisk (root root' : Element) :
    SameBut ["Work", "App.csproj"] (treeDisk root) (treeDisk root') := by
  have hbare (e : Element) : (documentFile e).bare = .file [] := rfl
  refine ⟨?_, fun l hl => ?_⟩
  · simp only [Disk.bare, FileTree.bare, treeDisk, List.map_cons, List.map_nil, hbare]
  · simp only [FileTree.entry?, treeDisk, List.find?_cons, beq_eq_false_iff_ne.2 hl.symm]

theorem holds_treeDisk {root : Element} (h : root.toNode.isCompact = true) :
    Holds (treeDisk root) ["Work", "App.csproj"] root :=
  ⟨_, rfl, Xml.Document.parse_compact h⟩

theorem ReadAlike.treeDisk {root root' : Element} (h : ReadAlike root root')
    (hroot : root.toNode.isCompact = true) (hroot' : root'.toNode.isCompact = true) :
    Descriptor.read (treeDisk root) appProject ⟨.relative, ["App.csproj"]⟩ =
      Descriptor.read (Properties.treeDisk root') appProject ⟨.relative, ["App.csproj"]⟩ :=
  h _ _ _ (sameBut_treeDisk root root') (holds_treeDisk hroot) (holds_treeDisk hroot') _ _

/-- The assembly of the project that is read from a descriptor. -/
theorem read_treeDisk {root : Element} (h : root.toNode.isCompact = true)
    (hroot : root.localName = "Project") :
    (Descriptor.read (treeDisk root) appProject ⟨.relative, ["App.csproj"]⟩).map
        (·.1.assemblyName) =
      (read (treeDisk root) appProject root ⟨.relative, ["App.csproj"]⟩).map
        (·.1.assemblyName) := by
  rw [Descriptor.read, load_treeDisk h]
  simp only [bind, Except.bind, hroot]
  cases read (treeDisk root) appProject root ⟨.relative, ["App.csproj"]⟩ <;> rfl

theorem read_conditioned_exe :
    Descriptor.read (treeDisk (exeRoom.inGroup debugCondition assemblyProperty)) appProject
        ⟨.relative, ["App.csproj"]⟩ =
      Descriptor.read (treeDisk (exeRoom.onProperty debugCondition assemblyProperty)) appProject
        ⟨.relative, ["App.csproj"]⟩ ∧
    Descriptor.read (treeDisk (exeRoom.inGroup systemCondition assemblyProperty)) appProject
        ⟨.relative, ["App.csproj"]⟩ =
      Descriptor.read (treeDisk (exeRoom.inGroup "" assemblyProperty)) appProject
        ⟨.relative, ["App.csproj"]⟩ ∧
    Descriptor.read (treeDisk (exeRoom.onProperty systemCondition assemblyProperty)) appProject
        ⟨.relative, ["App.csproj"]⟩ =
      Descriptor.read (treeDisk exeRoom.vacant) appProject ⟨.relative, ["App.csproj"]⟩ := by
  have hdebug := (read_conditioned exeRoom debugCondition (e := assemblyProperty) rfl).1
    (.inr (by decide))
  obtain ⟨hgroup, hproperty⟩ := (read_conditioned exeRoom systemCondition
    (e := assemblyProperty) rfl).2 (by decide) (by decide)
  exact ⟨hdebug.treeDisk (by decide) (by decide),
    hgroup.treeDisk (by decide) (by decide),
    hproperty.treeDisk (by decide) (by decide)⟩

/-- A condition on the system leaves the name of the assembly alone at the property only. -/
theorem not_readAlike_conditioned :
    ¬ ∀ (g : Room) (c : String) (e : Element), e.value "Condition" = "" →
      ReadAlike (g.inGroup c e) (g.onProperty c e) := by
  intro h
  have halike := (h exeRoom systemCondition assemblyProperty rfl).treeDisk (by decide)
    (by decide)
  have hnames := congrArg (Except.map (·.1.assemblyName)) halike
  rw [read_treeDisk (by decide) (by decide), read_treeDisk (by decide)
    (by decide)] at hnames
  have hgroup : (read (treeDisk (exeRoom.inGroup systemCondition assemblyProperty)) appProject
      (exeRoom.inGroup systemCondition assemblyProperty) ⟨.relative, ["App.csproj"]⟩).map
        (·.1.assemblyName) = .ok "Other" := rfl
  have hproperty : (read (treeDisk (exeRoom.onProperty systemCondition assemblyProperty))
      appProject (exeRoom.onProperty systemCondition assemblyProperty)
      ⟨.relative, ["App.csproj"]⟩).map (·.1.assemblyName) = .ok "App" := rfl
  rw [hgroup, hproperty] at hnames
  exact absurd (Except.ok.inj hnames) (by decide)

end SolutionScript.Descriptor.Properties
