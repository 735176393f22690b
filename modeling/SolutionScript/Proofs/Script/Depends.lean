import SolutionScript.Proofs.Script.BuildFile
import SolutionScript.Proofs.Solution.PlainFile
import SolutionScript.Proofs.Text.Split

/-!
# What targets depend on

A target lists the names of the targets that it depends on with commas between them. The lists of
a NAnt script are split into the parts of the names that it was written for
(`targets_scriptElement`). These are the names themselves if and only if no project has a comma in
its name; then each is the name of one target, which stands before the one that lists it
(`script_depends`).
-/

namespace SolutionScript.NAnt

open FileSystem Text Xml

/-! ## Lists of names -/

/-- The names that an element lists. -/
def listed (e : Element) : List String :=
  match e.value? "depends" with
  | some names => splitAt ',' names
  | none => []

/-- The targets of a build file, each with the names that it lists. -/
def targets (e : Element) : List (String × List String) :=
  (e.childrenNamed "target").map fun target => (target.value "name", listed target)

/-- The targets for a build order, each with the names of the targets that it depends on. -/
def orderTargets (o : BuildOrder) : List (String × List String) :=
  o.projects.map (fun p => (p.name, (o.needed p).map (·.name))) ++
    [("build", o.names), ("clean", [])]

/-- The targets as their lists are split at commas. -/
def splitTargets (ts : List (String × List String)) : List (String × List String) :=
  ts.map fun (name, names) => (name, names.flatMap (splitAt ','))

theorem targets_outlined (e : Element) : targets e.outlined = targets e := by
  rw [targets, Element.childrenNamed_outlined, List.map_map]
  rfl

/-- What was joined to a list is split into the parts of the names. -/
theorem listed_depends (tag name description : String) (names : List String) (content : List Node) :
    listed ⟨tag, ("name", name) :: (depends names ++ [("description", description)]), content⟩ =
      names.flatMap (splitAt ',') := by
  rw [depends]
  by_cases h : names = []
  · subst h
    rfl
  · rw [if_neg h]
    exact splitAt_join (by decide) h

theorem targets_scriptElement (o : BuildOrder) (texts : Keyed String) (solutionName : String) :
    targets (scriptElement o texts solutionName) = splitTargets (orderTargets o) := by
  have hproject (p : Project) :
      listed (targetElement o (Parameters.ofTexts texts).configurationName p) =
        ((o.needed p).map (·.name)).flatMap (splitAt ',') := listed_depends _ _ _ _ _
  have hbuild : listed (buildElement o) = o.names.flatMap (splitAt ',') := listed_depends _ _ _ _ _
  rw [targets, childrenNamed_target, splitTargets, orderTargets, List.map_append, List.map_append,
    List.map_map, List.map_map]
  simp only [Function.comp_def, List.map_cons, List.map_nil, hproject, hbuild]
  rfl

/-- Lists are split into the names that they were made of if and only if none has a comma. -/
theorem splitTargets_eq_self {ts : List (String × List String)} :
    splitTargets ts = ts ↔ ∀ t ∈ ts, ∀ name ∈ t.2, ',' ∉ name.toList := by
  have hid : splitTargets ts = ts ↔ splitTargets ts = ts.map id := by
    rw [List.map_id]
  rw [hid, splitTargets, List.map_inj_left]
  refine forall₂_congr fun t _ => ?_
  rw [← flatMap_splitAt_eq_self, id, Prod.ext_iff]
  exact and_iff_right rfl

/-- The names that targets list are those of projects, and all of these are listed. -/
theorem forall_listed_orderTargets {o : BuildOrder} {P : String → Prop}
    (hneeds : ∀ p ∈ o.projects, o.Needs p (o.needed p)) :
    (∀ t ∈ orderTargets o, ∀ name ∈ t.2, P name) ↔ ∀ p ∈ o.projects, P p.name := by
  simp only [orderTargets, List.forall_mem_append, List.forall_mem_map, List.forall_mem_cons,
    BuildOrder.names]
  constructor
  · rintro ⟨-, hbuild, -⟩
    exact hbuild
  · intro h
    exact ⟨fun p hp q hq => h q ((hneeds p hp).mem hq), h, by simp⟩

/-! ## The order of targets -/

/-- Targets have different names, and list names of targets that stand before them. -/
structure WellOrdered (ts : List (String × List String)) : Prop where
  names : (ts.map (·.1)).Nodup
  earlier : ∀ before t after, ts = before ++ t :: after → ∀ name ∈ t.2, name ∈ before.map (·.1)

/-- A target can be added at the end that has another name than those before, and lists only
names of them. -/
theorem WellOrdered.concat {ts : List (String × List String)} (h : WellOrdered ts)
    {t : String × List String} (hname : t.1 ∉ ts.map (·.1))
    (hlist : ∀ name ∈ t.2, name ∈ ts.map (·.1)) :
    WellOrdered (ts ++ [t]) := by
  constructor
  · rw [List.map_append, List.map_singleton, ← List.concat_eq_append]
    exact h.names.concat hname
  · intro before u after hsplit
    rcases List.eq_nil_or_concat after with rfl | ⟨after, last, rfl⟩
    · obtain ⟨rfl, hlast⟩ := List.append_inj' hsplit rfl
      cases hlast
      exact hlist
    · rw [List.concat_eq_append, ← List.cons_append, ← List.append_assoc] at hsplit
      exact h.earlier before u after (List.append_inj' hsplit rfl).1

/-- The targets of projects are well ordered, since what a project needs is built before it. -/
theorem wellOrdered_orderTargets {o : BuildOrder} (hid : (o.projects.map (·.id)).Nodup)
    (hnames : o.names.Nodup) (hreserved : ∀ p ∈ o.projects, p.name ∉ reservedTargets)
    (hfirst : BuildOrder.DependenciesFirst o.projects)
    (hneeds : ∀ p ∈ o.projects, o.Needs p (o.needed p)) : WellOrdered (orderTargets o) := by
  have hkeys :
      (o.projects.map fun p => (p.name, (o.needed p).map (·.name))).map (·.1) = o.names := by
    rw [List.map_map]
    rfl
  have hprojects :
      WellOrdered (o.projects.map fun p => (p.name, (o.needed p).map (·.name))) := by
    refine ⟨hkeys ▸ hnames, fun before t after hsplit name hname => ?_⟩
    obtain ⟨earlier, rest, hprojects, rfl, hrest⟩ := List.map_eq_append_iff.1 hsplit
    obtain ⟨p, later, rfl, rfl, -⟩ := List.map_eq_cons_iff.1 hrest
    obtain ⟨q, hq, rfl⟩ := List.mem_map.1 hname
    have hneeded := hneeds p (hprojects ▸ List.mem_append_right _ List.mem_cons_self)
    rw [List.map_map]
    exact List.mem_map_of_mem (hneeded.mem_before hid hfirst hprojects hq)
  have hname {name : String} (h : name ∈ reservedTargets) : name ∉ o.names := by
    intro hmem
    obtain ⟨p, hp, rfl⟩ := List.mem_map.1 hmem
    exact hreserved p hp h
  have hbuild := hprojects.concat (t := ("build", o.names)) (hkeys ▸ @hname "build" (by decide))
    (hkeys.symm ▸ fun _ h => h)
  have hclean := hbuild.concat (t := ("clean", [])) ?_ (by simp)
  · rw [List.append_assoc] at hclean
    exact hclean
  · rw [List.map_append, hkeys, List.mem_append, not_or]
    exact ⟨@hname "clean" (by decide), by simp⟩

/-- What the targets of a NAnt script list is split at commas into the names that they were
written for if and only if no project has a comma in its name. Then the list of a project's target
has the names of what the project needs, that of the target for all projects has all names, and
each is the name of one target, which stands before. -/
theorem script_depends {ps : List Project} {o : BuildOrder} {m : Parameters}
    {solutionName text : String} (horder : BuildOrder.ofProjects ps = .ok o)
    (hid : (ps.map (·.id)).Nodup) (hnames : (ps.map (·.name)).Nodup)
    (h : script o m solutionName = .ok text) :
    ∃ e : Element, text = documentText e.toNode ∧
      targets e = splitTargets (orderTargets o) ∧
      (targets e = orderTargets o ↔ ∀ p ∈ ps, ',' ∉ p.name.toList) ∧
      WellOrdered (orderTargets o) ∧ (∀ p ∈ o.projects, o.Needs p (o.needed p)) ∧
      ((∀ p ∈ ps, p.TextsOver (isXmlChar · = true)) →
        (∀ texts, m = Parameters.ofTexts texts → ∀ a ∈ texts, IsText a.1 ∧ IsText a.2) →
        IsText solutionName → ¬ ['-', '-'] <:+: solutionName.toList →
        ∃ read, Document.parse (encode text) = .ok read ∧ targets read = targets e) := by
  have hmem : ∀ p ∈ o.projects, p ∈ ps := fun p => BuildOrder.mem_of_ofProjects horder
  have hleast := (BuildOrder.ofProjects_eq_ok hid horder).2.2
  obtain ⟨texts, rfl, hreserved, hneeded, rfl⟩ := script_eq_ok_iff.1 h
  have hneeds : ∀ p ∈ o.projects, o.Needs p (o.needed p) := fun p hp =>
    BuildOrder.needs_of_dependencies (hneeded p hp)
  refine ⟨scriptElement o texts solutionName, rfl, targets_scriptElement o texts solutionName, ?_,
    ?_, hneeds, fun hlegible htexts hname hhyphens => ?_⟩
  · rw [targets_scriptElement, splitTargets_eq_self, forall_listed_orderTargets hneeds]
    exact ⟨fun h p hp => h p (hleast.perm.mem_iff.2 hp), fun h p hp => h p (hmem p hp)⟩
  · exact wellOrdered_orderTargets ((hleast.perm.map _).nodup_iff.2 hid)
      ((hleast.perm.map _).nodup_iff.2 hnames) hreserved hleast.dependencies_first hneeds
  · obtain ⟨read, hread, houtlined⟩ := parse_scriptElement (fun p hp => hlegible p (hmem p hp))
      (htexts texts rfl) hname hhyphens h
    refine ⟨read, hread, ?_⟩
    rw [← targets_outlined read, houtlined, targets_outlined]

/-- A solution of two projects, one of which depends on the other: its target lists the name of
the other one. -/
theorem script_depends_chain :
    ∃ a c o text e, Solution.load pairDisk ⟨.relative, ["Chain.sln"]⟩ [] =
        .ok ⟨"Chain.sln", "8.00", [{ appProject with outputPath := a }.addDependency "{C}",
          { coreProject with outputPath := c }]⟩ ∧
      BuildOrder.ofProjects [{ appProject with outputPath := a }.addDependency "{C}",
        { coreProject with outputPath := c }] = .ok o ∧
      script o [] "Chain" = .ok text ∧ text = documentText (Element.toNode e) ∧
      targets e = [("Core", []), ("App", ["Core"]), ("build", ["Core", "App"]), ("clean", [])] ∧
      WellOrdered (targets e) := by
  obtain ⟨a, c, hload⟩ := load_chain
  have horder := ofProjects_chain a c
  have hid : ([{ appProject with outputPath := a }.addDependency "{C}",
      { coreProject with outputPath := c }].map (·.id)).Nodup := (by decide : ["{A}", "{C}"].Nodup)
  have hnames : ([{ appProject with outputPath := a }.addDependency "{C}",
      { coreProject with outputPath := c }].map (·.name)).Nodup :=
    (by decide : ["App", "Core"].Nodup)
  obtain ⟨text, htext⟩ := exists_script
    (by simp [appProject, coreProject, reservedTargets, Project.addDependency])
    (fun p hp => BuildOrder.dependencies_needed (BuildOrder.exists_dependencies hid horder hp))
    [] "Chain"
  obtain ⟨e, he, -, hiff, hordered, -, -⟩ := script_depends horder hid hnames htext
  have hcomma : ∀ p ∈ [{ appProject with outputPath := a }.addDependency "{C}",
      { coreProject with outputPath := c }], ',' ∉ p.name.toList := fun p hp =>
    (by decide : ∀ name ∈ ["App", "Core"], ',' ∉ name.toList) p.name
      (List.mem_map_of_mem (f := Project.name) hp)
  have htargets := hiff.2 hcomma
  have horderTargets : orderTargets ⟨[{ coreProject with outputPath := c },
      { appProject with outputPath := a }.addDependency "{C}"]⟩ =
        [("Core", []), ("App", ["Core"]), ("build", ["Core", "App"]), ("clean", [])] := by
    cbv
  exact ⟨a, c, _, text, e, hload, horder, htext, he, htargets.trans horderTargets,
    htargets ▸ hordered⟩

/-- The lines of a solution with a comma in the name of a project that another one depends on. -/
def commaLines : List String :=
  ["Microsoft Visual Studio Solution File, Format Version 8.00",
    "Project(\"{FAE04EC0-301F-11D3-BF4B-00C04F79EFBC}\") = \"App\", \"App.csproj\", \"{A}\"",
    "EndProject",
    "Project(\"{FAE04EC0-301F-11D3-BF4B-00C04F79EFBC}\") = \"Core,Base\", \"Core.csproj\", \"{C}\"",
    "EndProject", "GlobalSection(ProjectDependencies)", "{A}.0 = {C}"]

/-- A disk with the solution. -/
def commaDisk : Disk where
  tree := ⟨[(["Work"], .folder), (["Work", "Comma.sln"], Solution.plainFile commaLines),
    (["Work", "App.csproj"], Solution.plainFile bareDescriptor),
    (["Work", "Core.csproj"], Solution.plainFile bareDescriptor)]⟩
  home := ["Work"]

/-- The project with a comma in its name. -/
def commaProject : Project := { coreProject with name := "Core,Base" }

theorem load_comma : ∃ a c, Solution.load commaDisk ⟨.relative, ["Comma.sln"]⟩ [] =
    .ok ⟨"Comma.sln", "8.00", [{ appProject with outputPath := a }.addDependency "{C}",
      { commaProject with outputPath := c }]⟩ := by
  have hlines : Solution.readLines commaDisk ⟨.relative, ["Comma.sln"]⟩ = .ok commaLines :=
    Solution.readLines_plainFile rfl (by decide)
  have hparse : SolutionText.parse commaLines = .ok ⟨"8.00",
      [⟨"{FAE04EC0-301F-11D3-BF4B-00C04F79EFBC}", "App", "App.csproj", "{A}", 2, []⟩,
        ⟨"{FAE04EC0-301F-11D3-BF4B-00C04F79EFBC}", "Core,Base", "Core.csproj", "{C}", 4, []⟩],
      [("{A}", ["{C}"])]⟩ := by decide
  have hbuildable : "{FAE04EC0-301F-11D3-BF4B-00C04F79EFBC}" ∈ Solution.buildableTypes := by decide
  have happ : Solution.descriptorFile ⟨.relative, []⟩ [] "App" "App.csproj" =
      .ok ⟨.relative, ["App.csproj"]⟩ := by decide
  have hcomma : Solution.descriptorFile ⟨.relative, []⟩ [] "Core,Base" "Core.csproj" =
      .ok ⟨.relative, ["Core.csproj"]⟩ := by decide
  have hreadApp := @read_bareDescriptor commaDisk appProject ⟨.relative, ["App.csproj"]⟩ rfl rfl
  have hreadComma :=
    @read_bareDescriptor commaDisk commaProject ⟨.relative, ["Core.csproj"]⟩ rfl rfl
  simp only [appProject, commaProject, coreProject] at hreadApp hreadComma
  refine ⟨Descriptor.outputPathOf appProject, Descriptor.outputPathOf commaProject,
    Solution.load_eq_ok.2 ⟨_, _, [⟨{ appProject with outputPath := _ }, [], 2⟩,
      ⟨{ commaProject with outputPath := _ }, [], 4⟩], hlines, hparse, ?_, rfl, rfl, rfl⟩⟩
  simp [List.foldlM, Solution.loadEntry, Solution.projectsOf, hbuildable, Solution.loadProject,
    bind, Except.bind, pure, Except.pure, happ, hcomma, hreadApp, hreadComma, appProject,
    commaProject, coreProject, HostPath.parent]

/-- The name of a project with a comma is split in the list of the one that depends on it: the
parts are names of no target. -/
theorem targets_comma :
    ∃ a c o text read, Solution.load commaDisk ⟨.relative, ["Comma.sln"]⟩ [] =
        .ok ⟨"Comma.sln", "8.00", [{ appProject with outputPath := a }.addDependency "{C}",
          { commaProject with outputPath := c }]⟩ ∧
      BuildOrder.ofProjects [{ appProject with outputPath := a }.addDependency "{C}",
        { commaProject with outputPath := c }] = .ok o ∧
      script o [] "Comma" = .ok text ∧ Document.parse (encode text) = .ok read ∧
      targets read = [("Core,Base", []), ("App", ["Core", "Base"]),
        ("build", ["Core", "Base", "App"]), ("clean", [])] ∧
      ∀ name ∈ ["Core", "Base"], name ∉ (targets read).map (·.1) := by
  obtain ⟨a, c, hload⟩ := load_comma
  have horder : BuildOrder.ofProjects [{ appProject with outputPath := a }.addDependency "{C}",
      { commaProject with outputPath := c }] =
        .ok ⟨[{ commaProject with outputPath := c },
          { appProject with outputPath := a }.addDependency "{C}"]⟩ := by
    simp only [BuildOrder.ofProjects, BuildOrder.unresolved?, ← Option.not_isSome]
    cbv
  have hid : ([{ appProject with outputPath := a }.addDependency "{C}",
      { commaProject with outputPath := c }].map (·.id)).Nodup := (by decide : ["{A}", "{C}"].Nodup)
  have hreserved : ∀ p ∈ [{ commaProject with outputPath := c },
      { appProject with outputPath := a }.addDependency "{C}"], p.name ∉ reservedTargets :=
    fun p hp => (by decide : ∀ name ∈ ["Core,Base", "App"], name ∉ reservedTargets) p.name
      (List.mem_map_of_mem (f := Project.name) hp)
  obtain ⟨text, htext⟩ := exists_script hreserved (fun p hp => BuildOrder.dependencies_needed
    (BuildOrder.exists_dependencies hid horder hp)) [] "Comma"
  have htexts : ∀ p ∈ [{ commaProject with outputPath := c },
      { appProject with outputPath := a }.addDependency "{C}"],
      p.TextsOver (isXmlChar · = true) := by
    have happ : appProject.TextsOver (isXmlChar · = true) := by decide
    have hcomma : commaProject.TextsOver (isXmlChar · = true) := by decide
    rw [List.forall_mem_cons, List.forall_mem_singleton]
    exact ⟨⟨hcomma.1, hcomma.2, hcomma.3, hcomma.4, hcomma.5, hcomma.6, hcomma.7, hcomma.8⟩,
      ⟨happ.1, happ.2, happ.3, happ.4, happ.5, happ.6, happ.7, happ.8⟩⟩
  obtain ⟨read, hread, houtlined⟩ :=
    parse_scriptElement htexts (by simp) (by decide) (by decide) htext
  have htargets : targets read = [("Core,Base", []), ("App", ["Core", "Base"]),
      ("build", ["Core", "Base", "App"]), ("clean", [])] := by
    rw [← targets_outlined, houtlined, targets_outlined, targets_scriptElement]
    cbv
  refine ⟨a, c, _, text, read, hload, horder, htext, hread, htargets, ?_⟩
  rw [htargets]
  decide

end SolutionScript.NAnt
