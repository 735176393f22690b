import Mathlib.Data.List.ReduceOption
import SolutionScript.Proofs.FileSystem.Refusal
import SolutionScript.Server.ProjectRoot

/-!
# The choice of the project root

Four sources may name the root (`rootSources`): the first root of the client, two variables of the
environment and the project folder. Any of them may be missing, name no path, or lead to a file or
nowhere; it is passed over then, and the next one is tried (`firstFolder_append`). A search ends at
the first folder, at the end of the sources, or at a path that the system refuses to look at,
because it is too long (`firstFolder_cases`).

* `projectRoot_first`: the root is the first of the sources at which a folder stands, or else the
  starting folder, unless a path that is too long comes before;
* `projectRoot_hidden`: such a path hides the sources after it.
-/

namespace SolutionScript

open FileSystem Fallible

namespace Server

/-! ## Searches -/

variable {d : Disk} {before after rest sources : List (Option HostPath)} {p : HostPath}
  {found : Option HostPath} {fault : Fault}

/-- What is passed over does not count. -/
theorem firstFolder_append (h : ∀ q, some q ∈ before → ¬ d.HasFolder q ∧ ¬ d.Refuses q)
    (rest : List (Option HostPath)) :
    firstFolder d (before ++ rest).reduceOption = firstFolder d rest.reduceOption := by
  induction before with
  | nil => rfl
  | cons source before ih =>
    have hrest := ih fun q hq => h q (List.mem_cons_of_mem _ hq)
    cases source with
    | none => rw [List.cons_append, List.reduceOption_cons_of_none, hrest]
    | some q =>
      have hq := Disk.isFolder_eq_false.2 (h q List.mem_cons_self)
      rw [List.cons_append, List.reduceOption_cons_of_some, firstFolder, hq]
      exact hrest

/-- The ends of a search. -/
theorem firstFolder_cases (d : Disk) (sources : List (Option HostPath)) :
    (∀ q, some q ∈ sources → ¬ d.HasFolder q ∧ ¬ d.Refuses q) ∨
    ∃ before p after, sources = before ++ some p :: after ∧
      (∀ q, some q ∈ before → ¬ d.HasFolder q ∧ ¬ d.Refuses q) ∧ (d.HasFolder p ∨ d.Refuses p) := by
  induction sources with
  | nil => exact .inl (by simp)
  | cons source sources ih =>
    by_cases hpassed : ∀ q, source = some q → ¬ d.HasFolder q ∧ ¬ d.Refuses q
    · rcases ih with hall | ⟨before, p, after, rfl, hbefore, hp⟩
      · refine .inl fun q hq => ?_
        rcases List.mem_cons.1 hq with hq | hq
        · exact hpassed q hq.symm
        · exact hall q hq
      · refine .inr ⟨source :: before, p, after, rfl, fun q hq => ?_, hp⟩
        rcases List.mem_cons.1 hq with hq | hq
        · exact hpassed q hq.symm
        · exact hbefore q hq
    · push Not at hpassed
      obtain ⟨p, rfl, hp⟩ := hpassed
      exact .inr ⟨[], p, sources, rfl, by simp, or_iff_not_imp_left.2 hp⟩

theorem firstFolder_none (h : ∀ q, some q ∈ sources → ¬ d.HasFolder q ∧ ¬ d.Refuses q) :
    firstFolder d sources.reduceOption = .ok none := by
  have hall := firstFolder_append h []
  rwa [List.append_nil] at hall

theorem firstFolder_some (h : ∀ q, some q ∈ before → ¬ d.HasFolder q ∧ ¬ d.Refuses q)
    (hp : d.HasFolder p) (after : List (Option HostPath)) :
    firstFolder d (before ++ some p :: after).reduceOption = .ok (some p) := by
  rw [firstFolder_append h, List.reduceOption_cons_of_some, firstFolder, Disk.isFolder_iff.2 hp]
  rfl

theorem firstFolder_refused (h : ∀ q, some q ∈ before → ¬ d.HasFolder q ∧ ¬ d.Refuses q)
    (hp : d.Refuses p) (after : List (Option HostPath)) :
    firstFolder d (before ++ some p :: after).reduceOption =
      .error (.system .nameTooLong p.render none) := by
  rw [firstFolder_append h, List.reduceOption_cons_of_some, firstFolder,
    Disk.isFolder_eq_error.2 ⟨hp, rfl⟩]
  rfl

/-! ## The root -/

/-- The sources that may name the root, in order; one that is missing, empty or malformed names
nothing. -/
def rootSources (settings : RootSettings) (environment : Keyed String) (client : ClientRoots) :
    List (Option HostPath) :=
  [clientRoot? client,
    (environment.get? "SLINGSHOT_PROJECT_ROOT").bind RootSettings.pathOf,
    (environment.get? "MCP_PROJECT_ROOT").bind RootSettings.pathOf,
    settings.project]

theorem rootCandidates_eq (settings : RootSettings) (environment : Keyed String)
    (client : ClientRoots) :
    rootCandidates settings environment client =
      (rootSources settings environment client).reduceOption := by
  rw [rootCandidates, rootVariables, rootSources, List.filterMap_cons, List.filterMap_cons,
    List.filterMap_nil]
  cases clientRoot? client <;>
    cases (environment.get? "SLINGSHOT_PROJECT_ROOT").bind RootSettings.pathOf <;>
      cases (environment.get? "MCP_PROJECT_ROOT").bind RootSettings.pathOf <;>
        cases settings.project <;> rfl

/-- The root is the first of the sources at which a folder stands; where there is none, it is the
starting folder, if there is one. -/
def IsRoot (d : Disk) (sources : List (Option HostPath)) (start root : Option HostPath) : Prop :=
  (∃ before p after, sources = before ++ some p :: after ∧
    (∀ q, some q ∈ before → ¬ d.HasFolder q) ∧ d.HasFolder p ∧ root = some p) ∨
  (∀ q, some q ∈ sources → ¬ d.HasFolder q) ∧ root = start

theorem projectRoot_eq (d : Disk) (settings : RootSettings) (environment : Keyed String)
    (client : ClientRoots) :
    projectRoot d settings environment client =
      (firstFolder d (rootSources settings environment client).reduceOption).map
        (·.or settings.start) := by
  rw [projectRoot, rootCandidates_eq]
  cases firstFolder d (rootSources settings environment client).reduceOption <;> rfl

/-- What is found is the root. -/
theorem projectRoot_cases (d : Disk) (settings : RootSettings) (environment : Keyed String)
    (client : ClientRoots) :
    (∃ root, projectRoot d settings environment client = .ok root ∧
      IsRoot d (rootSources settings environment client) settings.start root) ∨
    ∃ before p after, rootSources settings environment client = before ++ some p :: after ∧
      (∀ q, some q ∈ before → ¬ d.HasFolder q ∧ ¬ d.Refuses q) ∧ d.Refuses p := by
  rw [projectRoot_eq]
  rcases firstFolder_cases d (rootSources settings environment client) with
    hall | ⟨before, p, after, hsources, hbefore, hp | hp⟩
  · exact .inl ⟨_, by rw [firstFolder_none hall]; rfl, .inr ⟨fun q hq => (hall q hq).1, rfl⟩⟩
  · refine .inl ⟨some p, by rw [hsources, firstFolder_some hbefore hp]; rfl, .inl ?_⟩
    exact ⟨before, p, after, hsources, fun q hq => (hbefore q hq).1, hp, rfl⟩
  · exact .inr ⟨before, p, after, hsources, hbefore, hp⟩

/-- Where the system looks at all sources, there is a root: the first of them at which a folder
stands, or else the starting folder. Whatever root is found is that one. None is found if and only
if a path that is too long comes before every folder, and then the search fails for that path. -/
theorem projectRoot_first (d : Disk) (settings : RootSettings) (environment : Keyed String)
    (client : ClientRoots) :
    ((∀ p, some p ∈ rootSources settings environment client → ¬ d.Refuses p) →
      ∃ root, projectRoot d settings environment client = .ok root) ∧
    (∀ root, projectRoot d settings environment client = .ok root →
      IsRoot d (rootSources settings environment client) settings.start root) ∧
    ∀ fault, projectRoot d settings environment client = .error fault ↔
      ∃ before p after, rootSources settings environment client = before ++ some p :: after ∧
        (∀ q, some q ∈ before → ¬ d.HasFolder q ∧ ¬ d.Refuses q) ∧ d.Refuses p ∧
        fault = .system .nameTooLong p.render none := by
  have hrefused {before after : List (Option HostPath)} {p : HostPath}
      (hsources : rootSources settings environment client = before ++ some p :: after)
      (hbefore : ∀ q, some q ∈ before → ¬ d.HasFolder q ∧ ¬ d.Refuses q) (hp : d.Refuses p) :
      projectRoot d settings environment client =
        .error (.system .nameTooLong p.render none) := by
    rw [projectRoot_eq, hsources, firstFolder_refused hbefore hp]
    rfl
  rcases projectRoot_cases d settings environment client with
    ⟨root, hroot, hfirst⟩ | ⟨before, p, after, hsources, hbefore, hp⟩
  · refine ⟨fun _ => ⟨root, hroot⟩, fun root' hroot' => ?_, fun fault => ⟨fun hfault => ?_, ?_⟩⟩
    · cases hroot.symm.trans hroot'
      exact hfirst
    · cases hroot.symm.trans hfault
    · rintro ⟨before, p, after, hsources, hbefore, hp, -⟩
      cases hroot.symm.trans (hrefused hsources hbefore hp)
  · have hfails := hrefused hsources hbefore hp
    refine ⟨fun hlooks => ?_, fun root hroot => ?_, fun fault => ⟨fun hfault => ?_, ?_⟩⟩
    · exact absurd hp (hlooks p (by simp [hsources]))
    · cases hfails.symm.trans hroot
    · cases hfails.symm.trans hfault
      exact ⟨before, p, after, hsources, hbefore, hp, rfl⟩
    · rintro ⟨before', p', after', hsources', hbefore', hp', rfl⟩
      exact hrefused hsources' hbefore' hp'

/-! ## A path that is too long -/

/-- A disk with a folder, a folder in it and a file. -/
def rootDisk : Disk where
  tree := ⟨[(["srv"], .folder), (["srv", "app"], .folder), (["srv", "notes"], .file [])]⟩
  home := []

/-- The project folder, and the folder to start from. -/
def staleSettings : RootSettings := ⟨some ⟨.single, ["srv"]⟩, some ⟨.single, []⟩⟩

/-- Variables for the folder in it and for the file, which is looked at first. -/
def staleEnvironment : Keyed String :=
  [("MCP_PROJECT_ROOT", "/srv/app"), ("SLINGSHOT_PROJECT_ROOT", "/srv/notes")]

/-- A client with a root elsewhere and a variable for a file are passed over. -/
theorem projectRoot_first_stale :
    (∀ p, some p ∈ rootSources staleSettings staleEnvironment (.listed ["http://localhost/App"]) →
      ¬ rootDisk.Refuses p) ∧
    projectRoot rootDisk staleSettings staleEnvironment (.listed ["http://localhost/App"]) =
      .ok (some ⟨.single, ["srv", "app"]⟩) ∧
    IsRoot rootDisk
      (rootSources staleSettings staleEnvironment (.listed ["http://localhost/App"]))
      staleSettings.start (some ⟨.single, ["srv", "app"]⟩) := by
  have hsources :
      rootSources staleSettings staleEnvironment (.listed ["http://localhost/App"]) =
        [none, some ⟨.single, ["srv", "notes"]⟩, some ⟨.single, ["srv", "app"]⟩,
          some ⟨.single, ["srv"]⟩] := by
    decide
  have hlooks : ∀ p,
      some p ∈ rootSources staleSettings staleEnvironment (.listed ["http://localhost/App"]) →
        ¬ rootDisk.Refuses p := by
    rintro p hp ⟨-, hlocate⟩
    rw [hsources] at hp
    have hstands : rootDisk.locate p = .ok p.names := by
      simp only [List.mem_cons, reduceCtorEq, Option.some.injEq, List.not_mem_nil, or_false,
        false_or] at hp
      rcases hp with rfl | rfl | rfl <;> decide
    cases hstands.symm.trans hlocate
  have hfolders : firstFolder rootDisk [⟨.single, ["srv", "notes"]⟩, ⟨.single, ["srv", "app"]⟩,
      ⟨.single, ["srv"]⟩] = .ok (some ⟨.single, ["srv", "app"]⟩) := by
    decide
  obtain ⟨hreturns, hfirst, -⟩ := projectRoot_first rootDisk staleSettings staleEnvironment
    (.listed ["http://localhost/App"])
  obtain ⟨root, hroot⟩ := hreturns hlooks
  obtain rfl : root = some ⟨.single, ["srv", "app"]⟩ := by
    have hsame := hroot
    rw [projectRoot_eq, hsources] at hsame
    exact Except.ok.inj (hsame.symm.trans (congrArg (Except.map _) hfolders))
  exact ⟨hlooks, hroot, hfirst _ hroot⟩

theorem rootSources_variable {value : String} {p : HostPath}
    (h : RootSettings.pathOf value = some p) :
    rootSources staleSettings [("SLINGSHOT_PROJECT_ROOT", value)] .absent =
      [none, some p, none] ++ [some ⟨.single, ["srv"]⟩] := by
  have hfirst : Keyed.get? [("SLINGSHOT_PROJECT_ROOT", value)] "SLINGSHOT_PROJECT_ROOT" =
      some value := if_pos rfl
  have hsecond : Keyed.get? [("SLINGSHOT_PROJECT_ROOT", value)] "MCP_PROJECT_ROOT" = none :=
    if_neg (by decide)
  rw [rootSources, hfirst, hsecond, Option.bind_some, h]
  rfl

/-- A name for a folder that can not be there hides the project folder, which would be the root. -/
theorem projectRoot_hidden :
    projectRoot rootDisk staleSettings [("SLINGSHOT_PROJECT_ROOT", longName)] .absent =
      .error (.system .nameTooLong longName none) ∧
    IsRoot rootDisk (rootSources staleSettings [("SLINGSHOT_PROJECT_ROOT", longName)] .absent)
      staleSettings.start (some ⟨.single, ["srv"]⟩) := by
  have hhome : rootDisk.tree.entry? rootDisk.home = some .folder := rfl
  have hpath : RootSettings.pathOf longName = some ⟨.relative, [longName]⟩ := by
    rw [RootSettings.pathOf, if_neg longName_ne_empty, parse_longName]
  have hsources := rootSources_variable hpath
  have hlong := refuses_longName hhome
  have hfolder : rootDisk.HasFolder ⟨.single, ["srv"]⟩ :=
    ⟨by decide, ["srv"], by decide, by decide⟩
  have hrefused := @firstFolder_refused _ [none] _ (by simp) hlong [none, some ⟨.single, ["srv"]⟩]
  rw [HostPath.render_name] at hrefused
  constructor
  · rw [projectRoot_eq, hsources]
    exact congrArg (Except.map _) hrefused
  · refine .inl ⟨_, _, [], hsources, fun q hq => ?_, hfolder, rfl⟩
    obtain rfl : q = ⟨.relative, [longName]⟩ := by simpa using hq
    rintro ⟨-, l, hl, -⟩
    cases hlong.2.symm.trans hl

end Server

end SolutionScript
