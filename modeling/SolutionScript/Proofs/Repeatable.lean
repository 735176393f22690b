import SolutionScript.Proofs.Conversion
import SolutionScript.Proofs.Graph.Enumeration
import SolutionScript.Proofs.Solution.LongItem
import SolutionScript.Proofs.Solution.Relisted
import SolutionScript.Server.Tools

/-!
# Repeatable runs

What comes out depends on the files and folders of a disk only. Two things are left to chance: in
which order a disk lists its folders (`Relisted`), and in which order sets of dependencies are gone
through (`Enumeration`). A script and a report of a build order show neither of them
(`renderIn_eq`, `buildOrderIn_eq`), and a build order is the same up to its sets
(`loadOrderedIn_eq`); so two runs end in the same way (`Relisted.repeatable`). One thing shows:
where several paths are too long for the system, a failure names the first of them
(`expand_branchDisk`, `expand_branchDisk_reversed`). And folders count even if there are no files in
them, since a path can lead through them (`findIn_emptyFolderDisk`).
-/

namespace SolutionScript

open FileSystem Fallible

/-! ## Runs with an order of enumeration -/

/-- The solution that is asked for, with mapped paths. -/
def loadMapped (d : Disk) (r : Request) : Except Failure Solution := do
  match PathMapping.ofPairs r.mappings with
  | .error items => throw (.mappingPair items)
  | .ok mappings =>
    let file ← Solution.locate d r.solution r.folder
    let solution ← Solution.load d file mappings
    pure (solution.mapPaths mappings)

/-- The projects of a solution in order, with their dependencies gone through in this order. -/
def orderIn (e : Enumeration) (s : Solution) : Except Failure OrderedSolution :=
  (BuildOrder.ofProjects (s.projects.map e.apply)).map (⟨s.name, ·⟩)

/-- The solution that is asked for with its projects in order, where dependencies are gone through
in this order. -/
def loadOrderedIn (e : Enumeration) (d : Disk) (r : Request) : Except Failure OrderedSolution :=
  loadMapped d r >>= orderIn e

/-- The script for projects in order. -/
def scriptOf (format : String) (m : Parameters) (s : OrderedSolution) : Except Failure String :=
  match Format.ofName format with
  | .error fault => .error (.tool fault)
  | .ok f => (f.script s.order m s.name).mapError (emitFailure format)

/-- The script for the solution that is asked for, where dependencies are gone through in this
order. -/
def renderIn (e : Enumeration) (d : Disk) (format : String) (m : Parameters) (r : Request) :
    Except Failure String :=
  loadOrderedIn e d r >>= scriptOf format m

/-- The report on projects in order. -/
def reportOf (s : OrderedSolution) : Except Failure Server.OrderReport :=
  (Server.describe s.order).map (⟨s.name, ·⟩)

/-- The build order of the solution that is asked for, where dependencies are gone through in this
order. -/
def buildOrderIn (e : Enumeration) (d : Disk) (r : Request) : Except Failure Server.OrderReport :=
  loadOrderedIn e d r >>= reportOf

variable {d d' : Disk} {r : Request} {format : String} {m : Parameters} (e : Enumeration)

/-! ## What the order of enumeration changes -/

theorem loadMapped_wellNumbered {s : Solution} (h : loadMapped d r = .ok s) :
    Solution.WellNumbered s.projects := by
  unfold loadMapped at h
  split at h
  · cases h
  · obtain ⟨file, -, h⟩ := bind_eq_ok.1 h
    obtain ⟨solution, hload, h⟩ := bind_eq_ok.1 h
    cases h
    exact (Solution.wellNumbered_of_load hload).1.mapPaths _

/-- Without another order, dependencies are gone through as they were added. -/
theorem loadOrderedIn_declared (d : Disk) (r : Request) :
    loadOrderedIn .declared d r = loadOrdered d r := by
  rw [loadOrderedIn, loadMapped, loadOrdered]
  cases PathMapping.ofPairs r.mappings with
  | error items => rfl
  | ok mappings =>
    cases Solution.locate d r.solution r.folder with
    | error e => rfl
    | ok file =>
      simp only [bind, Except.bind]
      cases Solution.load d file mappings with
      | error e => rfl
      | ok s =>
        simp only [pure, Except.pure, orderIn, Enumeration.declared_map]
        cases BuildOrder.ofProjects (s.mapPaths mappings).projects <;> rfl

/-- Projects in order, with their dependencies in this order. -/
def OrderedSolution.enumerated (e : Enumeration) (s : OrderedSolution) : OrderedSolution :=
  ⟨s.name, e.applyOrder s.order⟩

/-- The order of the projects is the same, whatever the order of their dependencies. -/
theorem loadOrderedIn_eq (d : Disk) (r : Request) :
    loadOrderedIn e d r = (loadOrdered d r).map (·.enumerated e) := by
  rw [← loadOrderedIn_declared, loadOrderedIn, loadOrderedIn]
  cases hmapped : loadMapped d r with
  | error failure => rfl
  | ok s =>
    have hnumbered := loadMapped_wellNumbered hmapped
    show orderIn e s = (orderIn .declared s).map _
    rw [orderIn, orderIn, e.ofProjects_map hnumbered.ids hnumbered.nodup_index,
      Enumeration.declared_map]
    generalize BuildOrder.ofProjects s.projects = order
    cases order <;> simp only [Except.map, OrderedSolution.enumerated]

/-- The projects that are needed are found, and differ by their indices. -/
theorem loadOrdered_needed {s : OrderedSolution} (h : loadOrdered d r = .ok s) :
    (s.order.projects.map (·.index)).Nodup ∧
      ∀ p ∈ s.order.projects, s.order.dependencies p = .ok (s.order.needed p) := by
  refine ⟨?_, fun p hp =>
    BuildOrder.dependencies_needed (exists_dependencies_of_loadOrdered h p hp)⟩
  obtain ⟨mappings, file, solution, -, -, hload, horder⟩ := loadOrdered_eq_ok h
  have hnumbered := (Solution.wellNumbered_of_load hload).1.mapPaths mappings
  have hperm := (BuildOrder.ofProjects_eq_ok hnumbered.ids horder).2.2.perm
  exact (hperm.map (·.index)).nodup_iff.2 hnumbered.nodup_index

/-! ## Scripts and reports -/

theorem render_eq (d : Disk) (format : String) (m : Parameters) (r : Request) :
    (render d format m r).map (·.script) = loadOrdered d r >>= scriptOf format m := by
  rw [render]
  cases loadOrdered d r with
  | error e => rfl
  | ok s =>
    simp only [bind, Except.bind, scriptOf]
    cases Format.ofName format with
    | error fault => rfl
    | ok f =>
      simp only [Format.write_buffer]
      cases f.script s.order m s.name with
      | error e => rfl
      | ok script => simp [pure, Except.pure, Except.map, Except.mapError]

theorem buildOrder_eq (d : Disk) (r : Request) :
    Server.buildOrder d r = loadOrdered d r >>= reportOf := by
  rw [Server.buildOrder]
  cases loadOrdered d r with
  | error e => rfl
  | ok s =>
    simp only [bind, Except.bind, reportOf]
    cases Server.describe s.order <;> rfl

section

variable {s : OrderedSolution} (hindex : (s.order.projects.map (·.index)).Nodup)
  (hneeded : ∀ p ∈ s.order.projects, s.order.dependencies p = .ok (s.order.needed p))
include hindex hneeded

/-- What is made of each project and of those that it needs is the same, if it does not show the
dependencies themselves. -/
theorem mapM_needed_enumerated {α : Type} {f : Project → List Project → α}
    (hf : ∀ p needed, f (e.apply p) (needed.map e.apply) = f p needed) :
    ((s.enumerated e).order.projects.mapM fun p =>
        ((s.enumerated e).order.dependencies p).map (f p)) =
      s.order.projects.mapM fun p => (s.order.dependencies p).map (f p) := by
  have hdependencies p (hp : p ∈ s.order.projects) :
      (s.enumerated e).order.dependencies (e.apply p) = .ok ((s.order.needed p).map e.apply) :=
    e.dependencies_map hindex (hneeded p hp)
  rw [BuildOrder.mapM_dependencies.2 ⟨hneeded, rfl⟩]
  refine BuildOrder.mapM_dependencies.2 ⟨?_, ?_⟩
  · refine List.forall_mem_map.2 fun p hp => ?_
    rw [BuildOrder.needed_eq (hdependencies p hp), hdependencies p hp]
  · rw [OrderedSolution.enumerated, Enumeration.applyOrder, List.map_map]
    refine List.map_congr_left fun p hp => ?_
    rw [Function.comp_apply, ← hf p]
    exact congrArg _ (BuildOrder.needed_eq (hdependencies p hp)).symm

omit hindex hneeded in
theorem names_applyOrder (o : BuildOrder) : (e.applyOrder o).names = o.names := by
  rw [BuildOrder.names, BuildOrder.names, Enumeration.applyOrder, List.map_map]
  rfl

theorem nant_enumerated (m : Parameters) (name : String) :
    NAnt.script (s.enumerated e).order m name = NAnt.script s.order m name := by
  have htargets := mapM_needed_enumerated e hindex hneeded
    (f := NAnt.projectTarget m.configurationName) fun p needed => by
      simp only [NAnt.projectTarget, NAnt.compiler, NAnt.referencePaths, List.map_map]
      rfl
  have hclean (o : BuildOrder) : NAnt.cleanTarget (e.applyOrder o) m.configurationName =
      NAnt.cleanTarget o m.configurationName := by
    rw [NAnt.cleanTarget, NAnt.cleanTarget, Enumeration.applyOrder, List.flatMap_map]
    rfl
  have hbuild (o : BuildOrder) : NAnt.buildTarget (e.applyOrder o) = NAnt.buildTarget o := by
    rw [NAnt.buildTarget, NAnt.buildTarget, names_applyOrder, Enumeration.applyOrder,
      List.isEmpty_map]
  have hreserved : (s.enumerated e).order.projects.find?
      (fun p => NAnt.reservedTargets.contains p.name) =
        (s.order.projects.find? fun p => NAnt.reservedTargets.contains p.name).map e.apply :=
    List.find?_map
  have hdocument : NAnt.document (s.enumerated e).order m name = NAnt.document s.order m name := by
    rw [NAnt.document, NAnt.document, htargets, OrderedSolution.enumerated, hclean, hbuild]
  rw [NAnt.script, NAnt.script, hreserved, hdocument]
  cases s.order.projects.find? fun p => NAnt.reservedTargets.contains p.name <;> rfl

theorem nmake_enumerated (m : Parameters) (name : String) :
    NMake.script (s.enumerated e).order m name = NMake.script s.order m name := by
  have hrules := mapM_needed_enumerated e hindex hneeded
    (f := NMake.projectRules m.configurationName) fun p needed => by
      simp only [NMake.projectRules, NMake.flags, NMake.prerequisites, NMake.referencePaths,
        List.map_map]
      rfl
  have hclean (o : BuildOrder) : NMake.cleanRule (e.applyOrder o) = NMake.cleanRule o := by
    simp only [NMake.cleanRule, Enumeration.applyOrder, List.map_map, List.filter_map]
    rfl
  have hartifacts (o : BuildOrder) :
      (e.applyOrder o).projects.map NMake.artifact = o.projects.map NMake.artifact :=
    List.map_map
  rw [NMake.script, NMake.script, NMake.lines, NMake.lines, hrules, OrderedSolution.enumerated,
    hclean, hartifacts]

theorem script_enumerated (f : Format) (m : Parameters) (name : String) :
    f.script (s.enumerated e).order m name = f.script s.order m name := by
  cases f with
  | nant => exact nant_enumerated e hindex hneeded m name
  | nmake => exact nmake_enumerated e hindex hneeded m name

theorem describe_enumerated : Server.describe (s.enumerated e).order = Server.describe s.order := by
  refine mapM_needed_enumerated e hindex hneeded fun p needed => ?_
  rw [List.map_map]
  rfl

end

/-- A script does not show in which order dependencies are gone through. -/
theorem renderIn_eq (d : Disk) (format : String) (m : Parameters) (r : Request) :
    renderIn e d format m r = (render d format m r).map (·.script) := by
  rw [render_eq, renderIn, loadOrderedIn_eq]
  cases hs : loadOrdered d r with
  | error failure => rfl
  | ok s =>
    obtain ⟨hindex, hneeded⟩ := loadOrdered_needed hs
    show scriptOf format m (s.enumerated e) = scriptOf format m s
    rw [scriptOf, scriptOf]
    cases Format.ofName format with
    | error fault => rfl
    | ok f =>
      dsimp only
      rw [script_enumerated e hindex hneeded]
      rfl

/-- A report of a build order does not show in which order dependencies are gone through. -/
theorem buildOrderIn_eq (d : Disk) (r : Request) :
    buildOrderIn e d r = Server.buildOrder d r := by
  rw [buildOrder_eq, buildOrderIn, loadOrderedIn_eq]
  cases hs : loadOrdered d r with
  | error failure => rfl
  | ok s =>
    obtain ⟨hindex, hneeded⟩ := loadOrdered_needed hs
    show reportOf (s.enumerated e) = reportOf s
    rw [reportOf, reportOf, describe_enumerated e hindex hneeded]
    rfl

/-! ## Two runs -/

/-- Two projects are the same: their dependencies are a set. -/
structure Project.Same (p q : Project) : Prop where
  rest : q = { p with dependencies := q.dependencies, dependencies_nodup := q.dependencies_nodup }
  dependencies : p.dependencies.Perm q.dependencies

/-- Two solutions have the same projects in the same order. -/
structure OrderedSolution.Same (s s' : OrderedSolution) : Prop where
  name : s.name = s'.name
  projects : List.Forall₂ Project.Same s.order.projects s'.order.projects

theorem same_enumerated (e e' : Enumeration) (s : OrderedSolution) :
    (s.enumerated e).Same (s.enumerated e') := by
  refine ⟨rfl, ?_⟩
  refine List.forall₂_map_left_iff.2 (List.forall₂_map_right_iff.2 (List.forall₂_same.2 ?_))
  exact fun p _ => ⟨rfl, (e.perm p).trans (e'.perm p).symm⟩

/-- Two runs on disks that hold the same end in the same way, in whichever order the disks list
their folders and sets are gone through: they find the same solution, expand items to the same
files, read projects alike, and give the same build order, script and report, or they fail
alike. Only where a search meets paths that are too long may each run name another one of them. -/
theorem FileSystem.Relisted.repeatable (h : Relisted d d') (e e' : Enumeration) :
    (∀ folder, SameUpToLong d {folder.getD d.homePath} (Solution.findIn d folder)
      (Solution.findIn d' folder)) ∧
    (∀ folder item, SameUpToLong d {folder} (Include.expand d folder item)
      (Include.expand d' folder item)) ∧
    (∀ p file, SameUpToLong d {file.parent} (Descriptor.read d p file)
      (Descriptor.read d' p file)) ∧
    (∀ r, Alike (Failure.SameUpToLong d Set.univ) OrderedSolution.Same (loadOrderedIn e d r)
      (loadOrderedIn e' d' r)) ∧
    (∀ format m r, SameUpToLong d Set.univ (renderIn e d format m r)
      (renderIn e' d' format m r)) ∧
    ∀ r, SameUpToLong d Set.univ (buildOrderIn e d r) (buildOrderIn e' d' r) := by
  refine ⟨h.findIn, h.expand, h.readDescriptor, fun r => ?_, fun format m r => ?_, fun r => ?_⟩
  · rw [loadOrderedIn_eq, loadOrderedIn_eq]
    exact (h.loadOrdered r).map fun s _ hs => hs ▸ same_enumerated e e' s
  · rw [renderIn_eq, renderIn_eq, render_eq, render_eq]
    exact (h.loadOrdered r).bind fun s _ hs => hs ▸ SameUpToLong.refl _
  · rw [buildOrderIn_eq, buildOrderIn_eq, buildOrder_eq, buildOrder_eq]
    exact (h.loadOrdered r).bind fun s _ hs => hs ▸ SameUpToLong.refl _

/-! ## Two solutions in reverse -/

/-- Dependencies are gone through in reverse. -/
def Enumeration.reversed : Enumeration :=
  ⟨fun p => p.dependencies.reverse, fun _ => List.reverse_perm _⟩

theorem relisted_pairDisk : Relisted pairDisk pairDisk.reversed :=
  Disk.relisted_reversed (by decide)

/-- The files that a search finds in ascending order are the solution files in a folder. -/
theorem filesIn_of_glob {folder : HostPath} {found files : List HostPath}
    (hfound : d.glob folder Solution.filePattern = .ok found)
    (honly : d.onlyFiles found = .ok files) (hsorted : files.Pairwise (·.le ·)) :
    Solution.filesIn d folder = .ok files := by
  have hsame : sorted files = files := List.mergeSort_of_pairwise hsorted
  rw [Solution.filesIn]
  simp only [hfound, honly, hsame, bind, Except.bind, pure, Except.pure]

theorem findIn_pairDisk : Solution.findIn pairDisk none =
    .error (.tool (.ambiguousSolution "/Work" ["Chain.sln", "Loop.sln"])) := by
  let files : List HostPath := [⟨.single, ["Work", "Chain.sln"]⟩, ⟨.single, ["Work", "Loop.sln"]⟩]
  have hfound : pairDisk.glob pairDisk.homePath Solution.filePattern = .ok files := by
    decide +kernel
  have honly : pairDisk.onlyFiles files = .ok files := by decide
  rw [Solution.findIn, Option.getD_none, filesIn_of_glob hfound honly (by decide)]
  rfl

/-- The two solutions in the folder are listed in different orders and named in the same order, and
a script for one of them is the same. -/
theorem repeatable_pairDisk :
    Relisted pairDisk pairDisk.reversed ∧
      pairDisk.tree.names ["Work"] ≠ pairDisk.reversed.tree.names ["Work"] ∧
      Solution.findIn pairDisk.reversed none =
        .error (.tool (.ambiguousSolution "/Work" ["Chain.sln", "Loop.sln"])) ∧
      ∃ out, render pairDisk Format.nmake.name [] chainRequest = .ok out ∧
        renderIn .reversed pairDisk.reversed Format.nmake.name [] chainRequest =
          .ok out.script := by
  obtain ⟨hfind, -, -, -, hrender, -⟩ := relisted_pairDisk.repeatable .declared .reversed
  have hfound := findIn_pairDisk
  obtain ⟨out, hout, -⟩ := render_chain []
  have hscript :
      renderIn .declared pairDisk Format.nmake.name [] chainRequest = .ok out.script := by
    rw [renderIn_eq, hout]
    rfl
  refine ⟨relisted_pairDisk, by decide, ?_, out, hout, ?_⟩
  · refine ((hfind none).eq fun fault h => ?_).symm.trans hfound
    cases hfound.symm.trans h
  · refine ((hrender _ _ _).eq fun fault h => ?_).symm.trans hscript
    cases hscript.symm.trans h

/-! ## What the order and empty folders show in -/

/-- Two folders, and nothing in them. -/
def branchDisk : Disk := { tree := ⟨[(["A"], .folder), (["B"], .folder)]⟩, home := [] }

theorem expand_branchDisk : Include.expand branchDisk ⟨.relative, []⟩ (Include.inEach longName) =
    .error (.disk (.system .nameTooLong ("A/" ++ longName) none)) := by
  have hfolders : Include.foldersIn branchDisk [] = ["A", "B"] := by decide +kernel
  rw [Include.expand_inEach ⟨rfl, [], rfl, rfl⟩ rfl hfolders
    ⟨by decide, ["A"], by decide, by decide⟩]
  rfl

theorem expand_branchDisk_reversed :
    Include.expand branchDisk.reversed ⟨.relative, []⟩ (Include.inEach longName) =
      .error (.disk (.system .nameTooLong ("B/" ++ longName) none)) := by
  have hfolders : Include.foldersIn branchDisk.reversed [] = ["B", "A"] := by decide +kernel
  rw [Include.expand_inEach ⟨rfl, [], rfl, rfl⟩ rfl hfolders
    ⟨by decide, ["B"], by decide, by decide⟩]
  rfl

/-- One solution in the current folder. -/
def soleDisk : Disk := { tree := ⟨[(["App.sln"], .file [])]⟩, home := [] }

/-- The same files, and a folder without files. -/
def emptyFolderDisk : Disk := { soleDisk with tree := soleDisk.tree.set ["sub"] .folder }

/-- The current folder, by way of the other one. -/
def detour : HostPath := ⟨.relative, ["sub", ".."]⟩

theorem files_emptyFolderDisk (l : Location) (bytes : List UInt8) :
    emptyFolderDisk.tree.entry? l = some (.file bytes) ↔
      soleDisk.tree.entry? l = some (.file bytes) := by
  by_cases hl : l = ["sub"]
  · have hnone : soleDisk.tree.entry? ["sub"] = none := by decide
    have hfolder : emptyFolderDisk.tree.entry? ["sub"] = some .folder :=
      FileTree.entry?_set_self _ _ (by simp)
    rw [hl, hnone, hfolder]
    simp
  · rw [emptyFolderDisk, FileTree.entry?_set_of_ne _ _ hl]

theorem findIn_soleDisk :
    Solution.findIn soleDisk (some detour) = .error (.tool (.noSolution "sub/.." "")) := by
  have hfound : soleDisk.glob detour Solution.filePattern = .ok [] := by decide
  rw [Solution.findIn, Option.getD_some, filesIn_of_glob hfound rfl .nil]
  rfl

theorem findIn_emptyFolderDisk :
    Solution.findIn emptyFolderDisk (some detour) = .ok (detour.child "App.sln") := by
  let files := [detour.child "App.sln"]
  have hfound : emptyFolderDisk.glob detour Solution.filePattern = .ok files := by decide +kernel
  have honly : emptyFolderDisk.onlyFiles files = .ok files := by decide
  rw [Solution.findIn, Option.getD_some, filesIn_of_glob hfound honly (List.pairwise_singleton ..)]

/-- Of two paths that are too long, the one that is named depends on the order in which folders are
listed; and a folder without files opens a way to others. -/
theorem not_repeatable_branches_emptyFolder :
    Relisted branchDisk branchDisk.reversed ∧
      Include.expand branchDisk ⟨.relative, []⟩ (Include.inEach longName) ≠
        Include.expand branchDisk.reversed ⟨.relative, []⟩ (Include.inEach longName) ∧
      (∀ l bytes, emptyFolderDisk.tree.entry? l = some (.file bytes) ↔
        soleDisk.tree.entry? l = some (.file bytes)) ∧
      emptyFolderDisk.home = soleDisk.home ∧
      Solution.findIn emptyFolderDisk (some detour) ≠ Solution.findIn soleDisk (some detour) := by
  refine ⟨Disk.relisted_reversed (by decide), ?_, files_emptyFolderDisk, rfl, ?_⟩
  · rw [expand_branchDisk, expand_branchDisk_reversed]
    intro h
    simp only [Except.error.injEq, Failure.disk.injEq, Fault.system.injEq] at h
    have hlist := congrArg String.toList h.2.1
    rw [String.toList_append, String.toList_append] at hlist
    exact absurd (List.cons.inj hlist).1 (by decide)
  · rw [findIn_emptyFolderDisk, findIn_soleDisk]
    nofun

end SolutionScript
