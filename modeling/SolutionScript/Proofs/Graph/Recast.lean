import SolutionScript.Proofs.Graph.Members

/-!
# Changes that ordering does not see

Ordering looks at the identifiers, names, indices and dependencies of projects, and at nothing else.
A map on projects that keeps these (`Recast`) commutes with every step of the search for cycles and
of the choice of the next project, if it commutes with looking up the dependencies of a project. So
the projects come in the same order, or ordering fails in the same way (`ofProjects_map`).
-/

namespace SolutionScript

open Fallible

variable {ps : List Project}

/-! ## The search for cycles, step by step -/

namespace Cycle

/-- What the search does with a dependency that is to be looked at. -/
theorem search_cons (ps : List Project) (unvisited : List String) (p child : Project)
    (pending : List Project) (outer : List Visit) :
    search ps unvisited (⟨p, child :: pending⟩ :: outer) =
      if (⟨p, child :: pending⟩ :: outer : List Visit).any
          (fun v => v.project.id = child.id) then
        .ok (.inl (closing (⟨p, child :: pending⟩ :: outer) child.id))
      else if child.id ∈ unvisited then
        dependencies ps child >>= fun next =>
          search ps (unvisited.erase child.id) (⟨child, next⟩ :: ⟨p, pending⟩ :: outer)
      else search ps unvisited (⟨p, pending⟩ :: outer) := by
  rw [search]
  split
  · rfl
  split
  · cases dependencies ps child <;> rfl
  · rfl

theorem mem_of_resolve {id : String} {q : Project} (h : resolve ps id = .ok q) : q ∈ ps := by
  rw [resolve] at h
  split at h
  · rename_i found hfound
    cases h
    exact List.mem_reverse.1 (List.mem_of_find?_eq_some hfound)
  · cases h

theorem mem_of_dependencies {p : Project} {needed : List Project}
    (h : dependencies ps p = .ok needed) : ∀ q ∈ needed, q ∈ ps := by
  obtain ⟨found, hfound, rfl⟩ := map_eq_ok.1 h
  intro q hq
  obtain ⟨id, -, hid⟩ := (mem_iff_of_mapM_eq_ok hfound).1 (Project.mem_sorted.1 hq)
  exact mem_of_resolve hid

/-- What is on a path and still to be looked at is one of the projects. -/
def Among (ps : List Project) (path : List Visit) : Prop :=
  ∀ v ∈ path, v.project ∈ ps ∧ ∀ q ∈ v.pending, q ∈ ps

theorem Among.tail {v : Visit} {path : List Visit} (h : Among ps (v :: path)) :
    Among ps path :=
  fun v hv => h v (List.mem_cons_of_mem _ hv)

/-- The first of the projects to be looked at has been looked at. -/
theorem Among.next {p child : Project} {pending : List Project} {outer : List Visit}
    (h : Among ps (⟨p, child :: pending⟩ :: outer)) :
    child ∈ ps ∧ Among ps (⟨p, pending⟩ :: outer) := by
  obtain ⟨hp, hpending⟩ := h _ List.mem_cons_self
  refine ⟨hpending child List.mem_cons_self, List.forall_mem_cons.2 ⟨⟨hp, fun q hq => ?_⟩, h.tail⟩⟩
  exact hpending q (List.mem_cons_of_mem _ hq)

end Cycle

/-- The least of some projects comes before the others that have its key. -/
theorem BuildOrder.exists_least (first : Project) (rest : List Project) :
    ∃ before after, first :: rest = before ++ least first rest :: after ∧
      ∀ q ∈ before, (least first rest).readyKey < q.readyKey := by
  induction rest generalizing first with
  | nil => exact ⟨[], [], rfl, by simp⟩
  | cons q rest ih =>
    have hleast : least first (q :: rest) = least (if readyLe first q then first else q) rest := rfl
    rw [hleast]
    split
    · rename_i hle
      rw [readyLe_iff] at hle
      obtain ⟨before, after, hsplit, hbefore⟩ := ih first
      cases before with
      | nil =>
        obtain ⟨hfirst, -⟩ := List.cons.inj hsplit
        exact ⟨[], q :: rest, by rw [← hfirst]; rfl, by simp⟩
      | cons p before =>
        obtain ⟨rfl, hrest⟩ := List.cons.inj hsplit
        rw [List.forall_mem_cons] at hbefore
        refine ⟨first :: q :: before, after, congrArg (first :: q :: ·) hrest, ?_⟩
        exact List.forall_mem_cons.2
          ⟨hbefore.1, List.forall_mem_cons.2 ⟨hbefore.1.trans_le hle, hbefore.2⟩⟩
    · rename_i hle
      rw [readyLe_iff, not_le] at hle
      obtain ⟨before, after, hsplit, hbefore⟩ := ih q
      have hfirst := ((least_spec q rest).2 q List.mem_cons_self).trans_lt hle
      exact ⟨first :: before, after, by rw [hsplit]; rfl, List.forall_mem_cons.2 ⟨hfirst, hbefore⟩⟩

/-! ## Changes of projects -/

/-- A change of projects that keeps what they are ordered by. Dependencies may come in another
order. -/
structure Recast (f : Project → Project) : Prop where
  id : ∀ p, (f p).id = p.id
  name : ∀ p, (f p).name = p.name
  index : ∀ p, (f p).index = p.index
  dependencies : ∀ p, (f p).dependencies.Perm p.dependencies

namespace Recast

variable {f : Project → Project} (hf : Recast f)
include hf

theorem sorted_map (ps : List Project) :
    Project.sorted (ps.map f) = (Project.sorted ps).map f :=
  (List.map_mergeSort fun p _ q _ => by simp only [Project.le, hf.name, hf.index]).symm

theorem withId?_map (ps : List Project) (id : String) :
    Project.withId? (ps.map f) id = (Project.withId? ps id).map f := by
  have hsame : (fun p : Project => decide (p.id = id)) ∘ f = fun p => decide (p.id = id) := by
    funext p
    simp only [Function.comp_apply, hf.id]
  rw [Project.withId?, Project.withId?, ← List.map_reverse, List.find?_map, hsame]

theorem mem_dependencies {p : Project} {id : String} :
    id ∈ (f p).dependencies ↔ id ∈ p.dependencies :=
  (hf.dependencies p).mem_iff

/-! ## Unresolved dependencies -/

theorem sortedDependencies_eq (p : Project) : (f p).sortedDependencies = p.sortedDependencies :=
  mergeSort_eq_of_perm (fun id => id) (fun _ _ => Text.le_iff) (hf.dependencies p)
    fun _ _ _ _ h => h

theorem unresolved?_map (ps : List Project) :
    BuildOrder.unresolved? (ps.map f) =
      (BuildOrder.unresolved? ps).map fun found => (f found.1, found.2) := by
  rw [BuildOrder.unresolved?, BuildOrder.unresolved?, hf.sorted_map, List.findSome?_map,
    List.map_findSome?]
  congr 1
  funext p
  simp only [Function.comp_apply, hf.sortedDependencies_eq, hf.withId?_map, Option.isNone_map,
    Option.map_map]
  rfl

/-! ## The search for cycles -/

theorem resolve_map (ps : List Project) (id : String) :
    Cycle.resolve (ps.map f) id = (Cycle.resolve ps id).map f := by
  rw [Cycle.resolve, Cycle.resolve, hf.withId?_map]
  cases Project.withId? ps id <;> rfl

omit hf in
/-- A project that is visited, and those that are still to be, after the change. -/
def visit (f : Project → Project) (v : Cycle.Visit) : Cycle.Visit := ⟨f v.project, v.pending.map f⟩

theorem closing_map (path : List Cycle.Visit) (id : String) :
    Cycle.closing (path.map (visit f)) id = (Cycle.closing path id).map f := by
  have hprojects : (path.map (visit f)).reverse.map (·.project) =
      (path.reverse.map (·.project)).map f := by
    rw [← List.map_reverse, List.map_map, List.map_map]
    rfl
  have hsame : (fun p : Project => p.id != id) ∘ f = fun p => p.id != id := by
    funext p
    simp only [Function.comp_apply, hf.id]
  rw [Cycle.closing, Cycle.closing, hprojects, List.dropWhile_map, hsame]

theorem any_map (path : List Cycle.Visit) (id : String) :
    (path.map (visit f)).any (fun v => v.project.id = id) =
      path.any (fun v => v.project.id = id) := by
  rw [List.any_map]
  congr 1
  funext v
  simp only [Function.comp_apply, visit, hf.id]

section

variable (hdeps : ∀ p ∈ ps,
  Cycle.dependencies (ps.map f) (f p) = (Cycle.dependencies ps p).map (List.map f))
include hdeps

/-- The search takes the same steps after the change. -/
theorem search_map (unvisited : List String) (path : List Cycle.Visit)
    (hpath : Cycle.Among ps path) :
    Cycle.search (ps.map f) unvisited (path.map (visit f)) =
      (Cycle.search ps unvisited path).map (Sum.map (List.map f) fun ids => ids) := by
  have hstep p child pending outer (unvisited : List String) :
      Cycle.search (ps.map f) unvisited
          ((⟨p, child :: pending⟩ :: outer : List Cycle.Visit).map (visit f)) =
        if (⟨p, child :: pending⟩ :: outer : List Cycle.Visit).any
            (fun v => v.project.id = child.id) then
          .ok (.inl ((Cycle.closing (⟨p, child :: pending⟩ :: outer) child.id).map f))
        else if child.id ∈ unvisited then
          Cycle.dependencies (ps.map f) (f child) >>= fun next =>
            Cycle.search (ps.map f) (unvisited.erase child.id)
              (⟨f child, next⟩ :: (⟨p, pending⟩ :: outer : List Cycle.Visit).map (visit f))
        else Cycle.search (ps.map f) unvisited
          ((⟨p, pending⟩ :: outer : List Cycle.Visit).map (visit f)) := by
    rw [← hf.any_map, ← hf.closing_map, ← hf.id child]
    exact Cycle.search_cons ..
  induction unvisited, path using Cycle.search.induct ps with
  | case1 unvisited =>
    rw [List.map_nil, Cycle.search, Cycle.search]
    rfl
  | case2 unvisited p outer ih =>
    rw [Cycle.search, ← ih hpath.tail, List.map_cons, visit, List.map_nil, Cycle.search]
  | case3 unvisited p child pending outer hany =>
    rw [hstep, Cycle.search_cons, if_pos hany, if_pos hany]
    rfl
  | case4 unvisited p child pending outer hnew id herror hany =>
    rw [hstep, Cycle.search_cons, if_neg hany, if_neg hany, if_pos hnew, if_pos hnew,
      hdeps _ hpath.next.1, herror]
    rfl
  | case5 unvisited p child pending outer hnew next hnext hany ih =>
    rw [hstep, Cycle.search_cons, if_neg hany, if_neg hany, if_pos hnew, if_pos hnew,
      hdeps _ hpath.next.1, hnext]
    obtain ⟨hchild, hpath⟩ := hpath.next
    exact ih (List.forall_mem_cons.2 ⟨⟨hchild, Cycle.mem_of_dependencies hnext⟩, hpath⟩)
  | case6 unvisited p child pending outer hold hany ih =>
    rw [hstep, Cycle.search_cons, if_neg hany, if_neg hany, if_neg hold, if_neg hold]
    exact ih hpath.next.2

theorem searchFrom_map (unvisited : List String) {roots : List Project}
    (hroots : ∀ p ∈ roots, p ∈ ps) :
    Cycle.searchFrom (ps.map f) unvisited (roots.map f) =
      (Cycle.searchFrom ps unvisited roots).map (Option.map (List.map f)) := by
  induction roots generalizing unvisited with
  | nil => rfl
  | cons root roots ih =>
    rw [List.forall_mem_cons] at hroots
    rw [List.map_cons, Cycle.searchFrom, Cycle.searchFrom, hf.id, hdeps _ hroots.1]
    split
    · cases hnext : Cycle.dependencies ps root with
      | error id => rfl
      | ok next =>
        have hpath : Cycle.Among ps [⟨root, next⟩] :=
          List.forall_mem_singleton.2 ⟨hroots.1, Cycle.mem_of_dependencies hnext⟩
        have hsearch := hf.search_map hdeps (unvisited.erase root.id) _ hpath
        simp only [Except.map]
        rw [List.map_singleton, visit] at hsearch
        rw [hsearch]
        cases Cycle.search ps (unvisited.erase root.id) [⟨root, next⟩] with
        | error id => rfl
        | ok found =>
          cases found with
          | inl cycle => rfl
          | inr left => exact ih _ hroots.2
    · exact ih _ hroots.2

theorem findCycle_map :
    Cycle.find? (ps.map f) = (Cycle.find? ps).map (Option.map (List.map f)) := by
  have hids : Project.ids (ps.map f) = Project.ids ps := by
    rw [Project.ids, Project.ids, List.map_map]
    congr 2
    exact funext hf.id
  rw [Cycle.find?, Cycle.find?, hids, hf.sorted_map]
  exact hf.searchFrom_map hdeps _ fun p hp => Project.mem_sorted.1 hp

end

/-! ## Taking the least ready project -/

omit hf in
/-- Where building stands, after the change. -/
def progress (f : Project → Project) (s : BuildOrder.Progress) : BuildOrder.Progress :=
  ⟨s.waiting, s.ready.map f, s.built.map f⟩

theorem start_map (ps : List Project) :
    BuildOrder.start (ps.map f) = progress f (BuildOrder.start ps) := by
  have hwaiting : ((ps.map f).map fun p => (p.id, Int.ofNat p.dependencies.length)) =
      ps.map fun p => (p.id, Int.ofNat p.dependencies.length) := by
    rw [List.map_map]
    refine List.map_congr_left fun p _ => ?_
    exact Prod.ext (hf.id p) (congrArg Int.ofNat (hf.dependencies p).length_eq)
  rw [BuildOrder.start, BuildOrder.start, hwaiting, progress, List.filter_map]
  simp only [Function.comp_def, hf.id, List.map_nil]

theorem release_map (s : BuildOrder.Progress) (p : Project) :
    BuildOrder.release (progress f s) (f p) = progress f (BuildOrder.release s p) := by
  simp only [BuildOrder.release, progress, hf.id]
  split
  · rw [List.map_append, List.map_singleton]
  · rfl

theorem foldl_release_map (s : BuildOrder.Progress) (qs : List Project) :
    (qs.map f).foldl BuildOrder.release (progress f s) =
      progress f (qs.foldl BuildOrder.release s) := by
  induction qs generalizing s with
  | nil => rfl
  | cons q qs ih => rw [List.map_cons, List.foldl_cons, hf.release_map, ih, List.foldl_cons]

theorem readyKey_eq (p : Project) : (f p).readyKey = p.readyKey := by
  rw [Project.readyKey, Project.readyKey, Project.sortKey, Project.sortKey, hf.id, hf.name,
    hf.index]

theorem least_map (first : Project) (rest : List Project) :
    BuildOrder.least (f first) (rest.map f) = f (BuildOrder.least first rest) := by
  rw [BuildOrder.least, BuildOrder.least, List.foldl_map]
  refine List.foldl_hom f fun p q => ?_
  have hle : BuildOrder.readyLe (f p) (f q) = BuildOrder.readyLe p q := by
    rw [Bool.eq_iff_iff, BuildOrder.readyLe_iff, BuildOrder.readyLe_iff, hf.readyKey_eq,
      hf.readyKey_eq]
  rw [hle]
  split <;> rfl

/-- Taking the least project away leaves the same places, also where two projects become one: those
before it have other keys. -/
theorem erase_least_map (first : Project) (rest : List Project) :
    ((first :: rest).map f).erase (f (BuildOrder.least first rest)) =
      ((first :: rest).erase (BuildOrder.least first rest)).map f := by
  obtain ⟨before, after, hsplit, hbefore⟩ := BuildOrder.exists_least first rest
  generalize BuildOrder.least first rest = next at hsplit hbefore
  have hnext : next ∉ before := fun hmem => lt_irrefl _ (hbefore next hmem)
  have hmapped : f next ∉ before.map f := by
    intro hmem
    obtain ⟨q, hq, heq⟩ := List.mem_map.1 hmem
    have hlt := hbefore q hq
    rw [← hf.readyKey_eq q, heq, hf.readyKey_eq] at hlt
    exact lt_irrefl _ hlt
  rw [hsplit, List.map_append, List.map_cons, List.erase_append_right _ hmapped,
    List.erase_append_right _ hnext, List.erase_cons_head, List.erase_cons_head, List.map_append]

theorem buildNext_map (ps : List Project) {s : BuildOrder.Progress} {first : Project}
    {rest : List Project} (hready : s.ready = first :: rest) :
    BuildOrder.buildNext (ps.map f) (progress f s) (f first) (rest.map f) =
      progress f (BuildOrder.buildNext ps s first rest) := by
  have herase : (progress f s).ready.erase (f (BuildOrder.least first rest)) =
      (s.ready.erase (BuildOrder.least first rest)).map f := by
    rw [progress, hready]
    exact hf.erase_least_map first rest
  rw [BuildOrder.buildNext, BuildOrder.buildNext, hf.least_map]
  generalize BuildOrder.least first rest = next at herase
  have hproject : (Project.withId? (ps.map f) next.id).getD (f next) =
      f ((Project.withId? ps next.id).getD next) := by
    rw [hf.withId?_map]
    cases Project.withId? ps next.id <;> rfl
  have hdependents : (ps.map f).filter (fun p => next.id ∈ p.dependencies) =
      (ps.filter fun p => next.id ∈ p.dependencies).map f := by
    rw [List.filter_map]
    congr 2
    funext p
    exact decide_eq_decide.2 hf.mem_dependencies
  simp only [hf.id, hproject, hdependents, herase]
  rw [← hf.foldl_release_map]
  rfl

theorem buildAll_map (ps : List Project) (limit : ℕ) (s : BuildOrder.Progress) :
    BuildOrder.buildAll (ps.map f) limit (progress f s) =
      (BuildOrder.buildAll ps limit s).map f := by
  induction limit generalizing s with
  | zero => exact List.map_reverse.symm
  | succ limit ih =>
    have hready' : (progress f s).ready = s.ready.map f := rfl
    rw [BuildOrder.buildAll, BuildOrder.buildAll, hready']
    cases hready : s.ready with
    | nil => exact List.map_reverse.symm
    | cons first rest =>
      rw [List.map_cons]
      dsimp only
      rw [hf.buildNext_map ps hready]
      exact ih _

theorem arrange_map (ps : List Project) :
    BuildOrder.arrange (ps.map f) = (BuildOrder.arrange ps).map f := by
  rw [BuildOrder.arrange, BuildOrder.arrange, List.length_map, hf.start_map]
  exact hf.buildAll_map ps _ _

/-! ## Build orders -/

/-- Ordering projects does not see the change, if looking up dependencies does not. -/
theorem ofProjects_map (hdeps : BuildOrder.unresolved? ps = none → ∀ p ∈ ps,
      Cycle.dependencies (ps.map f) (f p) = (Cycle.dependencies ps p).map (List.map f)) :
    BuildOrder.ofProjects (ps.map f) =
      (BuildOrder.ofProjects ps).map fun o => ⟨o.projects.map f⟩ := by
  rw [BuildOrder.ofProjects, BuildOrder.ofProjects, hf.unresolved?_map]
  cases hunresolved : BuildOrder.unresolved? ps with
  | some found =>
    simp only [Option.map_some, hf.name]
    rfl
  | none =>
    rw [hf.findCycle_map (hdeps hunresolved), hf.arrange_map]
    cases Cycle.find? ps with
    | error id => rfl
    | ok found =>
      cases found with
      | none => rfl
      | some cycle =>
        have hnames : (cycle.map f).map (·.name) = cycle.map (·.name) := by
          rw [List.map_map]
          exact List.map_congr_left fun p _ => hf.name p
        show Except.error _ = Except.error _
        rw [hnames]

/-- Where the dependencies stay in order, they are looked up in the same order. -/
theorem cycleDependencies_map (hsame : ∀ p, (f p).dependencies = p.dependencies) (p : Project) :
    Cycle.dependencies (ps.map f) (f p) = (Cycle.dependencies ps p).map (List.map f) := by
  rw [Cycle.dependencies, Cycle.dependencies, hsame, funext (hf.resolve_map ps), mapM_map_right]
  cases p.dependencies.mapM (Cycle.resolve ps) with
  | error id => rfl
  | ok found => exact congrArg Except.ok (hf.sorted_map found)

end Recast

end SolutionScript
