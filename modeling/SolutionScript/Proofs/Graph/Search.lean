import SolutionScript.Proofs.Fallible
import SolutionScript.Proofs.Graph.Dependence

/-!
# The search for cycles

What holds at every step of the search, where identifiers differ from project
to project and every dependency belongs to one of them (`Trail`): no project
left behind reaches a cycle, and of the dependencies of a project on the path
those before the one that the path goes on with reach none. So a search that
comes to its end has seen no cycle, and one that finds a cycle has walked from
the first project that reaches one (`find?_spec`).
-/

namespace SolutionScript.Cycle

open Fallible

variable {ps : List Project}

theorem resolve_eq_ok_iff {id : String} {q : Project} :
    resolve ps id = .ok q ↔ Project.withId? ps id = some q := by
  rw [resolve]
  cases Project.withId? ps id <;> simp

theorem resolve_eq_ok (hid : (ps.map (·.id)).Nodup) {id : String} {q : Project} :
    resolve ps id = .ok q ↔ q ∈ ps ∧ q.id = id :=
  resolve_eq_ok_iff.trans (Project.withId?_eq_some hid)

theorem exists_mapM_resolve_eq_ok (hres : Resolved ps) {p : Project} (hp : p ∈ ps) :
    ∃ found, p.dependencies.mapM (resolve ps) = .ok found := by
  refine exists_mapM_eq_ok fun id hid => ?_
  obtain ⟨q, hq, hqid⟩ := hres p hp id hid
  obtain ⟨r, hr⟩ := Option.ne_none_iff_exists'.1 fun hnone =>
    Project.withId?_eq_none.1 hnone q hq hqid
  exact ⟨r, resolve_eq_ok_iff.2 hr⟩

/-- The dependencies of a project are found and sorted. -/
theorem dependencies_eq_ok (hid : (ps.map (·.id)).Nodup) (hres : Resolved ps) {p : Project}
    (hp : p ∈ ps) :
    ∃ ds, dependencies ps p = .ok ds ∧ ds.Pairwise (fun q r => q.sortKey ≤ r.sortKey) ∧
      ∀ q, q ∈ ds ↔ DependsOn ps p q := by
  obtain ⟨found, hfound⟩ := exists_mapM_resolve_eq_ok hres hp
  refine ⟨Project.sorted found, map_eq_ok.2 ⟨found, hfound, rfl⟩, Project.pairwise_sorted _, ?_⟩
  intro q
  rw [Project.mem_sorted, mem_iff_of_mapM_eq_ok hfound]
  constructor
  · rintro ⟨id, h, hq⟩
    obtain ⟨hmem, rfl⟩ := (resolve_eq_ok hid).1 hq
    exact ⟨hp, hmem, h⟩
  · rintro ⟨-, hq, h⟩
    exact ⟨q.id, h, (resolve_eq_ok hid).2 ⟨hq, rfl⟩⟩

/-! ## Paths -/

/-- A project depends on another one, and no dependency with a lesser key reaches a
cycle. -/
def Leads (ps : List Project) (p q : Project) : Prop :=
  DependsOn ps p q ∧ ∀ r, DependsOn ps p r → ReachesCycle ps r → q.sortKey ≤ r.sortKey

/-- The dependencies of a project end with some projects, and those before reach
no cycle. -/
def Ahead (ps : List Project) (p : Project) (ahead : List Project) : Prop :=
  ∃ behind, dependencies ps p = .ok (behind ++ ahead) ∧ ∀ q ∈ behind, ¬ ReachesCycle ps q

/-- Of the dependencies of each project on a path there are ahead: the project
that the path goes on with, and those that are still to be looked at. `next` is
what the whole path goes on with. -/
def Walked (ps : List Project) : List Project → List Visit → Prop
  | _, [] => True
  | next, v :: outer => Ahead ps v.project (next ++ v.pending) ∧ Walked ps [v.project] outer

/-- The projects on a path, the last one first. -/
def onPath (path : List Visit) : List Project := path.map (·.project)

/-- What holds at every step of the search. -/
structure Trail (ps : List Project) (unvisited : List String) (path : List Visit) : Prop where
  mem : ∀ p ∈ onPath path, p ∈ ps
  visited : ∀ p ∈ onPath path, p.id ∉ unvisited
  nodup : (onPath path).Nodup
  unvisited_nodup : unvisited.Nodup
  walked : Walked ps [] path
  /-- A project that was reached and is not on the path any more was left behind. -/
  left : ∀ p ∈ ps, p.id ∉ unvisited → p ∉ onPath path → ¬ ReachesCycle ps p

section

variable (hid : (ps.map (·.id)).Nodup) (hres : Resolved ps)
include hid hres

theorem Ahead.leads {p q : Project} {rest : List Project} (hp : p ∈ ps)
    (h : Ahead ps p (q :: rest)) : Leads ps p q := by
  obtain ⟨behind, hok, hbehind⟩ := h
  obtain ⟨ds, hds, hsorted, hmem⟩ := dependencies_eq_ok hid hres hp
  cases hok.symm.trans hds
  refine ⟨(hmem q).1 (by simp), fun r hpr hr => ?_⟩
  rcases List.mem_append.1 ((hmem r).2 hpr) with hrb | hrq
  · exact absurd hr (hbehind r hrb)
  · rcases List.mem_cons.1 hrq with rfl | hrq
    · exact le_rfl
    · exact (List.pairwise_cons.1 (List.pairwise_append.1 hsorted).2.1).1 r hrq

/-- A project whose dependencies are all behind reaches no cycle. -/
theorem Ahead.not_reachesCycle {p : Project} (hp : p ∈ ps) (h : Ahead ps p []) :
    ¬ ReachesCycle ps p := by
  obtain ⟨behind, hok, hbehind⟩ := h
  obtain ⟨ds, hds, -, hmem⟩ := dependencies_eq_ok hid hres hp
  cases hok.symm.trans hds
  intro hcycle
  obtain ⟨q, hpq, hq⟩ := reachesCycle_iff.1 hcycle
  exact hbehind q (by simpa using (hmem q).2 hpq) hq

omit hid hres in
/-- Leaving a dependency behind that reaches no cycle. -/
theorem Ahead.pass {p q : Project} {rest : List Project} (h : Ahead ps p (q :: rest))
    (hq : ¬ ReachesCycle ps q) : Ahead ps p rest := by
  obtain ⟨behind, hok, hbehind⟩ := h
  refine ⟨behind ++ [q], by simpa using hok, fun r hr => ?_⟩
  rcases List.mem_append.1 hr with hr | hr
  · exact hbehind r hr
  · exact List.mem_singleton.1 hr ▸ hq

/-- Going back from a project all of whose dependencies are behind. -/
theorem Trail.pop {unvisited : List String} {p : Project} {outer : List Visit}
    (h : Trail ps unvisited (⟨p, []⟩ :: outer)) : Trail ps unvisited outer := by
  have hp : ¬ ReachesCycle ps p :=
    Ahead.not_reachesCycle hid hres (h.mem p (by simp [onPath])) h.walked.1
  refine ⟨fun q hq => h.mem q (List.mem_cons_of_mem _ hq),
    fun q hq => h.visited q (List.mem_cons_of_mem _ hq), (List.nodup_cons.1 h.nodup).2,
    h.unvisited_nodup, ?_, fun q hq hv hout => ?_⟩
  · cases outer with
    | nil => trivial
    | cons v outer => exact ⟨h.walked.2.1.pass hp, h.walked.2.2⟩
  · by_cases hqp : q = p
    · exact hqp ▸ hp
    · exact h.left q hq hv fun hc => (List.mem_cons.1 hc).elim hqp hout

omit hid hres in
/-- Leaving out a dependency that was left behind before. -/
theorem Trail.skip {unvisited : List String} {p child : Project} {pending : List Project}
    {outer : List Visit} (h : Trail ps unvisited (⟨p, child :: pending⟩ :: outer))
    (hchild : ¬ ReachesCycle ps child) : Trail ps unvisited (⟨p, pending⟩ :: outer) :=
  ⟨h.mem, h.visited, h.nodup, h.unvisited_nodup, ⟨h.walked.1.pass hchild, h.walked.2⟩, h.left⟩

omit hres in
/-- Going on with a project that was not reached before. -/
theorem Trail.push {unvisited : List String} {p child : Project} {pending next : List Project}
    {outer : List Visit} (h : Trail ps unvisited (⟨p, child :: pending⟩ :: outer))
    (hmem : child ∈ ps) (hnew : child.id ∈ unvisited) (hnext : dependencies ps child = .ok next) :
    Trail ps (unvisited.erase child.id) (⟨child, next⟩ :: ⟨p, pending⟩ :: outer) := by
  have hpath : child ∉ onPath (⟨p, pending⟩ :: outer) := fun hc => h.visited child hc hnew
  have herase {id : String} : id ∈ unvisited.erase child.id ↔ id ≠ child.id ∧ id ∈ unvisited :=
    h.unvisited_nodup.mem_erase_iff
  refine ⟨?_, ?_, List.nodup_cons.2 ⟨hpath, h.nodup⟩, h.unvisited_nodup.erase _, ?_, ?_⟩
  · intro q hq
    rcases List.mem_cons.1 hq with rfl | hq
    · exact hmem
    · exact h.mem q hq
  · intro q hq
    rw [herase]
    rcases List.mem_cons.1 hq with rfl | hq
    · exact fun hc => hc.1 rfl
    · exact fun hc => h.visited q hq hc.2
  · exact ⟨⟨[], hnext, by simp⟩, h.walked⟩
  · intro q hq hv hout
    have hout : q ≠ child ∧ q ∉ onPath (⟨p, pending⟩ :: outer) :=
      ⟨fun hc => hout (by simp [onPath, hc]), fun hc => hout (List.mem_cons_of_mem _ hc)⟩
    refine h.left q hq (fun hc => hv (herase.2 ⟨fun hqc => hout.1 ?_, hc⟩)) hout.2
    exact List.inj_on_of_nodup_map hid hq hmem hqc

theorem Trail.child_mem {unvisited : List String} {p child : Project} {pending : List Project}
    {outer : List Visit} (h : Trail ps unvisited (⟨p, child :: pending⟩ :: outer)) : child ∈ ps :=
  (h.walked.1.leads hid hres (h.mem p (by simp [onPath]))).1.2.1

/-- The search has found a cycle: it has walked from a root to a project that
is on the path already. -/
def Finds (ps : List Project) (root : Project) (c : List Project) : Prop :=
  ∃ unvisited p child pending outer, Trail ps unvisited (⟨p, child :: pending⟩ :: outer) ∧
    child ∈ p :: onPath outer ∧ (p :: onPath outer).getLast? = some root ∧
    c = closing (⟨p, child :: pending⟩ :: outer) child.id

/-- The search from a path either leaves all projects on it behind, or finds a
cycle. -/
theorem search_spec {unvisited : List String} {path : List Visit} (h : Trail ps unvisited path) :
    (∃ rest, search ps unvisited path = .ok (.inr rest) ∧ Trail ps rest [] ∧ rest ⊆ unvisited) ∨
    ∃ root c, (onPath path).getLast? = some root ∧ search ps unvisited path = .ok (.inl c) ∧
      Finds ps root c := by
  fun_induction search ps unvisited path with
  | case1 unvisited => exact .inl ⟨unvisited, rfl, h, fun _ hx => hx⟩
  | case2 unvisited p outer ih =>
    rcases ih (h.pop hid hres) with hend | ⟨root, c, hroot, hc⟩
    · exact .inl hend
    · refine .inr ⟨root, c, ?_, hc⟩
      simp only [onPath, List.map_cons, List.getLast?_cons] at hroot ⊢
      simp [hroot]
  | case3 unvisited p child pending outer hon =>
    rw [if_pos hon]
    refine .inr ⟨(p :: onPath outer).getLast (by simp), _, List.getLast?_eq_some_getLast _, rfl,
      unvisited, p, child, pending, outer, h, ?_, List.getLast?_eq_some_getLast _, rfl⟩
    obtain ⟨v, hv, hvc⟩ := List.any_eq_true.1 hon
    have hvp : v.project ∈ onPath (⟨p, child :: pending⟩ :: outer) := List.mem_map_of_mem hv
    have heq : v.project = child := List.inj_on_of_nodup_map hid (h.mem _ hvp)
      (h.child_mem hid hres) (by simpa using hvc)
    exact heq ▸ hvp
  | case4 unvisited p child pending outer hnew id hnext hon =>
    obtain ⟨ds, hds, -⟩ := dependencies_eq_ok hid hres (h.child_mem hid hres)
    cases hnext.symm.trans hds
  | case5 unvisited p child pending outer hnew next hnext hon ih =>
    rw [if_neg hon, dif_pos hnew]
    simp only [hnext]
    rcases ih (h.push hid (h.child_mem hid hres) hnew hnext) with
      ⟨rest, hrest, htrail, hsub⟩ | ⟨root, c, hroot, hc⟩
    · exact .inl ⟨rest, hrest, htrail, fun x hx => List.mem_of_mem_erase (hsub hx)⟩
    · exact .inr ⟨root, c, by simpa [onPath, List.getLast?_cons] using hroot, hc⟩
  | case6 unvisited p child pending outer hnew hon ih =>
    rw [if_neg hon, dif_neg hnew]
    have hleft : ¬ ReachesCycle ps child := by
      refine h.left child (h.child_mem hid hres) hnew fun hc => hon ?_
      obtain ⟨v, hv, hvc⟩ := List.mem_map.1 hc
      exact List.any_eq_true.2 ⟨v, hv, by simpa using congrArg Project.id hvc⟩
    exact ih (h.skip hleft)

omit hres in
/-- The first project on the path is where the search starts. -/
theorem Trail.start {unvisited : List String} {root : Project} {next : List Project}
    (h : Trail ps unvisited []) (hroot : root ∈ ps)
    (hnext : dependencies ps root = .ok next) :
    Trail ps (unvisited.erase root.id) [⟨root, next⟩] := by
  have herase {id : String} : id ∈ unvisited.erase root.id ↔ id ≠ root.id ∧ id ∈ unvisited :=
    h.unvisited_nodup.mem_erase_iff
  refine ⟨by simpa [onPath] using hroot, by simp [onPath, herase], by simp [onPath],
    h.unvisited_nodup.erase _, ⟨⟨[], hnext, by simp⟩, trivial⟩, fun q hq hv hout => ?_⟩
  refine h.left q hq (fun hc => hv (herase.2 ⟨fun hqr => ?_, hc⟩)) (by simp [onPath])
  exact hout (by simp [onPath, List.inj_on_of_nodup_map hid hq hroot hqr])

/-! ## Paths that close -/

omit hid hres in
/-- Every project of a chain that ends with a project that reaches a cycle reaches
one. -/
theorem reachesCycle_of_isChain {b : Project} (hb : ReachesCycle ps b) :
    ∀ {l : List Project}, (l ++ [b]).IsChain (DependsOn ps) → ∀ p ∈ l ++ [b], ReachesCycle ps p
  | [], _ => by simpa using hb
  | a :: l, h => by
    rw [List.cons_append, List.isChain_cons] at h
    have ih := reachesCycle_of_isChain hb h.2
    refine List.forall_mem_cons.2 ⟨?_, ih⟩
    obtain ⟨q, hq⟩ := Option.isSome_iff_exists.1 (show (l ++ [b]).head?.isSome by simp)
    exact (ih q (List.mem_of_mem_head? hq)).of_dependsOn (h.1 q hq)

/-- Of the projects on a path, the first one first, and the one that the path goes
on with, each leads to the next. -/
theorem Walked.isChain {b : Project} :
    ∀ {path : List Visit}, Walked ps [b] path → (∀ p ∈ onPath path, p ∈ ps) →
      ((onPath path).reverse ++ [b]).IsChain (Leads ps)
  | [], _, _ => by simp [onPath]
  | v :: outer, h, hmem => by
    have hv : v.project ∈ ps := hmem v.project (by simp [onPath])
    have hrest := Walked.isChain h.2 fun p hp => hmem p (List.mem_cons_of_mem _ hp)
    rw [show (onPath (v :: outer)).reverse = (onPath outer).reverse ++ [v.project] by
      simp [onPath]]
    refine hrest.append (List.isChain_singleton b) fun p hp q hq => ?_
    obtain rfl : v.project = p := by simpa using hp
    obtain rfl : b = q := by simpa using hq
    exact Ahead.leads hid hres hv h.1

/-- What the search finds is the end of a chain of different projects that starts
at the root and comes back to the first project of that end. -/
theorem Finds.exists_chain {root : Project} {c : List Project} (h : Finds ps root c) :
    ∃ before child rest, c = child :: rest ∧ (before ++ c).Nodup ∧
      (before ++ c).head? = some root ∧ (before ++ c ++ [child]).IsChain (Leads ps) := by
  obtain ⟨unvisited, p, child, pending, outer, htrail, hchild, hroot, rfl⟩ := h
  have hsplit := List.append_of_mem (List.mem_reverse.2 hchild)
  obtain ⟨before, rest, hsplit⟩ := hsplit
  have hnodup : (before ++ child :: rest).Nodup :=
    hsplit ▸ List.nodup_reverse.2 htrail.nodup
  have hmem : ∀ q ∈ before ++ child :: rest, q ∈ ps := by
    intro q hq
    exact htrail.mem q (List.mem_reverse.1 (hsplit ▸ hq))
  have hclosing : closing (⟨p, child :: pending⟩ :: outer) child.id = child :: rest := by
    rw [closing, List.map_reverse, show List.map _ (_ :: outer) = p :: onPath outer from rfl,
      hsplit, List.dropWhile_append_of_pos, List.dropWhile_cons_of_neg (by simp)]
    intro q hq
    have hne : q ≠ child := (List.nodup_append.1 hnodup).2.2 q hq child (by simp)
    have hne : q.id ≠ child.id := fun hc => hne
      (List.inj_on_of_nodup_map hid (hmem q (by simp [hq])) (hmem child (by simp)) hc)
    simpa using hne
  refine ⟨before, child, rest, hclosing, ?_, ?_, ?_⟩
  · rw [hclosing]; exact hnodup
  · rw [hclosing, ← hsplit, List.head?_reverse]; exact hroot
  · rw [hclosing, ← hsplit]
    have hwalked : Walked ps [child] (⟨p, pending⟩ :: outer) := htrail.walked
    exact hwalked.isChain hid hres htrail.mem

/-- What the search finds is a cycle. -/
theorem Finds.isCycle {root : Project} {c : List Project} (h : Finds ps root c) : IsCycle ps c := by
  obtain ⟨before, child, rest, rfl, hnodup, -, hchain⟩ := h.exists_chain hid hres
  refine ⟨by simp, (List.nodup_append.1 hnodup).2.1, ?_⟩
  rw [List.append_assoc] at hchain
  exact hchain.right_of_append.imp fun _ _ h => h.1

/-- Every project on the way to what the search finds reaches a cycle. -/
theorem Finds.reachesCycle {root : Project} {c : List Project} (h : Finds ps root c) :
    ReachesCycle ps root := by
  have hcycle := h.isCycle hid hres
  obtain ⟨before, child, rest, rfl, -, hroot, hchain⟩ := h.exists_chain hid hres
  have hchild : ReachesCycle ps child :=
    ⟨child, .refl, transGen_of_isChain (by simpa using hcycle.chain)⟩
  refine reachesCycle_of_isChain hchild (hchain.imp fun _ _ h => h.1) root ?_
  exact List.mem_append_left _ (List.mem_of_mem_head? hroot)

/-! ## Roots -/

/-- The search from some roots, one after the other, leaves all of them behind or
finds a cycle from the first that was not left behind. -/
theorem searchFrom_spec {unvisited : List String} {roots : List Project}
    (h : Trail ps unvisited []) (hroots : ∀ p ∈ roots, p ∈ ps) :
    (searchFrom ps unvisited roots = .ok none ∧ ∀ p ∈ roots, ¬ ReachesCycle ps p) ∨
    ∃ before root after c, roots = before ++ root :: after ∧ (∀ p ∈ before, ¬ ReachesCycle ps p) ∧
      searchFrom ps unvisited roots = .ok (some c) ∧ Finds ps root c := by
  induction roots generalizing unvisited with
  | nil => exact .inl ⟨rfl, by simp⟩
  | cons root roots ih =>
    have hroot : root ∈ ps := hroots root (by simp)
    have hroots : ∀ p ∈ roots, p ∈ ps := fun p hp => hroots p (by simp [hp])
    -- Once a root is left behind, the rest of the search is that from the other roots.
    have go {rest : List String} (hrest : Trail ps rest []) (hleft : ¬ ReachesCycle ps root)
        (hsearch : searchFrom ps unvisited (root :: roots) = searchFrom ps rest roots) :
        (searchFrom ps unvisited (root :: roots) = .ok none ∧
          ∀ p ∈ root :: roots, ¬ ReachesCycle ps p) ∨
        ∃ before r after c, root :: roots = before ++ r :: after ∧
          (∀ p ∈ before, ¬ ReachesCycle ps p) ∧
          searchFrom ps unvisited (root :: roots) = .ok (some c) ∧ Finds ps r c := by
      rw [hsearch]
      rcases ih hrest hroots with ⟨hnone, hall⟩ | ⟨before, r, after, c, rfl, hbefore, hc⟩
      · exact .inl ⟨hnone, List.forall_mem_cons.2 ⟨hleft, hall⟩⟩
      · exact .inr ⟨root :: before, r, after, c, rfl, List.forall_mem_cons.2 ⟨hleft, hbefore⟩, hc⟩
    by_cases hnew : root.id ∈ unvisited
    · obtain ⟨next, hnext, -⟩ := dependencies_eq_ok hid hres hroot
      rcases search_spec hid hres (h.start hid hroot hnext) with
        ⟨rest, hrest, htrail, hsub⟩ | ⟨root', c, hroot', hc, hfinds⟩
      · refine go htrail (htrail.left root hroot (fun hc => ?_) (by simp [onPath])) ?_
        · exact (h.unvisited_nodup.mem_erase_iff.1 (hsub hc)).1 rfl
        · rw [searchFrom, if_pos hnew, hnext]
          simp only [hrest]
      · refine .inr ⟨[], root, roots, c, rfl, by simp, ?_, ?_⟩
        · rw [searchFrom, if_pos hnew, hnext]
          simp only [hc]
        · simp only [onPath, List.map_cons, List.map_nil, List.getLast?_singleton,
            Option.some.injEq] at hroot'
          exact hroot' ▸ hfinds
    · refine go h (h.left root hroot hnew (by simp [onPath])) ?_
      rw [searchFrom, if_neg hnew]

/-- The whole search finds no cycle where no project reaches one, and otherwise
walks from the first project that does. -/
theorem find?_spec :
    (find? ps = .ok none ∧ ∀ p ∈ ps, ¬ ReachesCycle ps p) ∨
    ∃ root c, find? ps = .ok (some c) ∧ IsFirst (ReachesCycle ps) root ∧ Finds ps root c := by
  have hstart : Trail ps (Project.ids ps) [] :=
    ⟨by simp [onPath], by simp [onPath], by simp [onPath], nodup_eraseDups _, trivial,
      fun p hp hv => absurd (by simpa [Project.ids] using ⟨p, hp, rfl⟩) hv⟩
  rcases searchFrom_spec hid hres hstart (fun p hp => Project.mem_sorted.1 hp) with
    ⟨hnone, hall⟩ | ⟨before, root, after, c, hsplit, hbefore, hc, hfinds⟩
  · exact .inl ⟨hnone, fun p hp => hall p (Project.mem_sorted.2 hp)⟩
  · exact .inr ⟨root, c, hc, .of_sorted (fun _ => ReachesCycle.mem) hsplit
      (hfinds.reachesCycle hid hres) hbefore, hfinds⟩

end

end SolutionScript.Cycle
