import Mathlib.Data.List.Permutation
import SolutionScript.Proofs.Graph.Search
import SolutionScript.Proofs.Keyed

/-!
# The search for cycles, turn by turn

The search as two loops that share what they change: the projects at which to start, a stack of
projects with dependencies to be looked at, the path with the place of each project on it, and the
projects that are done (`State`). One turn of a loop puts a project on the stack, takes one off,
passes one over or ends the search (`turn`). Identifiers may belong to several projects here.

What a turn keeps (`Kept.turn`) is kept by a run (`Reached.kept`). The search that is defined by
recursion goes through the same turns (`search_leaves`), so a run comes to an end, and it ends with
the same result (`Reached.ends`).
-/

namespace SolutionScript.Cycle

open Fallible Relation

variable {ps pushed popped : List Project}

/-! ## Turns -/

/-- Where the search stands. -/
structure State where
  /-- The projects at which the search has still to start. -/
  roots : List Project
  /-- The projects that have been put on the stack, the last one first. -/
  stack : List Visit := []
  /-- The projects on the path, the first one first. -/
  path : List Project := []
  /-- The places of the projects on the path. -/
  onPath : Keyed Nat := []
  /-- The projects that have been taken off the stack. -/
  done : List String := []

/-- Before anything is looked at. -/
def start (ps : List Project) : State where
  roots := Project.sorted ps

/-- Puts a project on the stack, and on the path at a place. -/
def State.push (s : State) (p : Project) (next : List Project) (place : Nat) : State :=
  { s with
    stack := ⟨p, next⟩ :: s.stack
    path := s.path ++ [p]
    onPath := s.onPath.put p.id place }

/-- Takes the last project off the stack and off the path. -/
def State.pop (s : State) (p : Project) (outer : List Visit) : State :=
  { s with
    stack := outer
    path := s.path.dropLast
    onPath := s.onPath.remove p.id
    done := p.id :: s.done }

/-- What one turn of the search does. -/
inductive Turn where
  | pushes (p : Project) (next : State)
  | pops (p : Project) (next : State)
  | passes (next : State)
  | ends (result : Except String (Option (List Project)))

/-- The state after a turn, unless the search ends. -/
def Turn.next? : Turn → Option State
  | .pushes _ next | .pops _ next | .passes next => some next
  | .ends _ => none

/-- Puts a project on the stack, with its dependencies to be looked at, unless it is done. -/
def visit (ps : List Project) (p : Project) (s : State) (place : Nat) : Turn :=
  if p.id ∈ s.done then .passes s
  else
    match dependencies ps p with
    | .error id => .ends (.error id)
    | .ok next => .pushes p (s.push p next place)

/-- One turn: of the inner loop, or of the outer one where the stack is empty. -/
def turn (ps : List Project) (s : State) : Turn :=
  match s.stack with
  | [] =>
    match s.roots with
    | [] => .ends (.ok none)
    | root :: roots => visit ps root { s with roots } 0
  | ⟨p, []⟩ :: outer => .pops p (s.pop p outer)
  | ⟨p, child :: pending⟩ :: outer =>
    match s.onPath.get? child.id with
    | some place => .ends (.ok (some (s.path.drop place)))
    | none => visit ps child { s with stack := ⟨p, pending⟩ :: outer } s.path.length

section

variable {s : State} {p : Project} {place : Nat}

theorem visit_of_done (h : p.id ∈ s.done) : visit ps p s place = .passes s := if_pos h

theorem visit_of_ok {next : List Project} (h : p.id ∉ s.done)
    (hnext : dependencies ps p = .ok next) :
    visit ps p s place = .pushes p (s.push p next place) := by
  rw [visit, if_neg h, hnext]

theorem visit_of_error {id : String} (h : p.id ∉ s.done) (hnext : dependencies ps p = .error id) :
    visit ps p s place = .ends (.error id) := by
  rw [visit, if_neg h, hnext]

end

/-- A turn leads from one state to another. -/
def LeadsTo (ps : List Project) (s next : State) : Prop := (turn ps s).next? = some next

/-- A state that turns lead to from the start, with the projects that have been put on the stack
and those that have been taken off it, the last ones first. -/
inductive Reached (ps : List Project) : List Project → List Project → State → Prop
  | start : Reached ps [] [] (start ps)
  | push {pushed popped : List Project} {s next : State} {p : Project} :
      Reached ps pushed popped s → turn ps s = .pushes p next →
        Reached ps (p :: pushed) popped next
  | pop {pushed popped : List Project} {s next : State} {p : Project} :
      Reached ps pushed popped s → turn ps s = .pops p next →
        Reached ps pushed (p :: popped) next
  | pass {pushed popped : List Project} {s next : State} :
      Reached ps pushed popped s → turn ps s = .passes next → Reached ps pushed popped next

/-! ## Dependencies -/

/-- A project has a dependency, which stands for another one. -/
def HasDependency (ps : List Project) (p q : Project) : Prop :=
  q.id ∈ p.dependencies ∧ Project.withId? ps q.id = some q

theorem HasDependency.mem {p q : Project} (h : HasDependency ps p q) : q ∈ ps := by
  simpa using List.mem_of_find?_eq_some h.2

/-- Some projects are dependencies of a project, and any other dependency of it is done. -/
structure Covers (ps : List Project) (done : List String) (p : Project) (ahead : List Project) :
    Prop where
  hasDependency : ∀ q ∈ ahead, HasDependency ps p q
  done_or_ahead : ∀ id ∈ p.dependencies, id ∈ done ∨ id ∈ ahead.map (·.id)

theorem covers_of_dependencies {p : Project} {next : List Project} (done : List String)
    (h : dependencies ps p = .ok next) : Covers ps done p next := by
  obtain ⟨found, hfound, rfl⟩ := map_eq_ok.1 h
  have hid {id : String} {q : Project} (hq : resolve ps id = .ok q) : q.id = id := by
    simpa using List.find?_some (resolve_eq_ok_iff.1 hq)
  constructor
  · intro q hq
    obtain ⟨id, hmem, hq⟩ := (mem_iff_of_mapM_eq_ok hfound).1 (Project.mem_sorted.1 hq)
    obtain rfl := hid hq
    exact ⟨hmem, resolve_eq_ok_iff.1 hq⟩
  · intro id hmem
    obtain ⟨q, hq, hres⟩ := exists_of_mapM_eq_ok hfound hmem
    exact .inr (List.mem_map.2 ⟨q, Project.mem_sorted.2 hq, hid hres⟩)

section

variable {done done' : List String} {p q : Project} {ahead : List Project} {next? : Option Project}
  {stack : List Visit}

theorem Covers.mono (h : Covers ps done p ahead) (hsub : done ⊆ done') : Covers ps done' p ahead :=
  ⟨h.hasDependency, fun id hid => (h.done_or_ahead id hid).imp_left (@hsub id)⟩

/-- A dependency that is done does not have to be looked at. -/
theorem Covers.pass (h : Covers ps done p (q :: ahead)) (hq : q.id ∈ done) :
    Covers ps done p ahead := by
  refine ⟨fun r hr => h.hasDependency r (List.mem_cons_of_mem _ hr), fun id hid => ?_⟩
  rcases h.done_or_ahead id hid with hdone | hahead
  · exact .inl hdone
  · rcases List.mem_cons.1 hahead with rfl | hahead
    · exact .inl hq
    · exact .inr hahead

/-- Of the dependencies of each project on the stack, what is not done is: the project that the
stack goes on with, and those that are still to be looked at. `next?` is what the whole stack goes
on with. -/
def Covered (ps : List Project) (done : List String) : Option Project → List Visit → Prop
  | _, [] => True
  | next?, v :: outer =>
    Covers ps done v.project (next?.toList ++ v.pending) ∧ Covered ps done (some v.project) outer

theorem Covered.mono (h : Covered ps done next? stack) (hsub : done ⊆ done') :
    Covered ps done' next? stack := by
  induction stack generalizing next? with
  | nil => trivial
  | cons v outer ih => exact ⟨h.1.mono hsub, ih h.2⟩

theorem Covered.pass (h : Covered ps done (some p) stack) (hp : p.id ∈ done) :
    Covered ps done none stack := by
  cases stack with
  | nil => trivial
  | cons v outer => exact ⟨h.1.pass hp, h.2⟩

/-- Each project on the stack is a dependency of the one that was put there before it. -/
theorem Covered.isChain (h : Covered ps done next? stack) :
    ((stack.map (·.project)).reverse ++ next?.toList).IsChain (HasDependency ps) := by
  have hnext (next? : Option Project) : next?.toList.IsChain (HasDependency ps) := by
    cases next? <;> simp
  induction stack generalizing next? with
  | nil => exact hnext next?
  | cons v outer ih =>
    rw [List.map_cons, List.reverse_cons]
    refine (ih h.2).append (hnext next?) fun p hp q hq => ?_
    obtain rfl : v.project = p := by simpa using hp
    exact h.1.hasDependency q (List.mem_append_left _ (List.mem_of_mem_head? hq))

end

/-! ## Places -/

section

variable {path : List Project} {places : Keyed Nat} {p : Project} {id : String} {i : Nat}

/-- Each project on a path has its position under its identifier, and there is nothing else. -/
def Placed (path : List Project) (places : Keyed Nat) : Prop :=
  ∀ id i, places.get? id = some i ↔ (path.map (·.id))[i]? = some id

theorem Placed.get?_eq_none (h : Placed path places) :
    places.get? id = none ↔ id ∉ path.map (·.id) := by
  simp only [Option.eq_none_iff_forall_ne_some, List.mem_iff_getElem?, not_exists, ne_eq, h id]

theorem getElem?_append_singleton_eq_some {ids : List String} {new : String} :
    (ids ++ [new])[i]? = some id ↔ ids[i]? = some id ∨ i = ids.length ∧ new = id := by
  rcases lt_trichotomy i ids.length with hi | rfl | hi
  · rw [List.getElem?_append_left hi]
    simp [hi.ne]
  · simp
  · rw [List.getElem?_eq_none (by simp; omega), List.getElem?_eq_none hi.le]
    simp [hi.ne']

theorem Placed.push (h : Placed path places) (hp : p.id ∉ path.map (·.id)) :
    Placed (path ++ [p]) (places.put p.id path.length) := by
  intro id i
  rw [List.map_append, List.map_singleton, getElem?_append_singleton_eq_some, List.length_map]
  by_cases hid : id = p.id
  · subst hid
    rw [Keyed.get?_put_self, ← h, h.get?_eq_none.2 hp]
    simp [eq_comm]
  · rw [Keyed.get?_put_of_ne _ _ hid, h]
    simp [Ne.symm hid]

theorem Placed.pop (h : Placed (path ++ [p]) places) : Placed path (places.remove p.id) := by
  simp only [Placed, List.map_append, List.map_singleton, getElem?_append_singleton_eq_some,
    List.length_map] at h
  intro id i
  by_cases hid : id = p.id
  · subst hid
    rw [Keyed.get?_remove_self]
    refine iff_of_false (by simp) fun hi => ?_
    -- Both positions would be found under the one identifier.
    have hlast := (h p.id path.length).2 (.inr ⟨rfl, rfl⟩)
    have hlt := (List.getElem?_eq_some_iff.1 hi).1
    rw [(h p.id i).2 (.inl hi), Option.some.injEq] at hlast
    simp [hlast] at hlt
  · rw [Keyed.get?_remove_of_ne _ hid, h]
    simp [Ne.symm hid]

/-- What is on a path from the place of a project on. -/
theorem Placed.dropWhile_eq (h : Placed path places) (hi : places.get? id = some i) :
    path.dropWhile (·.id != id) = path.drop i := by
  obtain ⟨hlt, hget⟩ := List.getElem?_eq_some_iff.1 ((h id i).1 hi)
  rw [List.length_map] at hlt
  rw [List.getElem_map] at hget
  have hbefore : ∀ p ∈ path.take i, (p.id != id) = true := by
    intro p hp
    obtain ⟨j, hj, rfl⟩ := List.mem_take_iff_getElem.1 hp
    rw [bne_iff_ne]
    intro hid
    have hplace := (h id j).2 (by simpa using ⟨_, List.getElem?_eq_getElem (by omega), hid⟩)
    rw [hi, Option.some.injEq] at hplace
    omega
  conv_lhs => rw [← List.take_append_drop i path]
  rw [List.dropWhile_append_of_pos hbefore, List.drop_eq_getElem_cons hlt,
    List.dropWhile_cons_of_neg (by simp [hget])]

end

/-! ## What is kept -/

/-- What holds between turns, after some projects have been put on the stack and some taken off it.
`next?` is a project that the search has come to, if it is in the middle of a turn. -/
structure Kept (ps pushed popped : List Project) (next? : Option Project) (s : State) : Prop where
  roots_mem : ∀ p ∈ s.roots, p ∈ ps
  stack_eq : (s.stack.map (·.project)).reverse = s.path
  placed : Placed s.path s.onPath
  covered : Covered ps s.done next? s.stack
  disjoint : ∀ id ∈ s.done, id ∉ s.path.map (·.id)
  popped_done : ∀ p ∈ popped, ∀ id ∈ p.dependencies, id ∈ s.done
  pushed_nodup : (pushed.map (·.id)).Nodup
  /-- What has been put on the stack is there, or it is done. -/
  mem_pushed : ∀ id, id ∈ pushed.map (·.id) ↔ id ∈ s.done ∨ id ∈ s.path.map (·.id)

section

variable {s : State} {p root child : Project} {roots pending next : List Project}
  {outer : List Visit}

theorem kept_start (ps : List Project) : Kept ps [] [] none (start ps) where
  roots_mem _ hp := Project.mem_sorted.1 hp
  stack_eq := rfl
  placed id i := by simp [start, Keyed.get?]
  covered := trivial
  disjoint _ hid := by cases hid
  popped_done _ hp := by cases hp
  pushed_nodup := .nil
  mem_pushed id := by simp [start]

theorem Kept.path_eq_nil {next? : Option Project} (h : Kept ps pushed popped next? s)
    (hstack : s.stack = []) : s.path = [] := by
  rw [← h.stack_eq, hstack]
  rfl

/-- Coming to a project at which to start. -/
theorem Kept.toRoot (h : Kept ps pushed popped none s) (hstack : s.stack = [])
    (hroots : s.roots = root :: roots) :
    Kept ps pushed popped (some root) { s with roots } where
  roots_mem p hp := h.roots_mem p (hroots ▸ List.mem_cons_of_mem _ hp)
  stack_eq := h.stack_eq
  placed := h.placed
  covered := by
    show Covered ps s.done (some root) s.stack
    rw [hstack]
    trivial
  disjoint := h.disjoint
  popped_done := h.popped_done
  pushed_nodup := h.pushed_nodup
  mem_pushed := h.mem_pushed

/-- Coming to the next dependency of the last project on the stack. -/
theorem Kept.toChild (h : Kept ps pushed popped none s)
    (hstack : s.stack = ⟨p, child :: pending⟩ :: outer) :
    Kept ps pushed popped (some child) { s with stack := ⟨p, pending⟩ :: outer } where
  roots_mem := h.roots_mem
  stack_eq := by simpa [hstack] using h.stack_eq
  placed := h.placed
  covered := (hstack ▸ h.covered :)
  disjoint := h.disjoint
  popped_done := h.popped_done
  pushed_nodup := h.pushed_nodup
  mem_pushed := h.mem_pushed

theorem Kept.child_mem (h : Kept ps pushed popped none s)
    (hstack : s.stack = ⟨p, child :: pending⟩ :: outer) : child ∈ ps := by
  have hcovered := h.covered
  rw [hstack] at hcovered
  exact (hcovered.1.hasDependency child List.mem_cons_self).mem

theorem Kept.pass (h : Kept ps pushed popped (some p) s) (hdone : p.id ∈ s.done) :
    Kept ps pushed popped none s :=
  { h with covered := h.covered.pass hdone }

theorem Kept.push (h : Kept ps pushed popped (some p) s) (hdone : p.id ∉ s.done)
    (hpath : p.id ∉ s.path.map (·.id)) (hnext : dependencies ps p = .ok next) :
    Kept ps (p :: pushed) popped none (s.push p next s.path.length) where
  roots_mem := h.roots_mem
  stack_eq := by simp [State.push, h.stack_eq]
  placed := h.placed.push hpath
  covered := ⟨covers_of_dependencies _ hnext, h.covered⟩
  disjoint id hid := by
    simp only [State.push, List.map_append, List.map_singleton, List.mem_append,
      List.mem_singleton, not_or]
    refine ⟨h.disjoint id hid, ?_⟩
    rintro rfl
    exact hdone hid
  popped_done := h.popped_done
  pushed_nodup := List.nodup_cons.2
    ⟨fun hmem => ((h.mem_pushed p.id).1 hmem).elim hdone hpath, h.pushed_nodup⟩
  mem_pushed id := by
    simp only [State.push, List.map_cons, List.mem_cons, h.mem_pushed, List.map_append,
      List.map_nil, List.mem_append, List.not_mem_nil, or_false]
    tauto

theorem Kept.pop (h : Kept ps pushed popped none s) (hstack : s.stack = ⟨p, []⟩ :: outer) :
    Kept ps pushed (p :: popped) none (s.pop p outer) := by
  -- The path ends with the project that is taken off the stack.
  obtain ⟨path, hpath⟩ : ∃ path, path = (outer.map (·.project)).reverse := ⟨_, rfl⟩
  have hsplit : s.path = path ++ [p] := by rw [← h.stack_eq, hstack, hpath]; simp
  have hcovered := h.covered
  rw [hstack] at hcovered
  have hplaced := h.placed
  rw [hsplit] at hplaced
  rw [State.pop, hsplit, List.dropLast_concat]
  exact {
    roots_mem := h.roots_mem
    stack_eq := hpath.symm
    placed := hplaced.pop
    covered := (hcovered.2.mono (List.subset_cons_self _ _)).pass List.mem_cons_self
    disjoint := by
      rw [List.forall_mem_cons]
      refine ⟨hplaced.pop.get?_eq_none.1 (Keyed.get?_remove_self _ _), fun id hid hmem => ?_⟩
      refine h.disjoint id hid ?_
      rw [hsplit, List.map_append]
      exact List.mem_append_left _ hmem
    popped_done := by
      rw [List.forall_mem_cons]
      constructor
      · intro id hid
        exact List.mem_cons_of_mem _ ((hcovered.1.done_or_ahead id hid).resolve_right (by simp))
      · exact fun q hq id hid => List.mem_cons_of_mem _ (h.popped_done q hq id hid)
    pushed_nodup := h.pushed_nodup
    mem_pushed := fun id => by
      rw [h.mem_pushed, hsplit, List.map_append, List.map_singleton, List.mem_append,
        List.mem_singleton, List.mem_cons]
      tauto }

end

/-- What a turn has to keep. A search that fails has come to a project of the list with a
dependency that stands for none. -/
def Turn.Keeps (ps pushed popped : List Project) : Turn → Prop
  | .pushes p next => Kept ps (p :: pushed) popped none next
  | .pops p next => Kept ps pushed (p :: popped) none next
  | .passes next => Kept ps pushed popped none next
  | .ends (.ok _) => True
  | .ends (.error id) => ∃ p ∈ ps, dependencies ps p = .error id

theorem Kept.visit {s : State} {p : Project} (h : Kept ps pushed popped (some p) s) (hp : p ∈ ps)
    (hpath : p.id ∉ s.path.map (·.id)) :
    (visit ps p s s.path.length).Keeps ps pushed popped := by
  rw [Cycle.visit]
  split
  · rename_i hdone
    exact h.pass hdone
  · rename_i hdone
    split
    · rename_i id hnext
      exact ⟨p, hp, hnext⟩
    · rename_i next hnext
      exact h.push hdone hpath hnext

theorem Kept.turn {s : State} (h : Kept ps pushed popped none s) :
    (turn ps s).Keeps ps pushed popped := by
  rw [Cycle.turn]
  split
  · rename_i hstack
    split
    · trivial
    · rename_i root roots hroots
      have hvisit := (h.toRoot hstack hroots).visit (h.roots_mem root (hroots ▸ List.mem_cons_self))
      simp only [h.path_eq_nil hstack] at hvisit ⊢
      exact hvisit List.not_mem_nil
  · rename_i p outer hstack
    exact h.pop hstack
  · rename_i p child pending outer hstack
    split
    · trivial
    · rename_i hplace
      exact (h.toChild hstack).visit (h.child_mem hstack) (h.placed.get?_eq_none.1 hplace)

theorem Reached.kept {s : State} (h : Reached ps pushed popped s) :
    Kept ps pushed popped none s := by
  induction h with
  | start => exact kept_start ps
  | push _ hturn ih | pop _ hturn ih | pass _ hturn ih =>
    have hkeeps := ih.turn
    rwa [hturn] at hkeeps

/-! ## The end of the search -/

/-- The turns of the search come to an end with a result. -/
def Ends (ps : List Project) (result : Except String (Option (List Project))) : Prop :=
  ∃ pushed popped s, Reached ps pushed popped s ∧ turn ps s = .ends result

/-- The identifiers that no project has that has been put on the stack. -/
structure Unvisited (ps pushed : List Project) (unvisited : List String) : Prop where
  nodup : unvisited.Nodup
  mem_iff : ∀ id, id ∈ unvisited ↔ id ∈ Project.ids ps ∧ id ∉ pushed.map (·.id)

theorem unvisited_ids (ps : List Project) : Unvisited ps [] (Project.ids ps) :=
  ⟨nodup_eraseDups _, by simp⟩

/-- What the search from a stack comes to: the end of the whole search, or an empty stack. -/
def Leaves (ps roots : List Project) : Except String (List Project ⊕ List String) → Prop
  | .error id => Ends ps (.error id)
  | .ok (.inl cycle) => Ends ps (.ok (some cycle))
  | .ok (.inr unvisited) =>
    ∃ pushed popped s, Reached ps pushed popped s ∧ s.stack = [] ∧ s.roots = roots ∧
      Unvisited ps pushed unvisited

section

variable {unvisited : List String} {p : Project} {s : State}

theorem Unvisited.push (h : Unvisited ps pushed unvisited) (p : Project) :
    Unvisited ps (p :: pushed) (unvisited.erase p.id) := by
  refine ⟨h.nodup.erase _, fun id => ?_⟩
  rw [h.nodup.mem_erase_iff, h.mem_iff, List.map_cons, List.mem_cons, not_or]
  tauto

/-- A project that is not on the path has not been visited if and only if it is not done. -/
theorem Unvisited.mem_iff_not_done (h : Unvisited ps pushed unvisited)
    (hs : Reached ps pushed popped s) (hp : p ∈ ps) (hpath : p.id ∉ s.path.map (·.id)) :
    p.id ∈ unvisited ↔ p.id ∉ s.done := by
  have hid : p.id ∈ Project.ids ps := by simpa [Project.ids] using ⟨p, hp, rfl⟩
  rw [h.mem_iff, hs.kept.mem_pushed]
  tauto

theorem Kept.any_iff (h : Kept ps pushed popped none s) {id : String} :
    s.stack.any (·.project.id = id) = true ↔ id ∈ s.path.map (·.id) := by
  simp [← h.stack_eq]

theorem Kept.closing_eq (h : Kept ps pushed popped none s) {id : String} {place : Nat}
    (hplace : s.onPath.get? id = some place) : closing s.stack id = s.path.drop place := by
  rw [closing, List.map_reverse, h.stack_eq, h.placed.dropWhile_eq hplace]

/-- A dependency that is not on the path is put on the stack in this turn if it has not been visited
before, and else it is passed over. -/
theorem Reached.turn_of_child {child : Project} {pending : List Project} {outer : List Visit}
    (hs : Reached ps pushed popped s) (hunvisited : Unvisited ps pushed unvisited)
    (hstack : s.stack = ⟨p, child :: pending⟩ :: outer)
    (hon : ¬ s.stack.any (·.project.id = child.id) = true) :
    turn ps s = visit ps child { s with stack := ⟨p, pending⟩ :: outer } s.path.length ∧
      (child.id ∈ unvisited ↔ child.id ∉ s.done) := by
  rw [hs.kept.any_iff] at hon
  refine ⟨?_, hunvisited.mem_iff_not_done hs (hs.kept.child_mem hstack) hon⟩
  rw [turn, hstack]
  simp only [hs.kept.placed.get?_eq_none.2 hon]

theorem turn_of_root {root : Project} {roots : List Project} (hstack : s.stack = [])
    (hroots : s.roots = root :: roots) : turn ps s = visit ps root { s with roots } 0 := by
  rw [turn, hstack, hroots]

/-- The search from a stack goes through turns. -/
theorem search_leaves {stack : List Visit} (hs : Reached ps pushed popped s)
    (hstack : s.stack = stack) (hunvisited : Unvisited ps pushed unvisited) :
    Leaves ps s.roots (search ps unvisited stack) := by
  fun_induction search ps unvisited stack generalizing pushed popped s with
  | case1 unvisited => exact ⟨pushed, popped, s, hs, hstack, rfl, hunvisited⟩
  | case2 unvisited p outer ih =>
    have hturn : turn ps s = .pops p (s.pop p outer) := by rw [turn, hstack]
    have hleaves := ih (hs.pop hturn) rfl hunvisited
    exact hleaves
  | case3 unvisited p child pending outer hon =>
    rw [if_pos hon]
    rw [← hstack] at hon ⊢
    have hmem := hs.kept.any_iff.1 hon
    obtain ⟨place, hplace⟩ := Option.ne_none_iff_exists'.1 fun hnone =>
      hs.kept.placed.get?_eq_none.1 hnone hmem
    refine ⟨pushed, popped, s, hs, ?_⟩
    rw [hs.kept.closing_eq hplace, turn, hstack]
    simp only [hplace]
  | case4 unvisited p child pending outer hnew id hnext hon =>
    rw [if_neg hon, dif_pos hnew]
    simp only [hnext]
    obtain ⟨hturn, hiff⟩ := hs.turn_of_child hunvisited hstack (hstack ▸ hon)
    exact ⟨pushed, popped, s, hs, hturn.trans (visit_of_error (hiff.1 hnew) hnext)⟩
  | case5 unvisited p child pending outer hnew next hnext hon ih =>
    rw [if_neg hon, dif_pos hnew]
    simp only [hnext]
    obtain ⟨hturn, hiff⟩ := hs.turn_of_child hunvisited hstack (hstack ▸ hon)
    have hleaves := ih (hs.push (hturn.trans (visit_of_ok (hiff.1 hnew) hnext))) rfl
      (hunvisited.push child)
    exact hleaves
  | case6 unvisited p child pending outer hnew hon ih =>
    rw [if_neg hon, dif_neg hnew]
    obtain ⟨hturn, hiff⟩ := hs.turn_of_child hunvisited hstack (hstack ▸ hon)
    have hdone : child.id ∈ s.done := not_not.1 (mt hiff.2 hnew)
    have hleaves := ih (hs.pass (hturn.trans (visit_of_done hdone))) rfl hunvisited
    exact hleaves

/-- The search from some roots, one after the other, goes through turns. -/
theorem ends_searchFrom (hs : Reached ps pushed popped s) (hstack : s.stack = [])
    (hunvisited : Unvisited ps pushed unvisited) : Ends ps (searchFrom ps unvisited s.roots) := by
  obtain ⟨roots, hroots⟩ : ∃ roots, s.roots = roots := ⟨_, rfl⟩
  rw [hroots]
  induction roots generalizing pushed popped unvisited s with
  | nil =>
    refine ⟨pushed, popped, s, hs, ?_⟩
    rw [turn, hstack, hroots, searchFrom]
  | cons root roots ih =>
    have hpath : root.id ∉ s.path.map (·.id) := by simp [hs.kept.path_eq_nil hstack]
    have hroot : root ∈ ps := hs.kept.roots_mem root (hroots ▸ List.mem_cons_self)
    have hiff := hunvisited.mem_iff_not_done hs hroot hpath
    have hturn : turn ps s = visit ps root { s with roots } 0 := turn_of_root hstack hroots
    rw [searchFrom]
    by_cases hnew : root.id ∈ unvisited
    · rw [if_pos hnew]
      cases hnext : dependencies ps root with
      | error id => exact ⟨pushed, popped, s, hs, hturn.trans (visit_of_error (hiff.1 hnew) hnext)⟩
      | ok next =>
        have hleaves := search_leaves (hs.push (hturn.trans (visit_of_ok (hiff.1 hnew) hnext)))
          (show _ = [⟨root, next⟩] by simp [State.push, hstack]) (hunvisited.push root)
        rcases hsearch : search ps (unvisited.erase root.id) [⟨root, next⟩] with id | cycle | rest
          <;> rw [hsearch] at hleaves <;> simp only [hsearch]
        · exact hleaves
        · exact hleaves
        · obtain ⟨pushed', popped', s', hs', hstack', hroots', hunvisited'⟩ := hleaves
          exact ih hs' hstack' hunvisited' hroots'
    · rw [if_neg hnew]
      have hdone : root.id ∈ s.done := not_not.1 (mt hiff.2 hnew)
      exact ih (hs.pass (hturn.trans (visit_of_done hdone))) hstack hunvisited rfl

theorem ends_find? (ps : List Project) : Ends ps (find? ps) :=
  ends_searchFrom .start rfl (unvisited_ids ps)

theorem Reached.leadsTo (h : Reached ps pushed popped s) :
    ReflTransGen (LeadsTo ps) (Cycle.start ps) s := by
  induction h with
  | start => exact .refl
  | push _ hturn ih | pop _ hturn ih | pass _ hturn ih =>
    refine ih.tail ?_
    rw [LeadsTo, hturn, Turn.next?]

/-- From every state, turns lead to the end. -/
theorem Reached.ends (h : Reached ps pushed popped s) :
    ∃ last, ReflTransGen (LeadsTo ps) s last ∧ turn ps last = .ends (find? ps) := by
  obtain ⟨pushed', popped', last, hlast, hturn⟩ := ends_find? ps
  have hunique : Relator.RightUnique (LeadsTo ps) :=
    fun _ _ _ hnext hnext' => Option.some.inj (hnext.symm.trans hnext')
  refine ⟨last, ?_, hturn⟩
  rcases h.leadsTo.total_of_right_unique hunique hlast.leadsTo with hon | hback
  · exact hon
  · -- No turn leads on from the end.
    rcases hback.cases_head with heq | ⟨next, hnext, -⟩
    · exact heq ▸ .refl
    · rw [LeadsTo, hturn] at hnext
      cases hnext

end

/-! ## Lockstep -/

/-- How the stack, the path, the places and what is done belong together. -/
structure Lockstep (ps popped : List Project) (s : State) : Prop where
  stack_path : (s.stack.map (·.project)).reverse = s.path
  /-- Each project on the path has its position under its identifier, and nothing else is there. -/
  places : ∀ id i, s.onPath.get? id = some i ↔ (s.path.map (·.id))[i]? = some id
  disjoint : ∀ id ∈ s.done, s.onPath.get? id = none
  /-- Each project on the path is a dependency of the one before it. -/
  chain : s.path.IsChain (HasDependency ps)
  popped_done : ∀ p ∈ popped, ∀ id ∈ p.dependencies, id ∈ s.done

theorem Kept.lockstep {s : State} (h : Kept ps pushed popped none s) : Lockstep ps popped s where
  stack_path := h.stack_eq
  places := h.placed
  disjoint id hid := h.placed.get?_eq_none.2 (h.disjoint id hid)
  chain := by simpa [h.stack_eq] using h.covered.isChain
  popped_done := h.popped_done

/-- Where all dependencies belong to projects, the search has a result, and from every state that is
reached turns lead to the end with that result. No identifier is put on the stack twice, and before
each turn the data of the search are in lockstep. Several projects may have the same identifier. -/
theorem find?_lockstep (hres : Resolved ps) :
    (∃ cycle?, find? ps = .ok cycle?) ∧
    ∀ pushed popped s, Reached ps pushed popped s →
      (∃ last, ReflTransGen (LeadsTo ps) s last ∧ turn ps last = .ends (find? ps)) ∧
        (pushed.map (·.id)).Nodup ∧ Lockstep ps popped s := by
  refine ⟨?_, fun pushed popped s hs => ⟨hs.ends, hs.kept.pushed_nodup, hs.kept.lockstep⟩⟩
  obtain ⟨pushed, popped, s, hs, hturn⟩ := ends_find? ps
  cases hfind : find? ps with
  | ok cycle? => exact ⟨cycle?, rfl⟩
  | error id =>
    have hkeeps := hs.kept.turn
    rw [hturn, hfind] at hkeeps
    obtain ⟨p, hp, herror⟩ := hkeeps
    obtain ⟨found, hfound⟩ := exists_mapM_resolve_eq_ok hres hp
    rw [dependencies, hfound] at herror
    cases herror

/-- Two projects with the same identifier and name, and one on which both depend and which depends
on them. -/
def twins : List Project :=
  [["B"].foldl .addDependency { id := "A", name := "App", path := "App.csproj" },
    ["A"].foldl .addDependency { id := "B", name := "Base", path := "Base.csproj", index := 1 },
    ["B"].foldl .addDependency { id := "A", name := "App", path := "Other.csproj", index := 2 }]

theorem find?_lockstep_twins :
    Resolved twins ∧ ∃ s, Reached twins (twins.take 1) [] s ∧ Lockstep twins [] s ∧
      ∃ last, ReflTransGen (LeadsTo twins) s last ∧
        turn twins last = .ends (.ok (some (twins.take 2))) := by
  have hres : Resolved twins := by decide
  have hcycle : find? twins = .ok (some (twins.take 2)) := by cbv
  obtain ⟨s, hturn⟩ : ∃ s, turn twins (start twins) = .pushes (twins.head (by decide)) s :=
    ⟨_, by cbv⟩
  have hs : Reached twins (twins.take 1) [] s := .push .start hturn
  obtain ⟨⟨last, hlast, hends⟩, -, hlockstep⟩ := (find?_lockstep hres).2 _ _ s hs
  exact ⟨hres, s, hs, hlockstep, last, hlast, hcycle ▸ hends⟩

end SolutionScript.Cycle
