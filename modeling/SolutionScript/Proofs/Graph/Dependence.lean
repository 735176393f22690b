import Mathlib.Data.List.Chain
import Mathlib.Order.WellFoundedSet
import SolutionScript.Proofs.Graph.SortKey

/-!
# Dependence between projects

The relation that the dependencies of projects make (`DependsOn`), the cycles in
it (`HasCycle`, and as a list of projects `IsCycle`) and the projects from which
a cycle can be reached (`ReachesCycle`). A project reaches a cycle if and only
if one of its dependencies does (`reachesCycle_iff`). Without cycles, every
set of projects that is not empty has one that depends on none of the others
(`exists_independent`).
-/

namespace SolutionScript

open Relation

/-- A project depends on another one, both of them from a list. -/
def DependsOn (ps : List Project) (p q : Project) : Prop :=
  p ∈ ps ∧ q ∈ ps ∧ q.id ∈ p.dependencies

/-- A dependency of a project of a list that belongs to no project of the list. -/
def Unresolved (ps : List Project) (p : Project) (id : String) : Prop :=
  p ∈ ps ∧ id ∈ p.dependencies ∧ ∀ q ∈ ps, q.id ≠ id

/-- Every dependency belongs to a project of the list. -/
def Resolved (ps : List Project) : Prop := ∀ p ∈ ps, ∀ id ∈ p.dependencies, ∃ q ∈ ps, q.id = id

instance (ps : List Project) : Decidable (Resolved ps) :=
  inferInstanceAs (Decidable (∀ p ∈ ps, ∀ id ∈ p.dependencies, ∃ q ∈ ps, q.id = id))

/-- A walk along dependencies leads from a project back to it. -/
def HasCycle (ps : List Project) : Prop := ∃ p, TransGen (DependsOn ps) p p

/-- A walk along dependencies leads from a project to a cycle. -/
def ReachesCycle (ps : List Project) (p : Project) : Prop :=
  ∃ q, ReflTransGen (DependsOn ps) p q ∧ TransGen (DependsOn ps) q q

/-- A cycle as a list: each project depends on the next, and the last on the
first. -/
structure IsCycle (ps c : List Project) : Prop where
  ne_nil : c ≠ []
  nodup : c.Nodup
  chain : (c ++ c.take 1).IsChain (DependsOn ps)

variable {ps : List Project} {p q : Project}

theorem not_resolved_iff : ¬ Resolved ps ↔ ∃ p id, Unresolved ps p id := by
  simp only [Resolved, Unresolved, not_forall, not_exists, not_and, ne_eq, exists_prop,
    exists_and_left]

/-- Where a walk starts that is not empty, there is a dependency. -/
theorem DependsOn.of_transGen (h : TransGen (DependsOn ps) p q) :
    ∃ r, DependsOn ps p r ∧ ReflTransGen (DependsOn ps) r q :=
  TransGen.head'_iff.1 h

theorem mem_of_transGen (h : TransGen (DependsOn ps) p q) : p ∈ ps := by
  obtain ⟨r, hr, -⟩ := DependsOn.of_transGen h
  exact hr.1

theorem ReachesCycle.of_dependsOn (hpq : DependsOn ps p q) (h : ReachesCycle ps q) :
    ReachesCycle ps p := by
  obtain ⟨r, hqr, hr⟩ := h
  exact ⟨r, hqr.head hpq, hr⟩

/-- The projects from which a cycle can be reached are those that depend on one
from which a cycle can be reached. -/
theorem reachesCycle_iff : ReachesCycle ps p ↔ ∃ q, DependsOn ps p q ∧ ReachesCycle ps q := by
  constructor
  · rintro ⟨r, hpr, hr⟩
    rcases hpr.cases_head with rfl | ⟨q, hpq, hqr⟩
    · obtain ⟨q, hpq, hqp⟩ := DependsOn.of_transGen hr
      exact ⟨q, hpq, p, hqp, hr⟩
    · exact ⟨q, hpq, r, hqr, hr⟩
  · rintro ⟨q, hpq, hq⟩
    exact hq.of_dependsOn hpq

theorem ReachesCycle.mem (h : ReachesCycle ps p) : p ∈ ps := by
  obtain ⟨q, hpq, -⟩ := reachesCycle_iff.1 h
  exact hpq.1

theorem hasCycle_iff : HasCycle ps ↔ ∃ p ∈ ps, ReachesCycle ps p :=
  ⟨fun ⟨p, hp⟩ => ⟨p, mem_of_transGen hp, p, .refl, hp⟩, fun ⟨_, _, q, _, hq⟩ => ⟨q, hq⟩⟩

/-- Along a chain of dependencies the first project leads to the last. -/
theorem transGen_of_isChain {a b : Project} :
    ∀ {l : List Project}, (a :: l ++ [b]).IsChain (DependsOn ps) → TransGen (DependsOn ps) a b
  | [], h => .single (List.isChain_cons_cons.1 h).1
  | _ :: _, h =>
    have h := List.isChain_cons_cons.1 h
    (transGen_of_isChain h.2).head h.1

theorem IsCycle.hasCycle {c : List Project} (h : IsCycle ps c) : HasCycle ps := by
  obtain ⟨hne, -, hchain⟩ := h
  cases c with
  | nil => exact absurd rfl hne
  | cons a l => exact ⟨a, transGen_of_isChain (by simpa using hchain)⟩

/-- Where no project depends on itself, a cycle has at least two projects. -/
theorem IsCycle.two_le_length {c : List Project} (h : IsCycle ps c)
    (hself : ∀ p ∈ ps, p.id ∉ p.dependencies) : 2 ≤ c.length := by
  obtain ⟨hne, -, hchain⟩ := h
  match c with
  | [] => exact absurd rfl hne
  | [p] =>
    obtain ⟨hp, -, hdep⟩ := (List.isChain_cons_cons.1 hchain).1
    exact absurd hdep (hself p hp)
  | _ :: _ :: _ => simp

/-- Without a cycle, some project with a property depends on no project with the
property. -/
theorem exists_independent (h : ¬ HasCycle ps) {P : Project → Prop} (hP : ∀ p, P p → p ∈ ps)
    (hne : ∃ p, P p) : ∃ p, P p ∧ ∀ q, DependsOn ps p q → ¬ P q := by
  let before (q p : Project) : Prop := TransGen (DependsOn ps) p q
  have : IsStrictOrder Project before :=
    { irrefl := fun p hp => h ⟨p, hp⟩
      trans := fun _ _ _ h₁ h₂ => h₂.trans h₁ }
  have hwf : {p | P p}.WellFoundedOn before :=
    ((List.finite_toSet ps).subset hP).wellFoundedOn
  obtain ⟨p, hp, hmin⟩ := (Set.wellFoundedOn_iff.1 hwf).has_min {p | P p} hne
  exact ⟨p, hp, fun q hpq hq => hmin q hq ⟨.single hpq, hq, hp⟩⟩

end SolutionScript
