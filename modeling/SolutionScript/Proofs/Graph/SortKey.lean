import Mathlib.Data.List.Nodup
import Mathlib.Data.Prod.Lex
import Mathlib.Data.Set.Finite.Lemmas
import Mathlib.Data.String.Basic
import SolutionScript.Graph.BuildOrder

/-!
# Sort keys

The keys that projects are compared by: name and index for the search for
cycles (`Project.sortKey`), and the identifier after both for the choice of the
next project to build (`Project.readyKey`). The Boolean comparisons of the
library are the linear orders of these keys (`Project.le_iff`,
`BuildOrder.readyLe_iff`). Sorting by keys that differ gives the same whatever
the order was before (`mergeSort_eq_of_perm`), and at most one project is the
first with a property (`IsFirst.unique`).
-/

namespace SolutionScript

theorem Text.le_iff {a b : String} : Text.le a b = true ↔ a ≤ b := by
  simp only [Text.le, Bool.not_eq_true', decide_eq_false_iff_not, not_lt]

/-- Sorting by a comparison that is the order of a key puts keys in ascending order. -/
theorem pairwise_mergeSort_of_key {α κ : Type} [LinearOrder κ] (key : α → κ) {le : α → α → Bool}
    (hle : ∀ a b, le a b = true ↔ key a ≤ key b) (l : List α) :
    (l.mergeSort le).Pairwise fun a b => key a ≤ key b := by
  refine (List.pairwise_mergeSort (fun a b c hab hbc => ?_) (fun a b => ?_) l).imp (hle _ _).1
  · exact (hle a c).2 (((hle a b).1 hab).trans ((hle b c).1 hbc))
  · rw [Bool.or_eq_true, hle, hle]
    exact le_total _ _

/-- Sorting by a key that is different for each member does not see in which order they came. -/
theorem mergeSort_eq_of_perm {α κ : Type} [LinearOrder κ] (key : α → κ) {le : α → α → Bool}
    (hle : ∀ a b, le a b = true ↔ key a ≤ key b) {l l' : List α} (h : l.Perm l')
    (hinj : ∀ a ∈ l, ∀ b ∈ l, key a = key b → a = b) : l.mergeSort le = l'.mergeSort le := by
  have hperm : (l.mergeSort le).Perm (l'.mergeSort le) :=
    (List.mergeSort_perm l le).trans (h.trans (List.mergeSort_perm l' le).symm)
  refine hperm.eq_of_pairwise (fun a b ha hb hab hba => ?_)
    (pairwise_mergeSort_of_key key hle l) (pairwise_mergeSort_of_key key hle l')
  exact hinj a (List.mem_mergeSort.1 ha) b (h.mem_iff.2 (List.mem_mergeSort.1 hb))
    (hab.antisymm hba)

theorem nodup_eraseDups {α : Type} [BEq α] [LawfulBEq α] : ∀ l : List α, l.eraseDups.Nodup
  | [] => by simp
  | a :: l => by
    rw [List.eraseDups_cons, List.nodup_cons]
    exact ⟨by simp, nodup_eraseDups _⟩
termination_by l => l.length
decreasing_by
  rw [List.length_cons]
  exact Nat.lt_succ_of_le (List.length_filter_le _ _)

namespace Project

/-- What projects are sorted by: the name, and the index where names are equal. -/
def sortKey (p : Project) : String ×ₗ ℤ := toLex (p.name, p.index)

/-- What projects that can be built are compared by: the sort key, and the
identifier where sort keys are equal. -/
def readyKey (p : Project) : (String ×ₗ ℤ) ×ₗ String := toLex (p.sortKey, p.id)

theorem sortKey_eq_iff {p q : Project} :
    p.sortKey = q.sortKey ↔ p.name = q.name ∧ p.index = q.index := by
  rw [sortKey, sortKey, toLex_inj, Prod.mk.injEq]

theorem le_iff {p q : Project} : p.le q = true ↔ p.sortKey ≤ q.sortKey := by
  rw [sortKey, sortKey, Prod.Lex.toLex_le_toLex]
  unfold Project.le
  split
  · rename_i h
    simp only [decide_eq_true_eq, h, lt_irrefl, true_and, false_or]
  · rename_i h
    rw [Text.le_iff, le_iff_lt_or_eq]
    simp only [h, false_and, or_false]

theorem pairwise_sorted (ps : List Project) :
    (sorted ps).Pairwise fun p q => p.sortKey ≤ q.sortKey :=
  pairwise_mergeSort_of_key sortKey (fun _ _ => le_iff) ps

theorem pairwise_sortedDependencies (p : Project) : p.sortedDependencies.Pairwise (· ≤ ·) :=
  pairwise_mergeSort_of_key (fun id => id) (fun _ _ => Text.le_iff) p.dependencies

@[simp] theorem mem_sorted {ps : List Project} {p : Project} : p ∈ sorted ps ↔ p ∈ ps :=
  List.mem_mergeSort

theorem withId?_eq_none {ps : List Project} {id : String} :
    withId? ps id = none ↔ ∀ q ∈ ps, q.id ≠ id := by
  simp [withId?]

/-- Where identifiers differ from project to project, each stands for the
project that has it. -/
theorem withId?_eq_some {ps : List Project} (hid : (ps.map (·.id)).Nodup) {id : String}
    {p : Project} : withId? ps id = some p ↔ p ∈ ps ∧ p.id = id := by
  constructor
  · intro h
    exact ⟨by simpa using List.mem_of_find?_eq_some h, by simpa using List.find?_some h⟩
  · rintro ⟨hp, rfl⟩
    cases h : withId? ps p.id with
    | none => exact absurd rfl (withId?_eq_none.1 h p hp)
    | some q =>
      have hq : q ∈ ps := by simpa using List.mem_of_find?_eq_some h
      have hqp : q.id = p.id := by simpa using List.find?_some h
      rw [List.inj_on_of_nodup_map hid hq hp hqp]

end Project

theorem BuildOrder.readyLe_iff {p q : Project} : readyLe p q = true ↔ p.readyKey ≤ q.readyKey := by
  rw [Project.readyKey, Project.readyKey, Prod.Lex.toLex_le_toLex]
  unfold readyLe
  split
  · rename_i h
    rw [Bool.and_eq_true, decide_eq_true_eq, decide_eq_true_eq, ← Project.sortKey_eq_iff] at h
    rw [Text.le_iff]
    simp only [h, lt_irrefl, true_and, false_or]
  · rename_i h
    rw [Bool.and_eq_true, decide_eq_true_eq, decide_eq_true_eq, ← Project.sortKey_eq_iff] at h
    rw [Project.le_iff, le_iff_lt_or_eq]
    simp only [h, false_and, or_false]

/-- A project has a property, and no project with the property has a lesser sort
key. -/
def IsFirst (P : Project → Prop) (p : Project) : Prop :=
  P p ∧ ∀ q, P q → p.sortKey ≤ q.sortKey

/-- At most one project is the first. -/
theorem IsFirst.unique {ps : List Project} (hkey : (ps.map (·.sortKey)).Nodup)
    {P : Project → Prop} (hP : ∀ p, P p → p ∈ ps) {p q : Project} (hp : IsFirst P p)
    (hq : IsFirst P q) : p = q :=
  List.inj_on_of_nodup_map hkey (hP p hp.1) (hP q hq.1)
    ((hp.2 q hq.1).antisymm (hq.2 p hp.1))

/-- If any project has a property, one is the first. -/
theorem IsFirst.exists_of_mem {ps : List Project} {P : Project → Prop} (hP : ∀ p, P p → p ∈ ps)
    (h : ∃ p, P p) : ∃ p, IsFirst P p := by
  have hfin : {p | P p}.Finite := (List.finite_toSet ps).subset hP
  obtain ⟨p, hp, hmin⟩ := Set.exists_min_image {p | P p} Project.sortKey hfin h
  exact ⟨p, hp, hmin⟩

/-- Where projects are sorted, the first with a property comes before the others. -/
theorem IsFirst.of_sorted {ps before after : List Project} {P : Project → Prop} {p : Project}
    (hP : ∀ q, P q → q ∈ ps) (hsplit : Project.sorted ps = before ++ p :: after) (hp : P p)
    (hbefore : ∀ q ∈ before, ¬ P q) : IsFirst P p := by
  refine ⟨hp, fun q hq => ?_⟩
  have hsorted := hsplit ▸ Project.pairwise_sorted ps
  have hmem : q ∈ before ++ p :: after := hsplit ▸ Project.mem_sorted.2 (hP q hq)
  rcases List.mem_append.1 hmem with hqb | hqa
  · exact absurd hq (hbefore q hqb)
  · rcases List.mem_cons.1 hqa with rfl | hqa
    · exact le_rfl
    · exact (List.pairwise_cons.1 (List.pairwise_append.1 hsorted).2.1).1 q hqa

end SolutionScript
