import Mathlib.Data.List.Permutation
import SolutionScript.Proofs.Graph.Search

/-!
# Greedy walks

Which cycle the search finds, said without the search: the walk that starts at
the first project that reaches a cycle and always goes on to the first
dependency that reaches one (`IsGreedyWalk`) comes back to one of its projects,
and the cycle is what lies between (`find?_greedyWalk`). The order in which
projects or dependencies are listed has no influence on it.
-/

namespace SolutionScript.Cycle

/-- A walk that starts at the first project that reaches a cycle, and goes from
each project to the first of its dependencies that reaches a cycle. -/
structure IsGreedyWalk (ps : List Project) (w : ℕ → Project) : Prop where
  start : IsFirst (ReachesCycle ps) (w 0)
  step : ∀ n, IsFirst (fun q => DependsOn ps (w n) q ∧ ReachesCycle ps q) (w (n + 1))

/-- Step `j` is the first at which a walk is at a project where it was before, and
it was there at step `i`. -/
structure FirstRevisit (w : ℕ → Project) (i j : ℕ) : Prop where
  lt : i < j
  eq : w i = w j
  ne : ∀ a b, a < b → b < j → w a ≠ w b

/-- The projects of a walk from step `i` up to just before step `j`. -/
def segment (w : ℕ → Project) (i j : ℕ) : List Project := (List.range' i (j - i)).map w

variable {ps : List Project}

/-- From a project that reaches a cycle the walk can start. -/
theorem exists_isGreedyWalk (h : ∃ p ∈ ps, ReachesCycle ps p) : ∃ w, IsGreedyWalk ps w := by
  obtain ⟨p, -, hp⟩ := h
  obtain ⟨root, hroot⟩ := IsFirst.exists_of_mem (fun _ => ReachesCycle.mem) ⟨p, hp⟩
  have hnext (p : {p // ReachesCycle ps p}) :
      ∃ q : {q // ReachesCycle ps q},
        IsFirst (fun q => DependsOn ps p q ∧ ReachesCycle ps q) q.1 := by
    obtain ⟨q, hq⟩ := IsFirst.exists_of_mem (fun _ h => ReachesCycle.mem h.2)
      (reachesCycle_iff.1 p.2)
    exact ⟨⟨q, hq.1.2⟩, hq⟩
  choose next hnext using hnext
  let w (n : ℕ) : {p // ReachesCycle ps p} := next^[n] ⟨root, hroot.1⟩
  refine ⟨fun n => (w n).1, hroot, fun n => ?_⟩
  rw [show w (n + 1) = next (w n) from Function.iterate_succ_apply' next n _]
  exact hnext (w n)

/-- A greedy walk follows every chain that starts at the first project that reaches
a cycle, that ends with a project that reaches one, and whose projects each lead
to the next. -/
theorem IsGreedyWalk.eq_getElem (hkey : (ps.map (·.sortKey)).Nodup) {w : ℕ → Project}
    (hw : IsGreedyWalk ps w) {l : List Project} (hchain : l.IsChain (Leads ps))
    (hcycle : ∀ p ∈ l, ReachesCycle ps p) {root : Project} (hroot : IsFirst (ReachesCycle ps) root)
    (hhead : l.head? = some root) (n : ℕ) (hn : n < l.length) : w n = l[n] := by
  induction n with
  | zero =>
    have : l[0] = root := by
      rw [List.head?_eq_getElem?, List.getElem?_eq_getElem hn] at hhead
      exact Option.some.inj hhead
    rw [this]
    exact IsFirst.unique hkey (fun _ => ReachesCycle.mem) hw.start hroot
  | succ n ih =>
    have ih := ih (by omega)
    have hleads := List.isChain_iff_getElem.1 hchain n hn
    refine IsFirst.unique hkey (fun _ h => ReachesCycle.mem h.2) (hw.step n) ?_
    rw [ih]
    exact ⟨⟨hleads.1, hcycle _ (List.getElem_mem hn)⟩, fun q hq => hleads.2 q hq.1 hq.2⟩

/-- What the search finds is the part of a greedy walk between two visits to a
project, the first such part. -/
theorem Finds.eq_segment (hid : (ps.map (·.id)).Nodup) (hkey : (ps.map (·.sortKey)).Nodup)
    (hres : Resolved ps) {root : Project} {c : List Project} (h : Finds ps root c)
    (hroot : IsFirst (ReachesCycle ps) root) {w : ℕ → Project} (hw : IsGreedyWalk ps w) :
    ∃ i j, FirstRevisit w i j ∧ c = segment w i j := by
  have hcycle := h.isCycle hid hres
  obtain ⟨before, child, rest, rfl, hnodup, hhead, hchain⟩ := h.exists_chain hid hres
  have hchild : ReachesCycle ps child :=
    ⟨child, .refl, transGen_of_isChain (by simpa using hcycle.chain)⟩
  have hreach := reachesCycle_of_isChain hchild (hchain.imp fun _ _ h => h.1)
  have hget := hw.eq_getElem hkey hchain hreach hroot
    (by rw [List.head?_append, hhead, Option.some_or])
  have hlen : (before ++ child :: rest).length = before.length + (rest.length + 1) := by simp
  have hwalk (n : ℕ) (hn : n < (before ++ child :: rest).length) :
      w n = (before ++ child :: rest)[n] := by
    rw [hget n (by rw [List.length_append]; omega), List.getElem_append_left hn]
  refine ⟨before.length, (before ++ child :: rest).length, ⟨by omega, ?_, ?_⟩, ?_⟩
  · rw [hwalk _ (by omega), hget _ (by simp)]
    simp
  · intro a b hab hb heq
    rw [hwalk a (by omega), hwalk b hb, hnodup.getElem_inj_iff] at heq
    omega
  · refine List.ext_getElem (by simp [segment]) fun n hn _ => ?_
    simp only [segment, List.getElem_map, List.getElem_range', one_mul]
    rw [hwalk _ (by rw [hlen]; simp at hn; omega)]
    simp

/-- The cycle that is found. There is none if and only if no project reaches a
cycle. Otherwise it is what a greedy walk goes through from its first visit to
the first project that it comes back to, up to just before it comes back. -/
theorem find?_greedyWalk (hid : (ps.map (·.id)).Nodup) (hkey : (ps.map (·.sortKey)).Nodup)
    (hres : Resolved ps) :
    (find? ps = .ok none ↔ ∀ p ∈ ps, ¬ ReachesCycle ps p) ∧
    ((∃ p ∈ ps, ReachesCycle ps p) →
      (∃ w, IsGreedyWalk ps w) ∧
      ∀ w, IsGreedyWalk ps w →
        ∃ i j, FirstRevisit w i j ∧ find? ps = .ok (some (segment w i j))) := by
  rcases find?_spec hid hres with ⟨hnone, hall⟩ | ⟨root, c, hc, hroot, hfinds⟩
  · refine ⟨iff_of_true hnone hall, ?_⟩
    rintro ⟨p, hp, hreach⟩
    exact absurd hreach (hall p hp)
  · refine ⟨iff_of_false (by simp [hc]) fun hall => hall root hroot.1.mem hroot.1, fun h => ?_⟩
    refine ⟨exists_isGreedyWalk h, fun w hw => ?_⟩
    obtain ⟨i, j, hij, rfl⟩ := hfinds.eq_segment hid hkey hres hroot hw
    exact ⟨i, j, hij, hc⟩

/-- A project that depends on a cycle of two others. -/
def lasso : List Project :=
  [["C"].foldl .addDependency { id := "A", name := "App", path := "App.csproj" },
    ["C"].foldl .addDependency { id := "B", name := "Base", path := "Base.csproj", index := 1 },
    ["B"].foldl .addDependency { id := "C", name := "Core", path := "Core.csproj", index := 2 }]

theorem find?_greedyWalk_lasso :
    (lasso.map (·.id)).Nodup ∧ (lasso.map (·.sortKey)).Nodup ∧ Resolved lasso ∧
      ∃ c, find? lasso = .ok (some c) ∧ c.map (·.name) = ["Core", "Base"] ∧
        ∃ w i j, IsGreedyWalk lasso w ∧ FirstRevisit w i j ∧ c = segment w i j := by
  have hid : (lasso.map (·.id)).Nodup := by decide
  have hkey : (lasso.map (·.sortKey)).Nodup := by decide
  have hres : Resolved lasso := by decide
  obtain ⟨c, hc, hnames⟩ :
      ∃ c, find? lasso = .ok (some c) ∧ c.map (·.name) = ["Core", "Base"] :=
    ⟨(lasso.drop 1).reverse, by cbv, rfl⟩
  obtain ⟨hnone, hwalk⟩ := find?_greedyWalk hid hkey hres
  have hreach : ∃ p ∈ lasso, ReachesCycle lasso p := by
    by_contra hnot
    push Not at hnot
    cases hc.symm.trans (hnone.2 hnot)
  obtain ⟨⟨w, hw⟩, hall⟩ := hwalk hreach
  obtain ⟨i, j, hij, hfind⟩ := hall w hw
  cases hc.symm.trans hfind
  exact ⟨hid, hkey, hres, _, hc, hnames, w, i, j, hw, hij, rfl⟩

end SolutionScript.Cycle
