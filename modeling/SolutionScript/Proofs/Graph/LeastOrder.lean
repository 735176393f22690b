import Mathlib.Data.List.Lex
import SolutionScript.Proofs.Graph.Progress

/-!
# The least order

Building the least project each time gives the least of all orders that put
dependencies first (`isLeastOrder_arrange`). Whatever is built so far, an order
that starts with it goes on with a project that can be built, and the least of
these is the one that is built (`Available.of_order`).
-/

namespace SolutionScript.BuildOrder

/-- An order of all projects that puts dependencies first and starts with some
projects. Any other such order is greater. -/
structure IsLeastOrder (ps start order : List Project) : Prop where
  perm : order.Perm ps
  dependencies_first : DependenciesFirst order
  starts : start <+: order
  least : ∀ l, l.Perm ps → DependenciesFirst l → start <+: l →
    l = order ∨ order.map (·.readyKey) < l.map (·.readyKey)

variable {ps : List Project}

theorem eq_of_readyKey_eq (hid : (ps.map (·.id)).Nodup) {p q : Project} (hp : p ∈ ps) (hq : q ∈ ps)
    (h : p.readyKey = q.readyKey) : p = q := by
  rw [Project.readyKey, Project.readyKey, toLex_inj, Prod.mk.injEq] at h
  exact List.inj_on_of_nodup_map hid hp hq h.2

/-- What an order goes on with after the projects that are built can be built. -/
theorem Available.of_order (hid : (ps.map (·.id)).Nodup) {built rest : List Project} {q : Project}
    (hperm : (built.reverse ++ q :: rest).Perm ps)
    (hfirst : DependenciesFirst (built.reverse ++ q :: rest)) : Available ps built q := by
  refine ⟨hperm.mem_iff.1 (by simp), fun hq => ?_, fun id hdep => ?_⟩
  · have hnodup := (List.nodup_append.1 (hperm.nodup_iff.2 hid.of_map)).2.2
    exact hnodup q (List.mem_reverse.2 hq) q (by simp) rfl
  · obtain ⟨r, hr, hrid⟩ := hfirst built.reverse q rest rfl id hdep
    exact ⟨r, List.mem_reverse.1 hr, hrid⟩

/-- Once all projects are built, there is no other order that starts with them. -/
theorem Sound.isLeastOrder_built {s : Progress} (h : Sound ps s) (hperm : s.built.Perm ps) :
    IsLeastOrder ps s.built.reverse s.built.reverse := by
  have hperm := (List.reverse_perm s.built).trans hperm
  refine ⟨hperm, h.built_first, List.prefix_refl _, fun l hl _ hstart => .inl ?_⟩
  exact (hstart.eq_of_length (hperm.length_eq.trans hl.length_eq.symm)).symm

/-- An order that is the least after building the least project is the least
before, too. -/
theorem Sound.isLeastOrder_of_buildNext (hid : (ps.map (·.id)).Nodup) {s : Progress}
    (h : Sound ps s) {first : Project} {rest : List Project} (hready : s.ready = first :: rest)
    {order : List Project}
    (horder : IsLeastOrder ps (least first rest :: s.built).reverse order) :
    IsLeastOrder ps s.built.reverse order := by
  obtain ⟨hperm, hfirst, ⟨tail, rfl⟩, hleast⟩ := horder
  have hassoc : (least first rest :: s.built).reverse ++ tail =
      s.built.reverse ++ least first rest :: tail := by simp
  obtain ⟨hnext, hnew, -⟩ := h.available_least hready
  refine ⟨hperm, hfirst, hassoc ▸ List.prefix_append _ _, ?_⟩
  rintro l hl hlfirst ⟨other, rfl⟩
  cases other with
  | nil =>
    have hmem := hl.mem_iff.2 hnext
    simp [hnew] at hmem
  | cons q other =>
    have hq := Available.of_order hid hl hlfirst
    have hle : (least first rest).readyKey ≤ q.readyKey :=
      (least_spec first rest).2 q (hready ▸ (h.mem_ready q).2 hq)
    rcases hle.lt_or_eq with hlt | heq
    · right
      rw [hassoc, List.map_append, List.map_append]
      exact List.Lex.append_left _ (.rel hlt) _
    · obtain rfl := eq_of_readyKey_eq hid hnext hq.1 heq
      exact hleast _ hl hlfirst ⟨other, by simp⟩

/-- Building goes on to the least order that starts with the projects that are
built. -/
theorem Sound.isLeastOrder_buildAll (hid : (ps.map (·.id)).Nodup) (hres : Resolved ps)
    (hcycle : ¬ HasCycle ps) {limit : ℕ} {s : Progress} (h : Sound ps s)
    (hlimit : ps.length ≤ limit + s.built.length) :
    IsLeastOrder ps s.built.reverse (buildAll ps limit s) := by
  induction limit generalizing s with
  | zero => exact h.isLeastOrder_built (h.perm_of_length_le (by omega))
  | succ limit ih =>
    rw [buildAll]
    split
    · rename_i hready
      exact h.isLeastOrder_built (h.perm_of_ready_nil hid hres hcycle hready)
    · rename_i first rest hready
      have hbuilt := h.buildNext_built hid hready
      have hnext := ih (h.buildNext hid hready) (by rw [hbuilt, List.length_cons]; omega)
      rw [hbuilt] at hnext
      exact h.isLeastOrder_of_buildNext hid hready hnext

/-- The arrangement of projects is the least order. -/
theorem isLeastOrder_arrange (hid : (ps.map (·.id)).Nodup) (hres : Resolved ps)
    (hcycle : ¬ HasCycle ps) : IsLeastOrder ps [] (arrange ps) :=
  (sound_start hid).isLeastOrder_buildAll hid hres hcycle (by omega)

end SolutionScript.BuildOrder
