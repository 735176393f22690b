import Mathlib.Data.List.Perm.Subperm
import SolutionScript.Proofs.Graph.Dependence

/-!
# Progress of a build

What holds whenever some projects are built and others are waiting (`Sound`):
each project waits for as many dependencies as are not built, and those that can
be built next are exactly the projects that are not built and whose
dependencies are. It holds before anything is built (`sound_start`) and is kept
by building the least project (`Sound.buildNext`). Without cycles it leaves a
project to build until all of them are built (`Sound.perm_of_ready_nil`).
-/

namespace SolutionScript.BuildOrder

/-- In an order, each dependency of a project comes before it. -/
def DependenciesFirst (l : List Project) : Prop :=
  ∀ before p after, l = before ++ p :: after → ∀ id ∈ p.dependencies, ∃ q ∈ before, q.id = id

/-- A project that is not built, while its dependencies are. -/
def Available (ps built : List Project) (p : Project) : Prop :=
  p ∈ ps ∧ p ∉ built ∧ ∀ id ∈ p.dependencies, ∃ q ∈ built, q.id = id

/-- The number of dependencies of a project that are not built. -/
def unbuilt (built : List Project) (p : Project) : ℕ :=
  p.dependencies.countP fun id => id ∉ built.map (·.id)

/-- What holds between the projects that are built, those that can be built and
those that are waiting. -/
structure Sound (ps : List Project) (s : Progress) : Prop where
  waiting : ∀ p ∈ ps, s.waiting.get? p.id = some (unbuilt s.built p : ℤ)
  mem_ready : ∀ p, p ∈ s.ready ↔ Available ps s.built p
  ready_nodup : s.ready.Nodup
  built_mem : ∀ p ∈ s.built, p ∈ ps
  built_nodup : s.built.Nodup
  built_first : DependenciesFirst s.built.reverse

variable {ps : List Project}

/-! ## Orders and counts -/

theorem dependenciesFirst_nil : DependenciesFirst [] := by
  intro before p after h
  simp at h

/-- A project can be added to an order that has its dependencies. -/
theorem DependenciesFirst.concat {l : List Project} (h : DependenciesFirst l) {p : Project}
    (hp : ∀ id ∈ p.dependencies, ∃ q ∈ l, q.id = id) : DependenciesFirst (l ++ [p]) := by
  intro before q after hsplit
  rcases List.eq_nil_or_concat' after with rfl | ⟨after, r, rfl⟩
  · obtain ⟨rfl, hpq⟩ := List.append_inj' hsplit rfl
    obtain rfl : p = q := by simpa using hpq
    exact hp
  · rw [← List.cons_append, ← List.append_assoc] at hsplit
    exact h before q after (List.append_inj' hsplit rfl).1

theorem unbuilt_eq_zero {built : List Project} {p : Project} :
    unbuilt built p = 0 ↔ ∀ id ∈ p.dependencies, ∃ q ∈ built, q.id = id := by
  simp [unbuilt, List.countP_eq_zero]

theorem countP_not_mem_cons {l built : List String} {id : String} (h : id ∉ l) :
    (l.countP fun x => x ∉ id :: built) = l.countP fun x => x ∉ built := by
  refine List.countP_congr fun x hx => ?_
  have hne : x ≠ id := fun hc => h (hc ▸ hx)
  simp [hne]

theorem countP_not_mem_cons_add_one {l built : List String} {id : String} (hl : l.Nodup)
    (hid : id ∉ built) (h : id ∈ l) :
    (l.countP fun x => x ∉ id :: built) + 1 = l.countP fun x => x ∉ built := by
  induction l with
  | nil => simp at h
  | cons x l ih =>
    rw [List.nodup_cons] at hl
    rw [List.countP_cons, List.countP_cons]
    by_cases hx : x = id
    · subst hx
      rw [countP_not_mem_cons hl.1]
      simp [hid]
    · rw [← ih hl.2 ((List.mem_cons.1 h).resolve_left (Ne.symm hx))]
      simp only [List.mem_cons, hx, false_or]
      omega

theorem unbuilt_cons_of_not_mem {built : List Project} {p q : Project}
    (h : q.id ∉ p.dependencies) : unbuilt (q :: built) p = unbuilt built p :=
  countP_not_mem_cons h

/-- Building a project leaves one dependency less to each project that depends on
it. -/
theorem unbuilt_cons_of_mem {built : List Project} {p q : Project}
    (hq : q.id ∉ built.map (·.id)) (h : q.id ∈ p.dependencies) :
    unbuilt (q :: built) p + 1 = unbuilt built p :=
  countP_not_mem_cons_add_one p.dependencies_nodup hq h

/-! ## Releasing projects -/

theorem foldl_release_built (qs : List Project) (s : Progress) :
    (qs.foldl release s).built = s.built := by
  induction qs generalizing s with
  | nil => rfl
  | cons q qs ih => exact ih _

/-- Releasing different projects takes one off what each of them waits for. -/
theorem get?_foldl_release {qs : List Project} (hid : (qs.map (·.id)).Nodup) (s : Progress)
    (id : String) :
    (qs.foldl release s).waiting.get? id =
      if id ∈ qs.map (·.id) then some ((s.waiting.get? id).getD 0 - 1)
      else s.waiting.get? id := by
  induction qs generalizing s with
  | nil => simp
  | cons q qs ih =>
    rw [List.map_cons, List.nodup_cons] at hid
    rw [List.foldl_cons, ih hid.2]
    by_cases hq : id = q.id
    · subst hq
      simp [hid.1, release]
    · have hput : (release s q).waiting.get? id = s.waiting.get? id :=
        Keyed.get?_put_of_ne _ _ hq
      simp [hq, hput]

/-- Releasing different projects adds those that waited for one project only. -/
theorem foldl_release_ready {qs : List Project} (hid : (qs.map (·.id)).Nodup) (s : Progress) :
    (qs.foldl release s).ready =
      s.ready ++ qs.filter fun q => (s.waiting.get? q.id).getD 0 - 1 = 0 := by
  induction qs generalizing s with
  | nil => simp
  | cons q qs ih =>
    rw [List.map_cons, List.nodup_cons] at hid
    rw [List.foldl_cons, ih hid.2, List.filter_cons]
    have hrest : (qs.filter fun r => ((release s q).waiting.get? r.id).getD 0 - 1 = 0) =
        qs.filter fun r => (s.waiting.get? r.id).getD 0 - 1 = 0 := by
      refine List.filter_congr fun r hr => ?_
      have hne : r.id ≠ q.id := fun hc => hid.1 (hc ▸ List.mem_map_of_mem hr)
      rw [show (release s q).waiting.get? r.id = s.waiting.get? r.id from
        Keyed.get?_put_of_ne _ _ hne]
    rw [hrest]
    by_cases hq : (s.waiting.get? q.id).getD 0 - 1 = 0
    · simp [release, hq]
    · simp [release, hq]

/-! ## Building a project -/

/-- The least of some projects is one of them, and none of them is less. -/
theorem least_spec (first : Project) (rest : List Project) :
    least first rest ∈ first :: rest ∧
      ∀ q ∈ first :: rest, (least first rest).readyKey ≤ q.readyKey := by
  induction rest generalizing first with
  | nil => simp [least]
  | cons p rest ih =>
    have hleast : least first (p :: rest) = least (if readyLe first p then first else p) rest := rfl
    rw [hleast]
    split
    · rename_i h
      obtain ⟨hmem, hle⟩ := ih first
      refine ⟨List.mem_cons.2 ((List.mem_cons.1 hmem).imp_right (List.mem_cons_of_mem _)), ?_⟩
      have hfirst := hle first (by simp)
      simp only [List.forall_mem_cons] at hle ⊢
      exact ⟨hle.1, hfirst.trans (readyLe_iff.1 h), hle.2⟩
    · rename_i h
      obtain ⟨hmem, hle⟩ := ih p
      refine ⟨List.mem_cons_of_mem _ hmem, ?_⟩
      have hpf : p.readyKey ≤ first.readyKey := le_of_not_ge fun hc => h (readyLe_iff.2 hc)
      simp only [List.forall_mem_cons] at hle ⊢
      exact ⟨hle.1.trans hpf, hle.1, hle.2⟩

theorem sound_start (hid : (ps.map (·.id)).Nodup) : Sound ps (start ps) := by
  have hbuilt : (start ps).built = [] := rfl
  have hwaiting : ∀ p ∈ ps, (start ps).waiting.get? p.id = some (unbuilt [] p : ℤ) := by
    intro p hp
    have hlen : unbuilt [] p = p.dependencies.length := by simp [unbuilt]
    rw [hlen]
    refine Keyed.get?_ofList ?_ (List.mem_map_of_mem hp)
    rw [List.map_map]
    exact hid
  have hready {p : Project} :
      p ∈ (start ps).ready ↔ p ∈ ps ∧ (start ps).waiting.get? p.id = some 0 := by
    simp [start]
  refine ⟨hwaiting, fun p => ?_, hid.of_map.filter _, by simp [hbuilt], by simp [hbuilt],
    dependenciesFirst_nil⟩
  rw [hready, hbuilt, Available, ← unbuilt_eq_zero]
  refine and_congr_right fun hp => ?_
  rw [hwaiting p hp]
  simp

section

variable (hid : (ps.map (·.id)).Nodup) {s : Progress} (h : Sound ps s)
include hid h

/-- A project is found in what is built by its identifier. -/
theorem Sound.mem_built_iff {p : Project} (hp : p ∈ ps) :
    p.id ∈ s.built.map (·.id) ↔ p ∈ s.built := by
  refine ⟨fun hc => ?_, fun hc => List.mem_map_of_mem hc⟩
  obtain ⟨q, hq, hqp⟩ := List.mem_map.1 hc
  exact List.inj_on_of_nodup_map hid (h.built_mem q hq) hp hqp ▸ hq

omit hid in
/-- What is built has all its dependencies built. -/
theorem Sound.dependencies_built {p : Project} (hp : p ∈ s.built) {id : String}
    (hdep : id ∈ p.dependencies) : ∃ q ∈ s.built, q.id = id := by
  obtain ⟨before, after, hsplit⟩ := List.append_of_mem (List.mem_reverse.2 hp)
  obtain ⟨q, hq, hqid⟩ := h.built_first before p after hsplit id hdep
  exact ⟨q, List.mem_reverse.1 (hsplit ▸ List.mem_append_left _ hq), hqid⟩

variable {first : Project} {rest : List Project} (hready : s.ready = first :: rest)
include hready

omit hid in
theorem Sound.available_least : Available ps s.built (least first rest) :=
  (h.mem_ready _).1 (hready ▸ (least_spec first rest).1)

/-- Building the least project, said without looking it up. -/
theorem Sound.buildNext_eq :
    buildNext ps s first rest =
      (ps.filter ((least first rest).id ∈ ·.dependencies)).foldl release
        { s with
          ready := s.ready.erase (least first rest)
          built := least first rest :: s.built } := by
  have hmem := (h.available_least hready).1
  rw [buildNext, (Project.withId?_eq_some hid).2 ⟨hmem, rfl⟩]
  rfl

theorem Sound.buildNext_built :
    (buildNext ps s first rest).built = least first rest :: s.built := by
  rw [h.buildNext_eq hid hready, foldl_release_built]

/-- The least project counts as built for those that depend on it. -/
theorem Sound.buildNext_waiting {p : Project} (hp : p ∈ ps) :
    (buildNext ps s first rest).waiting.get? p.id =
      some (unbuilt (least first rest :: s.built) p : ℤ) := by
  obtain ⟨hnext, hnew, -⟩ := h.available_least hready
  rw [h.buildNext_eq hid hready, get?_foldl_release ((List.filter_sublist.map _).nodup hid)]
  have hmem : p.id ∈ (ps.filter ((least first rest).id ∈ ·.dependencies)).map (·.id) ↔
      (least first rest).id ∈ p.dependencies := by
    rw [List.mem_map]
    constructor
    · rintro ⟨q, hq, hqp⟩
      obtain ⟨hq, hdep⟩ := List.mem_filter.1 hq
      rw [← List.inj_on_of_nodup_map hid hq hp hqp]
      simpa using hdep
    · intro hdep
      exact ⟨p, List.mem_filter.2 ⟨hp, by simpa using hdep⟩, rfl⟩
  by_cases hdep : (least first rest).id ∈ p.dependencies
  · have hcount := unbuilt_cons_of_mem (mt (h.mem_built_iff hid hnext).1 hnew) hdep
    rw [if_pos (hmem.2 hdep), h.waiting p hp, ← hcount]
    simp
  · rw [if_neg (mt hmem.1 hdep), h.waiting p hp, unbuilt_cons_of_not_mem hdep]

/-- Building the least project leaves those to build next that were there before,
and adds those that waited for it alone. -/
theorem Sound.buildNext_ready :
    (buildNext ps s first rest).ready = s.ready.erase (least first rest) ++
      (ps.filter ((least first rest).id ∈ ·.dependencies)).filter
        fun p => unbuilt s.built p = 1 := by
  rw [h.buildNext_eq hid hready, foldl_release_ready ((List.filter_sublist.map _).nodup hid)]
  refine congrArg _ (List.filter_congr fun p hp => ?_)
  rw [h.waiting p (List.mem_filter.1 hp).1, Option.getD_some, decide_eq_decide]
  omega

/-- After building the least project those can be built whose dependencies are built
now. -/
theorem Sound.mem_buildNext_ready {p : Project} :
    p ∈ (buildNext ps s first rest).ready ↔ Available ps (least first rest :: s.built) p := by
  have hnext := h.available_least hready
  have hnew := mt (h.mem_built_iff hid hnext.1).1 hnext.2.1
  rw [h.buildNext_ready hid hready, List.mem_append, h.ready_nodup.mem_erase_iff, h.mem_ready]
  simp only [List.mem_filter, decide_eq_true_eq]
  constructor
  · rintro (⟨hne, hp, hpb, hdeps⟩ | ⟨⟨hp, hdep⟩, hone⟩)
    · refine ⟨hp, by simp [hne, hpb], fun id hid => ?_⟩
      obtain ⟨q, hq, hqid⟩ := hdeps id hid
      exact ⟨q, List.mem_cons_of_mem _ hq, hqid⟩
    · have hcount := unbuilt_cons_of_mem hnew hdep
      refine ⟨hp, fun hc => ?_, unbuilt_eq_zero.1 (by omega)⟩
      -- What is built, the least project included, waited for nothing.
      have hdeps : ∃ q ∈ s.built, q.id = (least first rest).id := by
        rcases List.mem_cons.1 hc with rfl | hc
        · exact hnext.2.2 _ hdep
        · exact h.dependencies_built hc hdep
      exact hnew (List.mem_map.2 hdeps)
  · rintro ⟨hp, hpb, hdeps⟩
    rw [List.mem_cons, not_or] at hpb
    by_cases hdep : (least first rest).id ∈ p.dependencies
    · have hcount := unbuilt_cons_of_mem hnew hdep
      rw [unbuilt_eq_zero.2 hdeps] at hcount
      exact .inr ⟨⟨hp, hdep⟩, hcount.symm⟩
    · refine .inl ⟨hpb.1, hp, hpb.2, unbuilt_eq_zero.1 ?_⟩
      rw [← unbuilt_cons_of_not_mem hdep, unbuilt_eq_zero.2 hdeps]

theorem Sound.nodup_buildNext_ready : (buildNext ps s first rest).ready.Nodup := by
  rw [h.buildNext_ready hid hready]
  refine List.nodup_append.2 ⟨h.ready_nodup.erase _, (hid.of_map.filter _).filter _, ?_⟩
  rintro p hp q hq rfl
  have hzero := unbuilt_eq_zero.2 ((h.mem_ready p).1 (List.mem_of_mem_erase hp)).2.2
  have hone : unbuilt s.built p = 1 := by simpa using (List.mem_filter.1 hq).2
  omega

/-- Building the least project that can be built keeps what holds of the progress. -/
theorem Sound.buildNext : Sound ps (buildNext ps s first rest) := by
  have hnext := h.available_least hready
  refine ⟨fun p hp => ?_, fun p => ?_, h.nodup_buildNext_ready hid hready, ?_, ?_, ?_⟩
  all_goals rw [h.buildNext_built hid hready]
  · exact h.buildNext_waiting hid hready hp
  · exact h.mem_buildNext_ready hid hready
  · exact List.forall_mem_cons.2 ⟨hnext.1, h.built_mem⟩
  · exact List.nodup_cons.2 ⟨hnext.2.1, h.built_nodup⟩
  · rw [List.reverse_cons]
    exact h.built_first.concat fun id hdep => by simpa using hnext.2.2 id hdep

end

/-! ## The end -/

/-- As many projects as there are have been built: all of them. -/
theorem Sound.perm_of_length_le {s : Progress} (h : Sound ps s)
    (hlen : ps.length ≤ s.built.length) : s.built.Perm ps :=
  (h.built_nodup.subperm h.built_mem).perm_of_length_le hlen

/-- Where nothing can be built, all projects have been built, or else there is a
cycle. -/
theorem Sound.perm_of_ready_nil {s : Progress} (h : Sound ps s) (hid : (ps.map (·.id)).Nodup)
    (hres : Resolved ps) (hcycle : ¬ HasCycle ps) (hready : s.ready = []) : s.built.Perm ps := by
  have hall : ∀ p ∈ ps, p ∈ s.built := by
    by_contra hne
    push Not at hne
    obtain ⟨p, ⟨hp, hpb⟩, hmin⟩ := exists_independent hcycle (P := fun p => p ∈ ps ∧ p ∉ s.built)
      (fun _ h => h.1) hne
    -- This project could be built.
    have havail : Available ps s.built p := by
      refine ⟨hp, hpb, fun id hdep => ?_⟩
      obtain ⟨q, hq, rfl⟩ := hres p hp id hdep
      exact ⟨q, not_not.1 fun hqb => hmin q ⟨hp, hq, hdep⟩ ⟨hq, hqb⟩, rfl⟩
    simpa [hready] using (h.mem_ready p).2 havail
  exact (List.perm_ext_iff_of_nodup h.built_nodup hid.of_map).2 fun p => ⟨h.built_mem p, hall p⟩

end SolutionScript.BuildOrder
