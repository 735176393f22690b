import SolutionScript.Proofs.Graph.Outcome

/-!
# Members of a build order

A build order has only projects that were ordered (`mem_of_ofProjects`), also where two of them
have one identifier. The projects that one depends on are those with the identifiers that it
names, by index (`needs_of_dependencies`).
-/

namespace SolutionScript.BuildOrder

variable {ps : List Project}

/-- Everything in the progress of a build is one of the projects. -/
structure Among (ps : List Project) (s : Progress) : Prop where
  ready : ∀ p ∈ s.ready, p ∈ ps
  built : ∀ p ∈ s.built, p ∈ ps

theorem Among.release {s : Progress} (h : Among ps s) {p : Project} (hp : p ∈ ps) :
    Among ps (release s p) := by
  refine ⟨fun q hq => ?_, h.built⟩
  simp only [BuildOrder.release] at hq
  split at hq
  · rcases List.mem_append.1 hq with hq | hq
    · exact h.ready q hq
    · exact List.mem_singleton.1 hq ▸ hp
  · exact h.ready q hq

theorem Among.foldl_release {s : Progress} (h : Among ps s) {qs : List Project}
    (hqs : ∀ q ∈ qs, q ∈ ps) : Among ps (qs.foldl BuildOrder.release s) := by
  induction qs generalizing s with
  | nil => exact h
  | cons q qs ih =>
    rw [List.forall_mem_cons] at hqs
    exact ih (h.release hqs.1) hqs.2

theorem least_mem (first : Project) (rest : List Project) : least first rest ∈ first :: rest := by
  induction rest generalizing first with
  | nil => simp [least]
  | cons q rest ih =>
    have hmem := ih (if readyLe first q then first else q)
    rw [least, List.foldl_cons, ← least]
    split_ifs at hmem ⊢
    · exact (List.cons_subset_cons first (List.subset_cons_self q rest)) hmem
    · exact List.mem_cons_of_mem first hmem

theorem Among.buildNext {s : Progress} (h : Among ps s) {first : Project} {rest : List Project}
    (hready : s.ready = first :: rest) : Among ps (buildNext ps s first rest) := by
  have hnext : least first rest ∈ ps := h.ready _ (hready ▸ least_mem first rest)
  refine Among.foldl_release ⟨fun p hp => h.ready p (List.mem_of_mem_erase hp), ?_⟩
    fun q hq => (List.mem_filter.1 hq).1
  refine List.forall_mem_cons.2 ⟨?_, h.built⟩
  cases hid : Project.withId? ps (least first rest).id with
  | none => exact hnext
  | some q => exact List.mem_reverse.1 (List.mem_of_find?_eq_some hid)

theorem Among.buildAll {s : Progress} (h : Among ps s) (limit : ℕ) :
    ∀ p ∈ buildAll ps limit s, p ∈ ps := by
  induction limit generalizing s with
  | zero => simpa [BuildOrder.buildAll] using h.built
  | succ limit ih =>
    rw [BuildOrder.buildAll]
    split
    · simpa using h.built
    · rename_i first rest hready
      exact ih (h.buildNext hready)

/-- A build order has only projects that were ordered. -/
theorem mem_of_ofProjects {o : BuildOrder} (h : ofProjects ps = .ok o) {p : Project}
    (hp : p ∈ o.projects) : p ∈ ps := by
  rw [ofProjects] at h
  split at h
  · cases h
  · split at h
    · cases h
    · cases h
    · cases h
      exact Among.buildAll ⟨fun q hq => (List.mem_filter.1 hq).1, by simp [start]⟩ _ p hp

/-! ## Dependencies -/

/-- The projects that one depends on, by index. -/
structure Needs (o : BuildOrder) (p : Project) (needed : List Project) : Prop where
  found : (p.dependencies.map o.project?).Perm (needed.map some)
  sorted : needed.Pairwise fun q r => q.index ≤ r.index

theorem needs_of_dependencies {o : BuildOrder} {p : Project} {needed : List Project}
    (h : o.dependencies p = .ok needed) : Needs o p needed := by
  obtain ⟨found, hfound, rfl⟩ := Fallible.map_eq_ok.1 h
  have hproject : found.map some = p.dependencies.map o.project? := by
    refine Fallible.map_of_mapM_eq_ok hfound fun id q hq => ?_
    rw [find] at hq
    cases hid : o.project? id with
    | none => simp [hid] at hq
    | some r => simpa [hid, eq_comm] using hq
  constructor
  · rw [← hproject]
    exact (List.mergeSort_perm found _).symm.map some
  · exact pairwise_mergeSort_of_key (·.index) (fun _ _ => decide_eq_true_iff) found

theorem Needs.mem {o : BuildOrder} {p : Project} {needed : List Project} (h : Needs o p needed)
    {q : Project} (hq : q ∈ needed) : q ∈ o.projects := by
  have hmem : some q ∈ p.dependencies.map o.project? := h.found.mem_iff.2 (List.mem_map_of_mem hq)
  obtain ⟨id, -, hid⟩ := List.mem_map.1 hmem
  exact List.mem_of_find?_eq_some hid

/-- Where identifiers differ, what a project depends on comes before it. -/
theorem Needs.mem_before {o : BuildOrder} {p : Project} {needed : List Project}
    (h : Needs o p needed) (hid : (o.projects.map (·.id)).Nodup)
    (hfirst : DependenciesFirst o.projects) {before after : List Project}
    (hsplit : o.projects = before ++ p :: after) {q : Project} (hq : q ∈ needed) : q ∈ before := by
  have hmem : some q ∈ p.dependencies.map o.project? := h.found.mem_iff.2 (List.mem_map_of_mem hq)
  obtain ⟨id, hdep, hproject⟩ := List.mem_map.1 hmem
  obtain ⟨r, hr, hrid⟩ := hfirst before p after hsplit id hdep
  have hqid : q.id = id := by simpa using List.find?_some hproject
  have hrmem : r ∈ o.projects := hsplit ▸ List.mem_append_left _ hr
  exact List.inj_on_of_nodup_map hid hrmem (h.mem hq) (hrid.trans hqid.symm) ▸ hr

/-- The projects that one depends on, none if one of them is missing. -/
def needed (o : BuildOrder) (p : Project) : List Project := (o.dependencies p).toOption.getD []

theorem needed_eq {o : BuildOrder} {p : Project} {found : List Project}
    (h : o.dependencies p = .ok found) : o.needed p = found := by
  rw [needed, h]
  rfl

theorem dependencies_needed {o : BuildOrder} {p : Project}
    (h : ∃ found, o.dependencies p = .ok found) : o.dependencies p = .ok (o.needed p) := by
  obtain ⟨found, hfound⟩ := h
  rw [needed_eq hfound, hfound]

/-- Something can be made of projects, each with those that it depends on, if and only if none of
these is missing. -/
theorem mapM_dependencies {α : Type} {o : BuildOrder} {f : Project → List Project → α}
    {qs : List Project} {l : List α} :
    qs.mapM (fun p => (o.dependencies p).map (f p)) = .ok l ↔
      (∀ p ∈ qs, o.dependencies p = .ok (o.needed p)) ∧ l = qs.map fun p => f p (o.needed p) := by
  rw [Fallible.mapM_eq_ok]
  constructor
  · intro h
    induction h with
    | nil => simp
    | @cons p a qs l hp _ ih =>
      obtain ⟨found, hfound, rfl⟩ := Fallible.map_eq_ok.1 hp
      obtain rfl := needed_eq hfound
      exact ⟨List.forall_mem_cons.2 ⟨hfound, ih.1⟩, congrArg _ ih.2⟩
  · rintro ⟨h, rfl⟩
    rw [List.forall₂_map_right_iff, List.forall₂_same]
    exact fun p hp => Fallible.map_eq_ok.2 ⟨_, h p hp, rfl⟩

end SolutionScript.BuildOrder
