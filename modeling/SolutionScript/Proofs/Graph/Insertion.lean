import SolutionScript.Proofs.Graph.Members

/-!
# Adding a project that no other depends on

A project on which none of some projects depends can be added to them at any place, and their order
stays as it was, with the new project somewhere in between (`ofProjects_insert`). The two orders are
compared by leastness alone (`IsLeastOrder.eq_insert`). Without the new project, the new order is an
order of the old projects. If it was not the least one, the new project could be added to that,
either where it stands in the new order or at the end, and the result would be less than the new
order.
-/

namespace SolutionScript.BuildOrder

open Relation

variable {ps qs : List Project} {x : Project}

/-- A project with an identifier of its own, all dependencies of which are among some projects,
while none of these depends on it. -/
structure IsTopmost (ps : List Project) (x : Project) : Prop where
  id_ne : ∀ p ∈ ps, p.id ≠ x.id
  resolved : ∀ id ∈ x.dependencies, ∃ q ∈ ps, q.id = id
  not_needed : ∀ p ∈ ps, x.id ∉ p.dependencies

theorem IsTopmost.of_perm {l : List Project} (h : IsTopmost ps x) (hperm : l.Perm ps) :
    IsTopmost l x := by
  obtain ⟨hne, hres, hnot⟩ := h
  refine ⟨fun p hp => hne p (hperm.mem_iff.1 hp), fun id hdep => ?_,
    fun p hp => hnot p (hperm.mem_iff.1 hp)⟩
  obtain ⟨q, hq, hqid⟩ := hres id hdep
  exact ⟨q, hperm.mem_iff.2 hq, hqid⟩

theorem IsTopmost.nodup_ids (h : IsTopmost ps x) (hqs : qs.Perm (x :: ps))
    (hid : (ps.map (·.id)).Nodup) : (qs.map (·.id)).Nodup := by
  rw [(hqs.map _).nodup_iff, List.map_cons, List.nodup_cons]
  refine ⟨fun hx => ?_, hid⟩
  obtain ⟨p, hp, hpx⟩ := List.mem_map.1 hx
  exact h.id_ne p hp hpx

/-! ## Orders -/

theorem dependenciesFirst_concat {l : List Project} {p : Project} :
    DependenciesFirst (l ++ [p]) ↔
      DependenciesFirst l ∧ ∀ id ∈ p.dependencies, ∃ q ∈ l, q.id = id := by
  refine ⟨fun h => ⟨fun before q after hsplit => ?_, h l p [] rfl⟩, fun h => h.1.concat h.2⟩
  exact h before q (after ++ [p]) (by simp [hsplit])

/-- A project that nothing after it depends on can be taken out of an order, or put into it after
its dependencies. -/
theorem dependenciesFirst_insert {earlier later : List Project}
    (hnot : ∀ q ∈ later, x.id ∉ q.dependencies) :
    DependenciesFirst (earlier ++ x :: later) ↔
      DependenciesFirst (earlier ++ later) ∧ ∀ id ∈ x.dependencies, ∃ q ∈ earlier, q.id = id := by
  induction later using List.reverseRecOn with
  | nil => rw [List.append_nil, dependenciesFirst_concat]
  | append_singleton later q ih =>
    rw [List.forall_mem_append, List.forall_mem_singleton] at hnot
    have hdeps : (∀ id ∈ q.dependencies, ∃ r ∈ earlier ++ x :: later, r.id = id) ↔
        ∀ id ∈ q.dependencies, ∃ r ∈ earlier ++ later, r.id = id := by
      refine forall₂_congr fun id hdep => ?_
      have hne : x.id ≠ id := fun heq => hnot.2 (heq ▸ hdep)
      simp [or_and_right, exists_or, hne]
    rw [← List.cons_append, ← List.append_assoc, ← List.append_assoc, dependenciesFirst_concat,
      dependenciesFirst_concat, ih hnot.1, hdeps]
    tauto

theorem append_lt_append_left_iff {κ : Type} [LinearOrder κ] (l : List κ) {a b : List κ} :
    l ++ a < l ++ b ↔ a < b := by
  induction l with
  | nil => rfl
  | cons k l ih => simp [ih]

/-- Where a list is less than another one and does not start with some part of it, what comes after
that part does not matter. -/
theorem readyKey_lt_of_not_prefix (hid : (ps.map (·.id)).Nodup) {part order more : List Project}
    (hpart : ∀ p ∈ part, p ∈ ps) (horder : ∀ p ∈ order, p ∈ ps) (hlen : part.length ≤ order.length)
    (hnot : ¬ part <+: order)
    (h : order.map (·.readyKey) < (part ++ more).map (·.readyKey)) (l l' : List Project) :
    (order ++ l).map (·.readyKey) < (part ++ l').map (·.readyKey) := by
  induction part generalizing order with
  | nil => exact absurd List.nil_prefix hnot
  | cons p part ih =>
    cases order with
    | nil => simp at hlen
    | cons q order =>
      rw [List.forall_mem_cons] at hpart horder
      simp only [List.cons_append, List.map_cons, List.cons_lt_cons_iff] at h ⊢
      rcases h with hlt | ⟨heq, hlt⟩
      · exact .inl hlt
      · obtain rfl := eq_of_readyKey_eq hid horder.1 hpart.1 heq
        rw [List.prefix_cons_inj] at hnot
        exact .inr ⟨rfl, ih hpart.2 horder.2 (by simpa using hlen) hnot hlt⟩

/-- An added project that none of the others depends on leaves these in their order. -/
theorem IsLeastOrder.eq_insert (hid : (ps.map (·.id)).Nodup) (hx : IsTopmost ps x)
    (hqs : qs.Perm (x :: ps)) {order earlier later : List Project}
    (hold : IsLeastOrder ps [] order) (hnew : IsLeastOrder qs [] (earlier ++ x :: later)) :
    order = earlier ++ later := by
  have hperm : (earlier ++ later).Perm ps :=
    (List.perm_middle.symm.trans (hnew.perm.trans hqs)).cons_inv
  have hcons : (x :: order).Perm qs := (hold.perm.cons x).trans hqs.symm
  have htop : IsTopmost order x := hx.of_perm hold.perm
  have hlater : ∀ q ∈ later, x.id ∉ q.dependencies := fun q hq =>
    hx.not_needed q (hperm.mem_iff.1 (List.mem_append_right _ hq))
  obtain ⟨hfirst, hdeps⟩ := (dependenciesFirst_insert hlater).1 hnew.dependencies_first
  rcases hold.least _ hperm hfirst List.nil_prefix with heq | hless
  · exact heq.symm
  exfalso
  by_cases hbefore : earlier <+: order
  · -- The new project can be added where it stands in the new order.
    obtain ⟨rest, rfl⟩ := hbefore
    have hinsert : DependenciesFirst (earlier ++ x :: rest) :=
      (dependenciesFirst_insert fun q hq => htop.not_needed q (List.mem_append_right _ hq)).2
        ⟨hold.dependencies_first, hdeps⟩
    have hle := hnew.least _ (List.perm_middle.trans hcons) hinsert List.nil_prefix
    simp only [List.append_cancel_left_eq, List.cons.injEq, true_and, List.map_append,
      List.map_cons, append_lt_append_left_iff, List.cons_lt_cons_iff, lt_irrefl, false_or]
      at hle hless
    rcases hle with rfl | hmore
    · exact lt_irrefl _ hless
    · exact hless.asymm hmore
  · -- The new project can be added at the end.
    have hconcat : DependenciesFirst (order ++ [x]) := hold.dependencies_first.concat htop.resolved
    have hlen : earlier.length ≤ order.length := by
      rw [hold.perm.length_eq, ← hperm.length_eq, List.length_append]
      exact Nat.le_add_right _ _
    have hlt := readyKey_lt_of_not_prefix hid
      (fun p hp => hperm.mem_iff.1 (List.mem_append_left _ hp)) (fun p hp => hold.perm.mem_iff.1 hp)
      hlen hbefore hless [x] (x :: later)
    rcases hnew.least _ ((List.perm_append_singleton x order).trans hcons) hconcat
      List.nil_prefix with heq | hmore
    · rw [heq] at hlt
      exact lt_irrefl _ hlt
    · exact hlt.asymm hmore

/-! ## Ordering with the new project -/

/-- No project depends on the new one, and those of the old projects that depend on each other did
so before. -/
theorem IsTopmost.dependsOn (hx : IsTopmost ps x) (hqs : qs.Perm (x :: ps)) {p q : Project}
    (h : DependsOn qs p q) : q ∈ ps ∧ (p = x ∨ DependsOn ps p q) := by
  obtain ⟨hp, hq, hdep⟩ := h
  rw [hqs.mem_iff, List.mem_cons] at hp hq
  have hqx : q ≠ x := by
    rintro rfl
    rcases hp with rfl | hp
    · obtain ⟨r, hr, hrx⟩ := hx.resolved _ hdep
      exact hx.id_ne r hr hrx
    · exact hx.not_needed p hp hdep
  have hq := hq.resolve_left hqx
  exact ⟨hq, hp.imp_right fun hp => ⟨hp, hq, hdep⟩⟩

theorem IsTopmost.not_hasCycle (hx : IsTopmost ps x) (hqs : qs.Perm (x :: ps))
    (h : ¬ HasCycle ps) : ¬ HasCycle qs := by
  have hne : ∀ p ∈ ps, p ≠ x := fun p hp hpx => hx.id_ne p hp (hpx ▸ rfl)
  have hwalk {p q : Project} (hpq : TransGen (DependsOn qs) p q) (hp : p ∈ ps) :
      TransGen (DependsOn ps) p q := by
    induction hpq using TransGen.head_induction_on with
    | single hdep => exact .single ((hx.dependsOn hqs hdep).2.resolve_left (hne _ hp))
    | head hdep _ ih =>
      obtain ⟨hmem, hdep⟩ := hx.dependsOn hqs hdep
      exact (ih hmem).head (hdep.resolve_left (hne _ hp))
  rintro ⟨p, hp⟩
  -- What the walk ends at is an old project, so the walk starts at one.
  obtain ⟨r, -, hrp⟩ := TransGen.tail'_iff.1 hp
  exact h ⟨p, hwalk hp (hx.dependsOn hqs hrp).1⟩

theorem IsTopmost.resolved_insert (hx : IsTopmost ps x) (hqs : qs.Perm (x :: ps))
    (h : Resolved ps) : Resolved qs := by
  intro p hp id hdep
  have hfound : ∃ q ∈ ps, q.id = id := by
    rcases List.mem_cons.1 (hqs.mem_iff.1 hp) with rfl | hp
    · exact hx.resolved id hdep
    · exact h p hp id hdep
  obtain ⟨q, hq, hqid⟩ := hfound
  exact ⟨q, hqs.mem_iff.2 (List.mem_cons_of_mem x hq), hqid⟩

/-- An identifier other than that of the new project stands for the same project as before. -/
theorem project?_insert {earlier later : List Project} {id : String} (h : id ≠ x.id) :
    project? ⟨earlier ++ x :: later⟩ id = project? ⟨earlier ++ later⟩ id := by
  simp [project?, List.find?_append, h.symm]

theorem dependencies_insert {earlier later : List Project} {p : Project}
    (h : x.id ∉ p.dependencies) :
    dependencies ⟨earlier ++ x :: later⟩ p = dependencies ⟨earlier ++ later⟩ p := by
  have hfind : p.dependencies.mapM (find ⟨earlier ++ x :: later⟩) =
      p.dependencies.mapM (find ⟨earlier ++ later⟩) := by
    refine Fallible.mapM_congr fun id hdep => ?_
    rw [find, find, project?_insert fun hid => h (hid ▸ hdep)]
  rw [dependencies, dependencies, hfind]

/-- Where projects can be ordered, so they can with a project added at any place, if it has an
identifier of its own, all its dependencies are among the projects and none of them depends on it.
Taken out of the new order, it leaves the old one. What the old projects depend on is the same, so
of a script all that is written for one of them stays as it was. -/
theorem ofProjects_insert {before after : List Project}
    (hid : ((before ++ after).map (·.id)).Nodup) (hx : IsTopmost (before ++ after) x)
    {o : BuildOrder} (h : ofProjects (before ++ after) = .ok o) :
    ∃ earlier later, o.projects = earlier ++ later ∧
      ofProjects (before ++ x :: after) = .ok ⟨earlier ++ x :: later⟩ ∧
      ∀ p ∈ o.projects, dependencies ⟨earlier ++ x :: later⟩ p = o.dependencies p := by
  obtain ⟨hres, hcycle, hold⟩ := ofProjects_eq_ok hid h
  have hqs : (before ++ x :: after).Perm (x :: (before ++ after)) := List.perm_middle
  have hid' := hx.nodup_ids hqs hid
  obtain ⟨⟨order⟩, h'⟩ := (exists_ok_iff hid').2
    ⟨hx.resolved_insert hqs hres, hx.not_hasCycle hqs hcycle⟩
  have hnew := (ofProjects_eq_ok hid' h').2.2
  have hmem : x ∈ order := hnew.perm.mem_iff.2 (hqs.mem_iff.2 List.mem_cons_self)
  obtain ⟨earlier, later, rfl⟩ := List.append_of_mem hmem
  obtain ⟨projects⟩ := o
  obtain rfl := hold.eq_insert hid hx hqs hnew
  exact ⟨earlier, later, rfl, h', fun p hp =>
    dependencies_insert (hx.not_needed p (hold.perm.mem_iff.1 hp))⟩

/-- A library. -/
def coreLibrary : Project := { id := "C", name := "Core", path := "Core.csproj", index := 1 }

/-- A program that needs the library. -/
def coreProgram : Project :=
  ["C"].foldl .addDependency { id := "A", name := "App", path := "App.csproj" }

/-- Another program that needs the library. Its name comes first. -/
def addedProgram : Project :=
  ["C"].foldl .addDependency { id := "B", name := "About", path := "About.csproj", index := 2 }

theorem ofProjects_insert_program :
    ([coreProgram, coreLibrary].map (·.id)).Nodup ∧
      IsTopmost [coreProgram, coreLibrary] addedProgram ∧
      ofProjects [coreProgram, coreLibrary] = .ok ⟨[coreLibrary, coreProgram]⟩ ∧
      ofProjects [coreProgram, addedProgram, coreLibrary] =
        .ok ⟨[coreLibrary, addedProgram, coreProgram]⟩ ∧
      ∃ earlier later, [coreLibrary, coreProgram] = earlier ++ later ∧
        [coreLibrary, addedProgram, coreProgram] = earlier ++ addedProgram :: later := by
  have hid : ([coreProgram, coreLibrary].map (·.id)).Nodup := by decide
  have hadded : IsTopmost [coreProgram, coreLibrary] addedProgram :=
    ⟨by decide, by decide, by decide⟩
  have h : ofProjects [coreProgram, coreLibrary] = .ok ⟨[coreLibrary, coreProgram]⟩ := by
    rw [ofProjects_eq_arrange (by decide) (by cbv)]
    decide
  have hnew : ofProjects [coreProgram, addedProgram, coreLibrary] =
      .ok ⟨[coreLibrary, addedProgram, coreProgram]⟩ := by
    rw [ofProjects_eq_arrange (by decide) (by cbv)]
    decide
  obtain ⟨earlier, later, hold, hinsert, -⟩ :=
    @ofProjects_insert addedProgram [coreProgram] [coreLibrary] hid hadded _ h
  have hsplit := BuildOrder.mk.inj (Except.ok.inj (hnew.symm.trans hinsert))
  exact ⟨hid, hadded, h, hnew, earlier, later, hold, hsplit⟩

end SolutionScript.BuildOrder
