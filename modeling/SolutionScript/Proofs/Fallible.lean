import Mathlib.Data.List.Forall2

/-!
# Computations that may fail

Laws of `Except`: when a sequence of steps succeeds (`bind_eq_ok`,
`mapM_eq_ok`, `mem_of_filterM_eq_ok`), what a fold that succeeds keeps
(`foldlM_induction`) or puts at the end of a list (`foldlM_append`), and
computations that fail in known ways only (`FailsWith`).
-/

namespace SolutionScript.Fallible

variable {ε α β γ : Type}

theorem bind_eq_ok {x : Except ε α} {f : α → Except ε β} {b : β} :
    x >>= f = .ok b ↔ ∃ a, x = .ok a ∧ f a = .ok b := by
  cases x <;> simp [bind, Except.bind]

theorem map_eq_ok {x : Except ε α} {f : α → β} {b : β} :
    x.map f = .ok b ↔ ∃ a, x = .ok a ∧ f a = b := by
  cases x <;> simp [Except.map]

theorem map_eq_error {x : Except ε α} {f : α → β} {e : ε} (h : x.map f = .error e) :
    x = .error e := by
  cases x with
  | error e' =>
    cases h
    rfl
  | ok a => cases h

/-- Where a check comes first, a result means that the check was passed. -/
theorem ite_error_eq_ok {c : Prop} [Decidable c] {e : ε} {x : Except ε α} {a : α} :
    (if c then .error e else x) = .ok a ↔ ¬ c ∧ x = .ok a := by
  by_cases h : c
  · simp [h]
  · simp [h]

/-! ## Lists -/

/-- A step for each member of a list succeeds if and only if all of them do. -/
theorem mapM_eq_ok {f : α → Except ε β} {l : List α} {r : List β} :
    l.mapM f = .ok r ↔ List.Forall₂ (fun a b => f a = .ok b) l r := by
  induction l generalizing r with
  | nil => simp [pure, Except.pure, eq_comm]
  | cons a l ih =>
    simp only [List.mapM_cons, bind_eq_ok, ih, List.forall₂_cons_left_iff, pure, Except.pure,
      Except.ok.injEq]
    constructor
    · rintro ⟨b, hb, r, hr, rfl⟩
      exact ⟨b, r, hb, hr, rfl⟩
    · rintro ⟨b, r, hb, hr, rfl⟩
      exact ⟨b, hb, r, hr, rfl⟩

theorem mapM_congr {f g : α → Except ε β} {l : List α} (h : ∀ a ∈ l, f a = g a) :
    l.mapM f = l.mapM g := by
  induction l with
  | nil => rfl
  | cons a l ih =>
    rw [List.forall_mem_cons] at h
    rw [List.mapM_cons, List.mapM_cons, h.1, ih h.2]

/-- Steps that end the same for related members of two lists. -/
theorem mapM_congr_forall₂ {γ : Type} {f : α → Except ε β} {g : γ → Except ε β} {l : List α}
    {l' : List γ} (h : List.Forall₂ (fun a c => g c = f a) l l') : l'.mapM g = l.mapM f := by
  induction h with
  | nil => rfl
  | cons hac _ ih => rw [List.mapM_cons, List.mapM_cons, hac, ih]

theorem exists_mapM_eq_ok {f : α → Except ε β} {l : List α} (h : ∀ a ∈ l, ∃ b, f a = .ok b) :
    ∃ r, l.mapM f = .ok r := by
  induction l with
  | nil => exact ⟨[], rfl⟩
  | cons a l ih =>
    obtain ⟨b, hb⟩ := h a (by simp)
    obtain ⟨r, hr⟩ := ih fun a ha => h a (by simp [ha])
    exact ⟨b :: r, mapM_eq_ok.2 (.cons hb (mapM_eq_ok.1 hr))⟩

theorem mem_iff_of_mapM_eq_ok {f : α → Except ε β} {l : List α} {r : List β} (h : l.mapM f = .ok r)
    {b : β} : b ∈ r ↔ ∃ a ∈ l, f a = .ok b := by
  rw [mapM_eq_ok] at h
  induction h with
  | nil => simp
  | cons ha _ ih => simp [ih, ha, eq_comm]

/-- Where a step succeeds for each member of a list, it succeeds for one of them. -/
theorem exists_of_mapM_eq_ok {f : α → Except ε β} {l : List α} {r : List β} (h : l.mapM f = .ok r)
    {a : α} (ha : a ∈ l) : ∃ b ∈ r, f a = .ok b := by
  rw [mapM_eq_ok] at h
  induction h with
  | nil => cases ha
  | cons hb _ ih =>
    rcases List.mem_cons.1 ha with rfl | ha
    · exact ⟨_, List.mem_cons_self, hb⟩
    · obtain ⟨b, hmem, hb⟩ := ih ha
      exact ⟨b, List.mem_cons_of_mem _ hmem, hb⟩

/-- Results of steps are pairwise related where the members are for which they are made. -/
theorem pairwise_of_mapM_eq_ok {f : α → Except ε β} {l : List α} {r : List β}
    (h : l.mapM f = .ok r) {S : α → α → Prop} {T : β → β → Prop} (hl : l.Pairwise S)
    (hT : ∀ a a' b b', f a = .ok b → f a' = .ok b' → S a a' → T b b') : r.Pairwise T := by
  have hmem {l : List α} {r : List β} (h : List.Forall₂ (fun a b => f a = .ok b) l r) :
      ∀ b ∈ r, ∃ a ∈ l, f a = .ok b := fun b => (mem_iff_of_mapM_eq_ok (mapM_eq_ok.2 h)).1
  rw [mapM_eq_ok] at h
  induction h with
  | nil => exact .nil
  | cons ha hrest ih =>
    rw [List.pairwise_cons] at hl
    refine .cons (fun b' hb' => ?_) (ih hl.2)
    obtain ⟨a', ha', hb'⟩ := hmem hrest b' hb'
    exact hT _ _ _ _ ha hb' (hl.1 a' ha')

/-- What no step changes is the same before and after. -/
theorem map_of_mapM_eq_ok {f : α → Except ε β} {l : List α} {r : List β} (h : l.mapM f = .ok r)
    {g : α → γ} {g' : β → γ} (hg : ∀ a b, f a = .ok b → g' b = g a) : r.map g' = l.map g := by
  rw [mapM_eq_ok] at h
  induction h with
  | nil => rfl
  | cons ha _ ih => rw [List.map_cons, List.map_cons, hg _ _ ha, ih]

/-- What is done with each result can be done with all of them afterwards. -/
theorem mapM_map_right (f : α → Except ε β) (g : β → γ) (l : List α) :
    (l.mapM fun a => (f a).map g) = (l.mapM f).map (List.map g) := by
  induction l with
  | nil => rfl
  | cons a l ih =>
    rw [List.mapM_cons, List.mapM_cons, ih]
    cases f a with
    | error e => rfl
    | ok b => cases l.mapM f <;> rfl

theorem mem_of_filterAuxM_eq_ok {f : α → Except ε Bool} {l kept r : List α}
    (h : l.filterAuxM f kept = .ok r) {a : α} (ha : a ∈ r) : a ∈ kept ∨ a ∈ l ∧ f a = .ok true := by
  induction l generalizing kept with
  | nil =>
    simp only [List.filterAuxM, pure, Except.pure, Except.ok.injEq] at h
    exact .inl (h ▸ ha)
  | cons b l ih =>
    rw [List.filterAuxM, bind_eq_ok] at h
    obtain ⟨keep, hkeep, h⟩ := h
    rcases ih h with hmem | ⟨hmem, hfits⟩
    · cases keep with
      | false => exact .inl hmem
      | true =>
        rcases List.mem_cons.1 hmem with rfl | hmem
        · exact .inr ⟨by simp, hkeep⟩
        · exact .inl hmem
    · exact .inr ⟨by simp [hmem], hfits⟩

/-- What a filter keeps fits. -/
theorem mem_of_filterM_eq_ok {f : α → Except ε Bool} {l r : List α} (h : l.filterM f = .ok r)
    {a : α} (ha : a ∈ r) : a ∈ l ∧ f a = .ok true := by
  rw [List.filterM, bind_eq_ok] at h
  obtain ⟨kept, hkept, h⟩ := h
  simp only [pure, Except.pure, Except.ok.injEq] at h
  have ha : a ∈ kept := by simpa [← h] using ha
  simpa using mem_of_filterAuxM_eq_ok hkept ha

theorem exists_of_filterAuxM_eq_ok {f : α → Except ε Bool} {l kept r : List α}
    (h : l.filterAuxM f kept = .ok r) :
    ∃ s : List α, s.Sublist l ∧ (∀ a ∈ l, f a = .ok true → a ∈ s) ∧ r = s.reverse ++ kept := by
  induction l generalizing kept with
  | nil =>
    cases h
    exact ⟨[], .slnil, by simp, rfl⟩
  | cons b l ih =>
    rw [List.filterAuxM, bind_eq_ok] at h
    obtain ⟨keep, hkeep, h⟩ := h
    obtain ⟨s, hsub, hall, rfl⟩ := ih h
    cases keep with
    | false =>
      refine ⟨s, hsub.cons b, fun a ha hfits => ?_, rfl⟩
      rcases List.mem_cons.1 ha with rfl | ha
      · cases hkeep.symm.trans hfits
      · exact hall a ha hfits
    | true =>
      refine ⟨b :: s, hsub.cons_cons b, fun a ha hfits => ?_, by simp⟩
      rcases List.mem_cons.1 ha with rfl | ha
      · exact List.mem_cons_self
      · exact List.mem_cons_of_mem b (hall a ha hfits)

/-- A filter keeps all that fits, in the order in which it is. -/
theorem filterM_eq_ok {f : α → Except ε Bool} {l r : List α} (h : l.filterM f = .ok r) :
    r.Sublist l ∧ ∀ a, a ∈ r ↔ a ∈ l ∧ f a = .ok true := by
  have hmem := fun a => mem_of_filterM_eq_ok h (a := a)
  rw [List.filterM, bind_eq_ok] at h
  obtain ⟨kept, hkept, h⟩ := h
  obtain ⟨s, hsub, hall, rfl⟩ := exists_of_filterAuxM_eq_ok hkept
  obtain rfl : s = r := by simpa [pure, Except.pure] using h
  exact ⟨hsub, fun a => ⟨hmem a, fun ha => hall a ha.1 ha.2⟩⟩

/-- A fold that succeeds keeps what each of its steps keeps. -/
theorem foldlM_induction {f : β → α → Except ε β} (P : β → Prop)
    {l : List α} (step : ∀ b, ∀ a ∈ l, ∀ c, P b → f b a = .ok c → P c) {b c : β} (hb : P b)
    (h : l.foldlM f b = .ok c) : P c := by
  induction l generalizing b with
  | nil =>
    simp only [List.foldlM_nil, pure, Except.pure, Except.ok.injEq] at h
    exact h ▸ hb
  | cons a l ih =>
    rw [List.foldlM_cons, bind_eq_ok] at h
    obtain ⟨b', hb', hc⟩ := h
    exact ih (fun b a ha => step b a (List.mem_cons_of_mem _ ha))
      (step b a List.mem_cons_self b' hb hb') hc

/-- A fold each of whose steps puts something at the end of a list puts all of it there, in
order. -/
theorem foldlM_append {f : β → α → Except ε β} {R : α → List γ → Prop} {k : β → List γ}
    {l : List α}
    (step : ∀ b, ∀ a ∈ l, ∀ c, f b a = .ok c → ∃ group, R a group ∧ k c = k b ++ group)
    {b c : β} (h : l.foldlM f b = .ok c) :
    ∃ groups, List.Forall₂ R l groups ∧ k c = k b ++ groups.flatten := by
  induction l generalizing b with
  | nil =>
    simp only [List.foldlM_nil, pure, Except.pure, Except.ok.injEq] at h
    exact ⟨[], .nil, by simp [h]⟩
  | cons a l ih =>
    rw [List.foldlM_cons, bind_eq_ok] at h
    obtain ⟨b', hb', hc⟩ := h
    obtain ⟨group, hgroup, hk⟩ := step b a List.mem_cons_self b' hb'
    obtain ⟨groups, hgroups, hrest⟩ :=
      ih (fun b a ha => step b a (List.mem_cons_of_mem _ ha)) hc
    exact ⟨group :: groups, .cons hgroup hgroups, by
      rw [hrest, hk, List.flatten_cons, List.append_assoc]⟩

/-! ## Kinds of failures -/

/-- If a computation fails, the failure is of a kind. -/
def FailsWith (P : ε → Prop) (x : Except ε α) : Prop := ∀ e, x = .error e → P e

namespace FailsWith

variable {P : ε → Prop}

theorem ok (a : α) : FailsWith P (.ok a : Except ε α) := fun _ h => by cases h

theorem error {e : ε} (h : P e) : FailsWith P (.error e : Except ε α) := fun _ h' => by
  cases h'; exact h

theorem mono {Q : ε → Prop} {x : Except ε α} (hx : FailsWith P x) (h : ∀ e, P e → Q e) :
    FailsWith Q x :=
  fun e he => h e (hx e he)

theorem bind {x : Except ε α} {f : α → Except ε β} (hx : FailsWith P x)
    (hf : ∀ a, x = .ok a → FailsWith P (f a)) : FailsWith P (x >>= f) := by
  cases x with
  | error e => exact error (hx e rfl)
  | ok a => exact hf a rfl

theorem map {x : Except ε α} (f : α → β) (hx : FailsWith P x) : FailsWith P (x.map f) := by
  cases x with
  | error e => exact error (hx e rfl)
  | ok a => exact ok _

theorem mapM {f : α → Except ε β} {l : List α} (h : ∀ a ∈ l, FailsWith P (f a)) :
    FailsWith P (l.mapM f) := by
  induction l with
  | nil => exact ok _
  | cons a l ih =>
    rw [List.mapM_cons]
    exact (h a (by simp)).bind fun b _ => (ih fun a ha => h a (by simp [ha])).bind fun r _ => ok _

theorem filterAuxM {f : α → Except ε Bool} {l kept : List α} (h : ∀ a ∈ l, FailsWith P (f a)) :
    FailsWith P (l.filterAuxM f kept) := by
  induction l generalizing kept with
  | nil => exact ok _
  | cons a l ih =>
    rw [List.filterAuxM]
    exact (h a (by simp)).bind fun keep _ => ih fun a ha => h a (by simp [ha])

theorem filterM {f : α → Except ε Bool} {l : List α} (h : ∀ a ∈ l, FailsWith P (f a)) :
    FailsWith P (l.filterM f) :=
  (filterAuxM h).bind fun _ _ => ok _

theorem foldlM {f : β → α → Except ε β} {l : List α} {b : β}
    (h : ∀ b, ∀ a ∈ l, FailsWith P (f b a)) : FailsWith P (l.foldlM f b) := by
  induction l generalizing b with
  | nil => exact ok _
  | cons a l ih =>
    rw [List.foldlM_cons]
    exact (h b a (by simp)).bind fun c _ => ih fun b a ha => h b a (by simp [ha])

end FailsWith

end SolutionScript.Fallible
