import Mathlib.Data.List.Perm.Basic
import Mathlib.Logic.Relation
import SolutionScript.Proofs.Fallible

/-!
# Two runs

Two computations that may fail end alike (`Alike`) if they give related results, or fail in related
ways. Each kind of step keeps this: one after the other, for each member of a list, or along a
list. Where all failures are of one kind, it does not matter in which order a list is gone
through, as long as nothing depends on the order of the results (`Alike.mapM_perm`,
`Alike.filterM_perm`).
-/

namespace SolutionScript.Fallible

variable {ε α β γ δ : Type}

/-- Two computations give related results, or fail in related ways. -/
inductive Alike (F : ε → ε → Prop) (R : α → β → Prop) : Except ε α → Except ε β → Prop
  | ok {a b} : R a b → Alike F R (.ok a) (.ok b)
  | error {e e'} : F e e' → Alike F R (.error e) (.error e')

/-- Two failures are of one kind. -/
def Both (P : ε → Prop) (e e' : ε) : Prop := P e ∧ P e'

namespace Alike

variable {F G : ε → ε → Prop} {R : α → β → Prop} {S : γ → δ → Prop} {P : ε → Prop}

theorem refl {x : Except ε α} (hF : ∀ e, F e e) : Alike F Eq x x := by
  cases x with
  | ok a => exact .ok rfl
  | error e => exact .error (hF e)

/-- A computation ends like itself if the failures that it has are related to themselves. -/
theorem refl_of_failsWith {x : Except ε α} (h : FailsWith P x) (hF : ∀ e, P e → F e e) :
    Alike F Eq x x := by
  cases x with
  | ok a => exact .ok rfl
  | error e => exact .error (hF e (h e rfl))

theorem of_failsWith {x : Except ε α} (h : FailsWith P x) : Alike (Both P) Eq x x :=
  refl_of_failsWith h fun _ he => ⟨he, he⟩

theorem failsWith {x : Except ε α} {y : Except ε β} (h : Alike (Both P) R x y) : FailsWith P y := by
  rintro e rfl
  cases h with
  | error h => exact h.2

theorem mono {T : α → β → Prop} {x : Except ε α} {y : Except ε β} (h : Alike F R x y)
    (hF : ∀ e e', F e e' → G e e') (hR : ∀ a b, R a b → T a b) : Alike G T x y := by
  cases h with
  | ok h => exact .ok (hR _ _ h)
  | error h => exact .error (hF _ _ h)

theorem trans {T : β → γ → Prop} {x : Except ε α} {y : Except ε β} {z : Except ε γ}
    (h : Alike (Both P) R x y) (h' : Alike (Both P) T y z) :
    Alike (Both P) (Relation.Comp R T) x z := by
  cases h with
  | ok h =>
    cases h' with
    | ok h' => exact .ok ⟨_, h, h'⟩
  | error h =>
    cases h' with
    | error h' => exact .error ⟨h.1, h'.2⟩

theorem bind {x : Except ε α} {y : Except ε β} {f : α → Except ε γ} {g : β → Except ε δ}
    (h : Alike F R x y) (hf : ∀ a b, R a b → Alike F S (f a) (g b)) :
    Alike F S (x >>= f) (y >>= g) := by
  cases h with
  | ok h => exact hf _ _ h
  | error h => exact .error h

/-- The same first step leads to steps that end alike. -/
theorem bind_same {x : Except ε α} {f : α → Except ε γ} {g : α → Except ε δ} (h : Alike F Eq x x)
    (hf : ∀ a, x = .ok a → Alike F S (f a) (g a)) : Alike F S (x >>= f) (x >>= g) := by
  cases h with
  | ok _ => exact hf _ rfl
  | error h => exact .error h

/-- Results that are related are results. -/
theorem with_left {x : Except ε α} {y : Except ε β} (h : Alike F R x y) :
    Alike F (fun a b => x = .ok a ∧ R a b) x y := by
  cases h with
  | ok h => exact .ok ⟨rfl, h⟩
  | error h => exact .error h

theorem map {x : Except ε α} {y : Except ε β} {f : α → γ} {g : β → δ} (h : Alike F R x y)
    (hf : ∀ a b, R a b → S (f a) (g b)) : Alike F S (x.map f) (y.map g) := by
  cases h with
  | ok h => exact .ok (hf _ _ h)
  | error h => exact .error h

/-! ## Lists -/

theorem mapM {f : γ → Except ε α} {g : γ → Except ε β} {l : List γ}
    (h : ∀ c ∈ l, Alike F R (f c) (g c)) : Alike F (List.Forall₂ R) (l.mapM f) (l.mapM g) := by
  induction l with
  | nil => exact .ok .nil
  | cons c l ih =>
    rw [List.mapM_cons, List.mapM_cons]
    refine (h c List.mem_cons_self).bind fun a b hab => ?_
    refine (ih fun c hc => h c (List.mem_cons_of_mem _ hc)).bind fun r s hrs => ?_
    exact .ok (.cons hab hrs)

/-- Along related lists, related steps keep what is related. -/
theorem foldlM_forall₂ {T : γ → δ → Prop} {f : α → γ → Except ε α} {g : β → δ → Except ε β}
    {l : List γ} {l' : List δ} (hl : List.Forall₂ T l l') {a : α} {b : β} (hab : R a b)
    (h : ∀ a b c d, R a b → T c d → Alike F R (f a c) (g b d)) :
    Alike F R (l.foldlM f a) (l'.foldlM g b) := by
  induction hl generalizing a b with
  | nil => exact .ok hab
  | cons hcd _ ih =>
    rw [List.foldlM_cons, List.foldlM_cons]
    exact (h _ _ _ _ hab hcd).bind fun _ _ hab => ih hab

theorem mapM_forall₂ {f : γ → Except ε α} {g : δ → Except ε β} {T : γ → δ → Prop} {l : List γ}
    {l' : List δ} (hl : List.Forall₂ T l l') (h : ∀ c d, T c d → Alike F R (f c) (g d)) :
    Alike F (List.Forall₂ R) (l.mapM f) (l'.mapM g) := by
  induction hl with
  | nil => exact .ok .nil
  | cons hcd _ ih =>
    rw [List.mapM_cons, List.mapM_cons]
    exact (h _ _ hcd).bind fun _ _ hab => ih.bind fun _ _ hrs => .ok (.cons hab hrs)

/-- In which order a list is gone through shows in the order of the results, and in which failure
comes first. -/
theorem mapM_perm {f : α → Except ε β} {l l' : List α} (hl : l.Perm l')
    (h : ∀ a ∈ l, FailsWith P (f a)) : Alike (Both P) List.Perm (l.mapM f) (l'.mapM f) := by
  induction hl with
  | nil => exact .ok (.refl _)
  | cons a _ ih =>
    rw [List.mapM_cons, List.mapM_cons]
    refine (of_failsWith (h a List.mem_cons_self)).bind fun b _ hb => ?_
    refine (ih fun a ha => h a (List.mem_cons_of_mem _ ha)).bind fun r s hrs => ?_
    exact .ok (hb ▸ hrs.cons b)
  | swap a b l =>
    have ha := h a (by simp)
    have hb := h b (by simp)
    have hrest : FailsWith P (l.mapM f) := .mapM fun c hc => h c (by simp [hc])
    simp only [List.mapM_cons]
    -- A failure of either is of the kind, so it does not matter which of them comes first.
    cases hfa : f a with
    | error e =>
      cases hfb : f b with
      | error e' => exact .error ⟨hb _ hfb, ha _ hfa⟩
      | ok c => exact .error ⟨ha _ hfa, ha _ hfa⟩
    | ok c =>
      cases hfb : f b with
      | error e' => exact .error ⟨hb _ hfb, hb _ hfb⟩
      | ok c' =>
        cases hl : l.mapM f with
        | error e => exact .error ⟨hrest e hl, hrest e hl⟩
        | ok r => exact .ok (.swap ..)
  | trans hl _ ih ih' =>
    refine ((ih h).trans (ih' fun a ha => h a (hl.mem_iff.2 ha))).mono (fun _ _ he => he) ?_
    rintro r t ⟨s, hrs, hst⟩
    exact hrs.trans hst

/-- What is found for each member of a list is the same on the whole, if for each member it is, and
whatever the order of the members. -/
theorem flatten_perm {f g : α → Except ε (List β)} {l l' : List α} (hl : l.Perm l')
    (h : ∀ a ∈ l, Alike (Both P) List.Perm (f a) (g a)) :
    Alike (Both P) (fun r s => r.flatten.Perm s.flatten) (l.mapM f) (l'.mapM g) := by
  have hends := (mapM h).trans (mapM_perm hl fun a ha => (h a ha).failsWith)
  refine hends.mono (fun _ _ he => he) ?_
  rintro r t ⟨s, hrs, hst⟩
  exact (List.Perm.flatten_congr hrs).trans hst.flatten

/-- A filter gives each of the members that it keeps, and nothing for the others. -/
theorem filterAuxM_eq (f : α → Except ε Bool) (l kept : List α) :
    l.filterAuxM f kept = (l.mapM fun a => (f a).map fun keep => if keep then [a] else []).map
      fun r => r.flatten.reverse ++ kept := by
  induction l generalizing kept with
  | nil => rfl
  | cons a l ih =>
    rw [List.filterAuxM, List.mapM_cons]
    cases hfa : f a with
    | error e => rfl
    | ok keep =>
      refine (ih _).trans ?_
      show _ = Except.map _ (Except.bind (l.mapM _) _)
      cases l.mapM fun a => (f a).map fun keep => if keep then [a] else [] with
      | error e => rfl
      | ok r => cases keep <;> simp [Except.map, Except.bind, pure, Except.pure]

theorem filterM_perm {f : α → Except ε Bool} {l l' : List α} (hl : l.Perm l')
    (h : ∀ a ∈ l, FailsWith P (f a)) : Alike (Both P) List.Perm (l.filterM f) (l'.filterM f) := by
  rw [List.filterM, List.filterM, filterAuxM_eq, filterAuxM_eq]
  have hkept := flatten_perm (P := P) hl
    (f := fun a => (f a).map fun keep => if keep then [a] else [])
    fun a ha => (of_failsWith (.map _ (h a ha))).mono (fun _ _ h => h) fun r s hrs => hrs ▸ .refl r
  have hreversed := hkept.map (S := List.Perm) (f := fun r => r.flatten.reverse ++ [])
    (g := fun r => r.flatten.reverse ++ []) fun r s hrs => by simpa using hrs
  exact hreversed.bind fun r s hrs => .ok (by simpa using hrs)

end Alike

/-- Two computations give related results, or both fail. -/
abbrev Agree (R : α → β → Prop) : Except ε α → Except ε β → Prop := Alike (Both fun _ => True) R

namespace Agree

variable {R : α → β → Prop} {x : Except ε α} {y : Except ε β}

theorem refl (x : Except ε α) : Agree Eq x x := .of_failsWith fun _ _ => trivial

theorem error {e e' : ε} : Agree R (.error e) (.error e') := Alike.error ⟨trivial, trivial⟩

theorem of_ok (h : ∀ a, x = .ok a → ∃ b, y = .ok b ∧ R a b)
    (h' : ∀ b, y = .ok b → ∃ a, x = .ok a) : Agree R x y := by
  cases x with
  | ok a =>
    obtain ⟨b, rfl, hab⟩ := h a rfl
    exact .ok hab
  | error e =>
    cases y with
    | ok b =>
      obtain ⟨a, ha⟩ := h' b rfl
      cases ha
    | error e' => exact error

theorem exists_ok (h : Agree R x y) {a : α} (hx : x = .ok a) : ∃ b, y = .ok b ∧ R a b := by
  subst hx
  cases h with
  | ok hab => exact ⟨_, rfl, hab⟩

theorem symm (h : Agree R x y) : Agree (fun b a => R a b) y x := by
  cases h with
  | ok hab => exact .ok hab
  | error _ => exact error

end Agree

/-- Where a step succeeds for all members of a list, it does so in any order of them. -/
theorem mapM_eq_ok_of_perm {f : α → Except ε β} {l l' : List α} {r : List β} (hl : l.Perm l')
    (h : l.mapM f = .ok r) : ∃ r', l'.mapM f = .ok r' ∧ r.Perm r' := by
  have hsteps : ∀ a ∈ l, FailsWith (fun _ => False) (f a) := by
    intro a ha
    obtain ⟨b, -, hb⟩ := exists_of_mapM_eq_ok h ha
    rw [hb]
    exact .ok b
  have hends := Alike.mapM_perm hl hsteps
  rw [h] at hends
  generalize l'.mapM f = y at hends
  cases hends with
  | ok hr => exact ⟨_, rfl, hr⟩

end SolutionScript.Fallible
