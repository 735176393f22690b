import SolutionScript.Keyed

/-!
# Values put one after the other

What is put under a name that is not there goes to the end (`put_append_singleton`,
`foldl_put_of_nodup`), where it is found (`get?_append`). Of the values that are put under one name,
the first decides the place of the name (`keys_foldl_put`) and the last what is found
(`get?_foldl_put`). Taking a name out leaves the values under the other names
(`get?_remove_of_ne`).
-/

namespace SolutionScript.Keyed

variable {α : Type} {m : Keyed α} {name : String}

theorem get?_of_not_mem (h : name ∉ m.keys) : m.get? name = none := by
  rw [← Option.not_isSome_iff_eq_none]
  exact fun hsome => h (has_iff.1 hsome)

theorem get?_append (m more : Keyed α) (name : String) :
    get? (m ++ more) name = (m.get? name).or (more.get? name) := by
  induction m with
  | nil => rfl
  | cons a m ih =>
    obtain ⟨k, v⟩ := a
    rw [List.cons_append, get?, get?, ih]
    split <;> rfl

theorem get?_append_singleton (h : name ∉ m.keys) (value : α) :
    get? (m ++ [(name, value)]) name = some value := by
  rw [get?_append, get?_of_not_mem h, Option.none_or, get?, if_pos rfl]

theorem put_append_singleton (h : name ∉ m.keys) (old value : α) :
    put (m ++ [(name, old)]) name value = m ++ [(name, value)] := by
  induction m with
  | nil => simp [put]
  | cons x m ih =>
    obtain ⟨k, v⟩ := x
    simp only [keys, List.map_cons, List.mem_cons, not_or] at h
    rw [List.cons_append, put, if_neg (Ne.symm h.1), ih h.2, List.cons_append]

/-- What is there after a put is the new pair or was there. -/
theorem mem_put {value : α} {x : String × α} (h : x ∈ m.put name value) :
    x = (name, value) ∨ x ∈ m := by
  induction m with
  | nil => exact .inl (List.mem_singleton.1 h)
  | cons y m ih =>
    obtain ⟨k, v⟩ := y
    rw [put] at h
    split at h
    · rename_i hk
      exact (List.mem_cons.1 h).imp (fun h => hk ▸ h) (List.mem_cons_of_mem _)
    · rcases List.mem_cons.1 h with rfl | h
      · exact .inr List.mem_cons_self
      · exact (ih h).imp_right (List.mem_cons_of_mem _)

theorem nodup_keys_put (h : m.keys.Nodup) (name : String) (value : α) :
    (m.put name value).keys.Nodup := by
  rw [keys_put]
  split
  · exact h
  · rename_i hname
    refine List.nodup_append.2 ⟨h, by simp, fun k hk k' hk' => ?_⟩
    rw [List.mem_singleton.1 hk']
    rintro rfl
    exact hname hk

/-- Values under different names are put one after the other. -/
theorem foldl_put_of_nodup {β : Type} {l : List β} (key : β → String) (value : β → α)
    (h : (l.map key).Nodup) :
    l.foldl (fun (m : Keyed α) b => m.put (key b) (value b)) [] =
      l.map fun b => (key b, value b) := by
  suffices ∀ m : Keyed α, (m.keys ++ l.map key).Nodup →
      l.foldl (fun (m : Keyed α) b => m.put (key b) (value b)) m =
        m ++ l.map fun b => (key b, value b) from this [] h
  induction l with
  | nil => simp
  | cons b l ih =>
    intro m hm
    have hb : key b ∉ m.keys := fun hmem =>
      (List.nodup_append.1 hm).2.2 _ hmem _ List.mem_cons_self rfl
    rw [List.foldl_cons, put_of_not_mem hb, ih (List.nodup_cons.1 h).2]
    · simp
    · rw [keys, List.map_append, List.append_assoc]
      exact hm

/-- The map without what is under a name. -/
def remove (m : Keyed α) (name : String) : Keyed α := m.filter (·.1 ≠ name)

theorem get?_remove_self (m : Keyed α) (name : String) : (m.remove name).get? name = none :=
  get?_of_not_mem (by simp [remove, keys])

theorem get?_remove_of_ne (m : Keyed α) {other : String} (h : other ≠ name) :
    (m.remove name).get? other = m.get? other := by
  induction m with
  | nil => rfl
  | cons x m ih =>
    obtain ⟨k, v⟩ := x
    rw [remove] at ih
    by_cases hk : k = name
    · rw [remove, List.filter_cons_of_neg (by simpa using hk), ih, get?,
        if_neg (fun hother => h (hother.symm.trans hk))]
    · rw [remove, List.filter_cons_of_pos (by simpa using hk), get?, get?, ih]

section

variable {β : Type} {key : β → String} {value : β → α}

/-- The last member of a list with a name has this value. -/
def LastHas (key : β → String) (value : β → α) (l : List β) (name : String) (v : α) : Prop :=
  ∃ before b after, l = before ++ b :: after ∧ key b = name ∧ (∀ other ∈ after, key other ≠ name) ∧
    value b = v

theorem lastHas_cons {b : β} {l : List β} {v : α} :
    LastHas key value (b :: l) name v ↔
      LastHas key value l name v ∨ (∀ c ∈ l, key c ≠ name) ∧ key b = name ∧ value b = v := by
  constructor
  · rintro ⟨before, b', after, heq, hname, hafter, hv⟩
    cases before with
    | nil =>
      obtain ⟨rfl, rfl⟩ := List.cons.inj heq
      exact .inr ⟨hafter, hname, hv⟩
    | cons c before =>
      obtain ⟨rfl, rfl⟩ := List.cons.inj heq
      exact .inl ⟨before, b', after, rfl, hname, hafter, hv⟩
  · rintro (⟨before, b', after, rfl, hname, hafter, hv⟩ | ⟨hl, hname, hv⟩)
    · exact ⟨b :: before, b', after, rfl, hname, hafter, hv⟩
    · exact ⟨[], b, l, rfl, hname, hl, hv⟩

/-- Of the values that are put under a name, the last one is found. -/
theorem get?_foldl_put (l : List β) (m : Keyed α) {v : α} :
    (l.foldl (fun m b => m.put (key b) (value b)) m).get? name = some v ↔
      LastHas key value l name v ∨ (∀ b ∈ l, key b ≠ name) ∧ m.get? name = some v := by
  induction l generalizing m with
  | nil => simp [LastHas]
  | cons b l ih =>
    rw [List.foldl_cons, ih, lastHas_cons, List.forall_mem_cons, or_assoc]
    by_cases hb : key b = name
    · simp [hb]
    · simp [hb, get?_put_of_ne _ _ (Ne.symm hb)]

/-- Names that are put come after those that are there, in the order in which they come first. -/
theorem keys_foldl_put (l : List β) (m : Keyed α) :
    (l.foldl (fun m b => m.put (key b) (value b)) m).keys =
      m.keys ++ ((l.map key).filter (· ∉ m.keys)).eraseDups := by
  induction l generalizing m with
  | nil => simp
  | cons b l ih =>
    rw [List.foldl_cons, ih, keys_put, List.map_cons]
    by_cases hb : key b ∈ m.keys
    · rw [if_pos hb, List.filter_cons_of_neg (by simpa using hb)]
    · have hnew : (l.map key).filter (· ∉ m.keys ++ [key b]) =
          ((l.map key).filter (· ∉ m.keys)).filter fun name => !name == key b := by
        rw [List.filter_filter]
        refine List.filter_congr fun name _ => ?_
        by_cases hname : name = key b <;> simp [hname]
      rw [if_neg hb, List.filter_cons_of_pos (by simpa using hb), List.eraseDups_cons, hnew,
        List.append_assoc, List.singleton_append]

end

/-- Where the names differ, each value is found under its name. -/
theorem get?_of_mem (h : m.keys.Nodup) {value : α} (hmem : (name, value) ∈ m) :
    m.get? name = some value := by
  have hsame : ofList m = m := (foldl_put_of_nodup Prod.fst Prod.snd h).trans (List.map_id' m)
  rw [← hsame]
  exact get?_ofList h hmem

end SolutionScript.Keyed
