/-!
# Keyed lists

Lists of pairs as ordered maps from names. Putting a value under a name that
is there keeps the place of the name and exchanges the value
(`get?_put_self`, `keys_put`); a new name goes to the end. A map made of pairs
with different names holds each of them (`get?_ofList`).
-/

namespace SolutionScript

/-- Values under names, in the order in which the names came. -/
abbrev Keyed (α : Type) := List (String × α)

namespace Keyed

variable {α : Type}

/-- The value under a name. -/
def get? : Keyed α → String → Option α
  | [], _ => none
  | (k, v) :: rest, name => if k = name then some v else get? rest name

/-- Puts a value under a name. -/
def put : Keyed α → String → α → Keyed α
  | [], name, value => [(name, value)]
  | (k, v) :: rest, name, value =>
    if k = name then (k, value) :: rest else (k, v) :: put rest name value

/-- The names, in order. -/
def keys (m : Keyed α) : List String := m.map (·.1)

/-- The values, in order. -/
def values (m : Keyed α) : List α := m.map (·.2)

/-- The map that putting the pairs one after the other gives. -/
def ofList (pairs : List (String × α)) : Keyed α :=
  pairs.foldl (fun m (name, value) => m.put name value) []

/-- Whether there is a value under a name. -/
def has (m : Keyed α) (name : String) : Bool := (m.get? name).isSome

@[simp] theorem get?_put_self (m : Keyed α) (name : String) (value : α) :
    (m.put name value).get? name = some value := by
  induction m with
  | nil => simp [put, get?]
  | cons x rest ih =>
    obtain ⟨k, v⟩ := x
    by_cases h : k = name <;> simp [put, get?, h, ih]

theorem get?_put_of_ne (m : Keyed α) {name other : String} (value : α) (h : other ≠ name) :
    (m.put name value).get? other = m.get? other := by
  induction m with
  | nil => simp [put, get?, Ne.symm h]
  | cons x rest ih =>
    obtain ⟨k, v⟩ := x
    by_cases hk : k = name
    · subst hk
      simp [put, get?, Ne.symm h]
    · by_cases ho : k = other
      · simp [put, get?, ho, h]
      · simp [put, get?, hk, ho, ih]

theorem get?_foldl_put_of_not_mem (pairs : List (String × α)) (m : Keyed α) {name : String}
    (h : name ∉ pairs.map (·.1)) :
    (pairs.foldl (fun m (name, value) => m.put name value) m).get? name = m.get? name := by
  induction pairs generalizing m with
  | nil => rfl
  | cons x rest ih =>
    simp only [List.map_cons, List.mem_cons, not_or] at h
    rw [List.foldl_cons, ih _ h.2, get?_put_of_ne _ _ h.1]

/-- A value that is found stands in the list. -/
theorem mem_of_get? {m : Keyed α} {name : String} {value : α} (h : m.get? name = some value) :
    (name, value) ∈ m := by
  induction m with
  | nil => simp [get?] at h
  | cons x rest ih =>
    obtain ⟨k, v⟩ := x
    rw [get?] at h
    split at h
    · simp_all
    · exact List.mem_cons_of_mem _ (ih h)

theorem has_iff {m : Keyed α} {name : String} : m.has name = true ↔ name ∈ m.keys := by
  induction m with
  | nil => simp [has, get?, keys]
  | cons x rest ih =>
    obtain ⟨k, v⟩ := x
    by_cases hk : k = name
    · simp [has, get?, keys, hk]
    · simp only [has, keys] at ih
      simp [has, get?, keys, hk, ih, Ne.symm hk]

/-- Where names differ from pair to pair, each pair can be looked up. -/
theorem get?_ofList {pairs : List (String × α)} (hnodup : (pairs.map (·.1)).Nodup) {name : String}
    {value : α} (h : (name, value) ∈ pairs) : (ofList pairs).get? name = some value := by
  suffices ∀ m : Keyed α,
      (pairs.foldl (fun m (name, value) => m.put name value) m).get? name = some value from this []
  induction pairs with
  | nil => simp at h
  | cons x rest ih =>
    intro m
    rw [List.map_cons, List.nodup_cons] at hnodup
    rw [List.foldl_cons]
    rcases List.mem_cons.1 h with rfl | h
    · rw [get?_foldl_put_of_not_mem _ _ hnodup.1, get?_put_self]
    · exact ih hnodup.2 h _

/-- A new name goes to the end. -/
theorem put_of_not_mem {m : Keyed α} {name : String} (h : name ∉ m.keys) (value : α) :
    m.put name value = m ++ [(name, value)] := by
  induction m with
  | nil => rfl
  | cons x rest ih =>
    obtain ⟨k, v⟩ := x
    simp only [keys, List.map_cons, List.mem_cons, not_or] at h
    rw [put, if_neg (Ne.symm h.1), ih h.2, List.cons_append]

/-- The names after a put: the same if the name was there, else with the name
at the end. -/
theorem keys_put (m : Keyed α) (name : String) (value : α) :
    (m.put name value).keys = if name ∈ m.keys then m.keys else m.keys ++ [name] := by
  induction m with
  | nil => simp [put, keys]
  | cons x rest ih =>
    obtain ⟨k, v⟩ := x
    by_cases hk : k = name
    · simp [put, keys, hk]
    · simp only [keys] at ih
      by_cases hm : name ∈ rest.map (·.1)
      · simp [put, keys, hk, ih, hm]
      · simp [put, keys, hk, ih, hm, Ne.symm hk]

end Keyed

end SolutionScript
