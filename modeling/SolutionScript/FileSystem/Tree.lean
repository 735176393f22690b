/-!
# File trees

The contents of a disk as a value: what stands at each location, a location
being the names from the root. The root is always a folder. The entries are
in the order in which the disk lists them. Whatever is changed, only the
location named sees it (`entry?_set_of_ne`, `entry?_move_of_ne`).
-/

namespace SolutionScript.FileSystem

/-- The names that lead from the root to a place. -/
abbrev Location := List String

/-- What stands at a place. -/
inductive Entry where
  | folder
  | file (bytes : List UInt8)
  deriving DecidableEq

/-- The places of a disk that hold something. -/
structure FileTree where
  entries : List (Location × Entry)

namespace FileTree

/-- What stands at a location. -/
def entry? (t : FileTree) (l : Location) : Option Entry :=
  if l.isEmpty then some .folder else (t.entries.find? (·.1 == l)).map (·.2)

/-- Whether a folder stands at a location. -/
def isFolder (t : FileTree) (l : Location) : Bool :=
  match t.entry? l with
  | some .folder => true
  | _ => false

/-- Puts something at a location, in place of what stood there. -/
def set (t : FileTree) (l : Location) (e : Entry) : FileTree :=
  if t.entries.any (·.1 == l) then
    ⟨t.entries.map fun x => if x.1 == l then (l, e) else x⟩
  else ⟨t.entries ++ [(l, e)]⟩

/-- Takes away the file at a location. -/
def erase (t : FileTree) (l : Location) : FileTree := ⟨t.entries.filter (·.1 != l)⟩

/-- Moves the file at a location to another one, in place of what stands there. -/
def move (t : FileTree) (l l' : Location) : FileTree :=
  match t.entry? l with
  | some e => (t.erase l).set l' e
  | none => t

/-- Takes away what stands at a location and below it. -/
def remove (t : FileTree) (l : Location) : FileTree :=
  ⟨t.entries.filter fun x => !l.isPrefixOf x.1⟩

/-- The names in a folder, in listing order. -/
def names (t : FileTree) (l : Location) : List String :=
  t.entries.filterMap fun x =>
    match x.1.getLast? with
    | some name => if x.1.dropLast == l then some name else none
    | none => none

/-- The names that lead from a location to each folder below it. -/
def foldersBelow (t : FileTree) (l : Location) : List (List String) :=
  t.entries.filterMap fun x =>
    if l.isPrefixOf x.1 && x.1 != l && x.2 == .folder then some (x.1.drop l.length) else none

/-- Makes a folder at a location, and every folder on the way to it. -/
def makeFolders (t : FileTree) (l : Location) : FileTree :=
  (List.range l.length).foldl (fun t n =>
    let here := l.take (n + 1)
    if (t.entry? here).isSome then t else t.set here .folder) t

/-! ## What stands where after a change -/

variable {t : FileTree} {l l' : Location} {e : Entry}

theorem entry?_eq_find? (h : l ≠ []) :
    t.entry? l = (t.entries.find? (·.1 == l)).map (·.2) := by
  rw [FileTree.entry?, if_neg (by simpa using h)]

/-- Exchanging what stands at a location changes no location. -/
theorem find?_exchange (entries : List (Location × Entry)) :
    (entries.map fun x => if x.1 == l then (l, e) else x).find? (·.1 == l') =
      (entries.find? (·.1 == l')).map fun x => if x.1 == l then (l, e) else x := by
  rw [List.find?_map]
  congr 2
  funext x
  by_cases h : x.1 = l <;> simp [h]

theorem entry?_set_of_ne (t : FileTree) (e : Entry) (h : l' ≠ l) :
    entry? (t.set l e) l' = t.entry? l' := by
  by_cases hnil : l' = []
  · rw [hnil]
    rfl
  rw [FileTree.entry?_eq_find? hnil, entry?_eq_find? hnil, set]
  split
  · rw [find?_exchange, Option.map_map]
    refine Option.map_congr fun x hx => ?_
    have hx : x.1 = l' := by simpa using List.find?_some hx
    simp [hx, h]
  · have hlast : [(l, e)].find? (·.1 == l') = none := by simp [Ne.symm h]
    rw [List.find?_append, hlast, Option.or_none]

theorem entry?_set_self (t : FileTree) (e : Entry) (h : l ≠ []) :
    entry? (t.set l e) l = some e := by
  rw [FileTree.entry?_eq_find? h, set]
  cases hfind : t.entries.find? (·.1 == l) with
  | some x =>
    have hx : x.1 = l := by simpa using List.find?_some hfind
    have hany : t.entries.any (·.1 == l) = true :=
      List.any_eq_true.2 ⟨x, List.mem_of_find?_eq_some hfind, by simpa using hx⟩
    rw [if_pos hany, find?_exchange, hfind]
    simp [hx]
  | none =>
    have hany : ¬ t.entries.any (·.1 == l) = true := by
      rw [List.any_eq_true]
      rintro ⟨x, hx, hxl⟩
      exact List.find?_eq_none.1 hfind x hx hxl
    rw [if_neg hany, List.find?_append, hfind]
    simp

theorem entry?_erase_of_ne (t : FileTree) (h : l' ≠ l) : entry? (t.erase l) l' = t.entry? l' := by
  by_cases hnil : l' = []
  · rw [hnil]
    rfl
  · rw [FileTree.entry?_eq_find? hnil, entry?_eq_find? hnil, erase, List.find?_filter]
    congr 2
    funext x
    by_cases hx : x.1 = l' <;> simp [hx, h]

theorem entry?_erase_self (t : FileTree) (h : l ≠ []) : entry? (t.erase l) l = none := by
  rw [FileTree.entry?_eq_find? h, erase, List.find?_filter, Option.map_eq_none_iff,
    List.find?_eq_none]
  intro x _
  by_cases hx : x.1 = l <;> simp [hx]

theorem entry?_move_of_ne (t : FileTree) {l'' : Location} (h : l'' ≠ l) (h' : l'' ≠ l') :
    entry? (t.move l l') l'' = t.entry? l'' := by
  rw [move]
  split
  · rw [FileTree.entry?_set_of_ne _ _ h', entry?_erase_of_ne _ h]
  · rfl

theorem entry?_move_source (hl : t.entry? l = some e) (hnil : l ≠ []) (h : l ≠ l') :
    entry? (t.move l l') l = none := by
  rw [move, hl]
  rw [FileTree.entry?_set_of_ne _ _ h, entry?_erase_self _ hnil]

theorem entry?_move_self (hl : t.entry? l = some e) (h : l' ≠ []) :
    entry? (t.move l l') l' = some e := by
  rw [move, hl]
  exact entry?_set_self _ _ h

end FileTree

end SolutionScript.FileSystem
