import SolutionScript.Text.Split

/-!
# File name patterns

Patterns for single names: a star stands for any characters, a question mark
for one, and brackets for one character of a set, given by single characters
and ranges; an exclamation mark after the bracket takes the complement. A
bracket that is not closed stands for itself.
-/

namespace SolutionScript.FileSystem

/-- One element of a name pattern. -/
inductive PatternItem where
  | star
  | any
  | char (c : Char)
  /-- One character in, or if `negated` not in, one of the ranges. -/
  | oneOf (negated : Bool) (ranges : List (Char × Char))
  deriving DecidableEq, Repr

/-- A pattern for a single name. -/
abbrev NamePattern := List PatternItem

namespace NamePattern

/-- Splits the text after an opening bracket at the bracket that closes it: a
closing bracket that comes first, or after the exclamation mark, is a member. -/
def closeBracket (cs : List Char) : Option (List Char × List Char) :=
  let mark := if cs.head? = some '!' then 1 else 0
  let lead := if (cs.drop mark).head? = some ']' then mark + 1 else mark
  let more := (cs.drop lead).takeWhile (· != ']')
  if lead + more.length < cs.length then
    some (cs.take lead ++ more, cs.drop (lead + more.length + 1))
  else none

/-- Splits the members between brackets at the hyphens that make ranges. A
hyphen is looked for from the character number `start`. -/
def rangeChunks (start : Nat) (cs : List Char) : List (List Char) :=
  let before := (cs.drop start).takeWhile (· != '-')
  let stop := start + before.length
  if h : stop < cs.length then
    cs.take stop :: rangeChunks 2 (cs.drop (stop + 1))
  else [cs]
termination_by cs.length
decreasing_by simp only [List.length_drop]; omega

/-- A hyphen at the very end is a member. -/
def closeChunks (chunks : List (List Char)) : List (List Char) :=
  match chunks.reverse with
  | [] :: last :: rest => ((last ++ ['-']) :: rest).reverse
  | _ => chunks

/-- Takes away ranges whose first character comes after their last, from the
last to the first. -/
def dropEmptyRanges : List (List Char) → List (List Char)
  | [] => []
  | chunk :: rest =>
    match dropEmptyRanges rest with
    | [] => [chunk]
    | next :: more =>
      match chunk.getLast?, next with
      | some a, b :: tail =>
        if b < a then (chunk.dropLast ++ tail) :: more else chunk :: next :: more
      | _, _ => chunk :: next :: more

/-- The ranges that the chunks between hyphens stand for: each character by
itself, and from the last of a chunk to the first of the next. -/
def chunkRanges : List (List Char) → List (Char × Char)
  | [] => []
  | [chunk] => chunk.map fun c => (c, c)
  | chunk :: next :: rest =>
    let between := match chunk.getLast?, next.head? with
      | some a, some b => [(a, b)]
      | _, _ => []
    chunk.map (fun c => (c, c)) ++ between ++ chunkRanges (next :: rest)

/-- The item that the text between brackets stands for. -/
def bracketItem (inside : List Char) : PatternItem :=
  let start := if inside.head? = some '!' then 2 else 1
  let chunks :=
    if inside.contains '-' then dropEmptyRanges (closeChunks (rangeChunks start inside))
    else [inside]
  match chunks with
  | ('!' :: first) :: rest => .oneOf true (chunkRanges (first :: rest))
  | _ => .oneOf false (chunkRanges chunks)

theorem length_closeBracket_lt {cs inside rest : List Char}
    (h : closeBracket cs = some (inside, rest)) : rest.length < cs.length := by
  unfold closeBracket at h
  generalize (if cs.head? = some '!' then 1 else 0) = mark at h
  generalize (if (cs.drop mark).head? = some ']' then mark + 1 else mark) = lead at h
  simp only [Option.ite_none_right_eq_some, Option.some.injEq, Prod.mk.injEq] at h
  obtain ⟨hlt, -, rfl⟩ := h
  simp only [List.length_drop]
  omega

/-- Reads a pattern. -/
def parse : List Char → NamePattern
  | [] => []
  | '*' :: rest => .star :: parse rest
  | '?' :: rest => .any :: parse rest
  | '[' :: rest =>
    match _h : closeBracket rest with
    | some (inside, after) => bracketItem inside :: parse after
    | none => .char '[' :: parse rest
  | c :: rest => .char c :: parse rest
termination_by cs => cs.length
decreasing_by
  · simp
  · simp
  · have := length_closeBracket_lt _h
    simp only [List.length_cons]
    omega
  · simp
  · simp

/-- Whether an item other than a star accepts a character. -/
def accepts : PatternItem → Char → Bool
  | .star, _ => true
  | .any, _ => true
  | .char a, c => a == c
  | .oneOf negated ranges, c => (ranges.any fun (a, b) => a ≤ c && c ≤ b) != negated

/-- Whether a pattern matches a name. -/
def fits : NamePattern → List Char → Bool
  | [], cs => cs.isEmpty
  | .star :: items, [] => fits items []
  | .star :: items, c :: cs => fits items (c :: cs) || fits (.star :: items) cs
  | _ :: _, [] => false
  | item :: items, c :: cs => accepts item c && fits items cs
termination_by items cs => items.length + cs.length

end NamePattern

end SolutionScript.FileSystem
