/-!
# Splitting and joining

Splitting a text at every occurrence of a character (`splitAt`) or at the
first occurrence of a word (`splitAtWord`), joining with a separator, and
exchanging one character for another. Splitting gives at least one part
(`splitList_ne_nil`), and joining the parts with the separator gives the text
back (`joinList_splitList`).
-/

namespace SolutionScript.Text

/-- The parts of a text between the occurrences of a character. -/
def splitList (sep : Char) : List Char → List (List Char)
  | [] => [[]]
  | c :: rest =>
    if c = sep then [] :: splitList sep rest
    else match splitList sep rest with
      | part :: parts => (c :: part) :: parts
      | [] => [[c]]

theorem splitList_ne_nil (sep : Char) (cs : List Char) : splitList sep cs ≠ [] := by
  cases cs with
  | nil => simp [splitList]
  | cons c rest =>
    rw [splitList]
    split
    · simp
    · split <;> simp

/-- The parts of a text between the occurrences of a character. -/
def splitAt (sep : Char) (s : String) : List String := (splitList sep s.toList).map String.ofList

/-- The parts with the separator between them. -/
def joinList (sep : List Char) : List (List Char) → List Char
  | [] => []
  | [part] => part
  | part :: next :: parts => part ++ sep ++ joinList sep (next :: parts)

theorem joinList_splitList (sep : Char) (cs : List Char) :
    joinList [sep] (splitList sep cs) = cs := by
  induction cs with
  | nil => rfl
  | cons c rest ih =>
    rw [splitList]
    have hne := splitList_ne_nil sep rest
    split
    · next h =>
      cases hs : splitList sep rest with
      | nil => exact absurd hs hne
      | cons p ps => rw [hs] at ih; simp [joinList, ih, h]
    · split
      · next part parts hs =>
        rw [hs] at ih
        cases parts with
        | nil => simpa [joinList] using ih
        | cons q qs => simpa [joinList] using ih
      · next hs => exact absurd hs hne

/-- The texts with the separator between them. -/
def join (sep : String) (parts : List String) : String := sep.intercalate parts

/-- The text before and after the first occurrence of a word, or nothing if
the word does not occur. -/
def splitAtWord (word : List Char) : List Char → Option (List Char × List Char)
  | [] => if word.isEmpty then some ([], []) else none
  | c :: rest =>
    if word.isPrefixOf (c :: rest) then some ([], (c :: rest).drop word.length)
    else (splitAtWord word rest).map fun (before, after) => (c :: before, after)

/-- A character splits a text where it stands first. -/
theorem splitAtWord_append {c : Char} {before : List Char} (h : c ∉ before) (after : List Char) :
    splitAtWord [c] (before ++ c :: after) = some (before, after) := by
  induction before with
  | nil => simp [splitAtWord]
  | cons b before ih =>
    rw [List.mem_cons, not_or] at h
    simp [splitAtWord, ih h.2, h.1]

/-- The text with each `old` exchanged for `new`. -/
def replaceList (old new : Char) (cs : List Char) : List Char :=
  cs.map fun c => if c = old then new else c

/-- The text with each `old` exchanged for `new`. -/
def replace (old new : Char) (s : String) : String := String.ofList (replaceList old new s.toList)

/-- Whether a text starts with a word. -/
def startsWith (word s : String) : Bool := word.toList.isPrefixOf s.toList

/-- The text after its first `n` characters. -/
def dropChars (n : Nat) (s : String) : String := String.ofList (s.toList.drop n)

/-- Ascending order by code points. -/
def le (a b : String) : Bool := !decide (b < a)

end SolutionScript.Text
