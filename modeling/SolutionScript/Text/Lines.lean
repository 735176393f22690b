/-!
# Lines

Splitting a text at its line boundaries. Besides line feed, carriage return
and the pair of both, a line ends at a vertical tab, a form feed, the
separator controls U+001C to U+001E, U+0085, U+2028 and U+2029. A boundary at
the very end starts no further line, so the empty text has no lines.
-/

namespace SolutionScript.Text

/-- The characters at which a line ends. -/
def isLineEnd (c : Char) : Bool :=
  let n := c.toNat
  (10 ≤ n && n ≤ 13) || (28 ≤ n && n ≤ 30) || n == 0x85 || n == 0x2028 || n == 0x2029

/-- Drops the line feed that belongs to the carriage return before it. -/
def afterLineEnd (c : Char) (rest : List Char) : List Char :=
  match c, rest with
  | '\r', '\n' :: r => r
  | _, r => r

theorem length_afterLineEnd_le (c : Char) (rest : List Char) :
    (afterLineEnd c rest).length ≤ rest.length := by
  unfold afterLineEnd
  split <;> simp

/-- The lines of a text; `line` holds the characters read of the current one,
last first. -/
def linesFrom (line : List Char) : List Char → List (List Char)
  | [] => if line.isEmpty then [] else [line.reverse]
  | c :: rest =>
    if isLineEnd c then line.reverse :: linesFrom [] (afterLineEnd c rest)
    else linesFrom (c :: line) rest
termination_by cs => cs.length
decreasing_by
  · have := length_afterLineEnd_le c rest
    simp only [List.length_cons]
    omega
  · simp

/-- The lines of a text, without their ends. -/
def lines (s : String) : List String := (linesFrom [] s.toList).map String.ofList

/-- Each carriage return, with or without a line feed after it, as a line feed. -/
def unifyNewlines : List Char → List Char
  | [] => []
  | '\r' :: '\n' :: rest => '\n' :: unifyNewlines rest
  | '\r' :: rest => '\n' :: unifyNewlines rest
  | c :: rest => c :: unifyNewlines rest

end SolutionScript.Text
