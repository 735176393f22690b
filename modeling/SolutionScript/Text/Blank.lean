/-!
# Blank characters

Which characters count as blank, and trimming: a trimmed text neither starts
nor ends with a blank.
-/

namespace SolutionScript.Text

/-- White space and the four separator controls U+001C to U+001F. -/
def isBlank (c : Char) : Bool :=
  let n := c.toNat
  (9 ≤ n && n ≤ 13) || (28 ≤ n && n ≤ 32) || n == 0x85 || n == 0xA0 || n == 0x1680 ||
    (0x2000 ≤ n && n ≤ 0x200A) || n == 0x2028 || n == 0x2029 || n == 0x202F || n == 0x205F ||
    n == 0x3000

/-- The text without the characters of a class at both ends. -/
def stripList (strip : Char → Bool) (cs : List Char) : List Char :=
  ((cs.dropWhile strip).reverse.dropWhile strip).reverse

/-- The text without blanks at both ends. -/
def trimList (cs : List Char) : List Char := stripList isBlank cs

/-- The text without blanks at both ends. -/
def trim (s : String) : String := String.ofList (trimList s.toList)

/-- Whether a text has nothing but blanks. -/
def isBlankText (s : String) : Bool := s.toList.all isBlank

end SolutionScript.Text
