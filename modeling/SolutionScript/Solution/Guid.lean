import SolutionScript.Text.Blank
import SolutionScript.Text.Case

/-!
# Project identifiers

Identifiers are compared in one form: upper case, in one pair of braces. The
empty identifier stays empty.
-/

namespace SolutionScript.Guid

/-- Whether a character is a brace. -/
def isBrace (c : Char) : Bool := c == '\x7b' || c == '\x7d'

/-- The normal form of an identifier, on character lists. -/
def normalizeList (cs : List Char) : List Char :=
  let core := Text.upperList (Text.stripList isBrace (Text.trimList cs))
  if core.isEmpty then [] else '\x7b' :: core ++ ['\x7d']

/-- The normal form of an identifier. -/
def normalize (s : String) : String := String.ofList (normalizeList s.toList)

end SolutionScript.Guid
