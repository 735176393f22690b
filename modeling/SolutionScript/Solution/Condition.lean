import SolutionScript.Text.Blank

/-!
# Conditions

Finding the configuration that a condition compares with. The comparison may
stand anywhere in the condition, with the platform or without; the first one
counts. A name that is found has neither apostrophe nor bar.
-/

namespace SolutionScript.Condition

/-- What follows a word at the start of a text. -/
def afterWord (word cs : List Char) : Option (List Char) :=
  if word.isPrefixOf cs then some (cs.drop word.length) else none

/-- What follows a word, if it is there, else the whole text. -/
def afterOptional (word cs : List Char) : List Char := (afterWord word cs).getD cs

/-- Whether a character may stand in the name of a configuration. -/
def isNameChar (c : Char) : Bool := c != '|' && c != '\''

/-- Whether a quoted value ends here, after a platform or without one. -/
def endsValue : List Char → Bool
  | '\'' :: _ => true
  | '|' :: rest => rest.contains '\''
  | _ => false

/-- The name in a comparison at the start of a text. -/
def nameAt (cs : List Char) : Option (List Char) := do
  let rest ← afterWord "'$(Configuration)".toList cs
  let rest ← afterWord ['\''] (afterOptional "|$(Platform)".toList rest)
  let rest ← afterWord ['=', '='] (rest.dropWhile Text.isBlank)
  let rest ← afterWord ['\''] (rest.dropWhile Text.isBlank)
  let name := rest.takeWhile isNameChar
  if !name.isEmpty && endsValue (rest.dropWhile isNameChar) then some name else none

/-- The name in the first comparison in a text. -/
def findName : List Char → Option (List Char)
  | [] => none
  | c :: rest =>
    match nameAt (c :: rest) with
    | some name => some name
    | none => findName rest

/-- The configuration that a condition compares with. -/
def configuration? (condition : String) : Option String :=
  (findName condition.toList).map fun name => String.ofList (Text.trimList name)

end SolutionScript.Condition
