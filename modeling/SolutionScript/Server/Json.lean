import SolutionScript.Text.Quoted

/-!
# JSON texts

The text of a JSON value with two spaces for each level, written in ASCII.
-/

namespace SolutionScript.Server

/-- A JSON value. -/
inductive Json where
  | text (s : String)
  | truth (b : Bool)
  | array (items : List Json)
  | object (members : List (String × Json))

namespace Json

/-- A UTF-16 unit as an escape. -/
def unitEscape (n : Nat) : List Char := '\\' :: 'u' :: Text.hexDigits 4 n

/-- A character as it stands in a text. -/
def charText (c : Char) : List Char :=
  let n := c.toNat
  if c = '"' || c = '\\' then ['\\', c]
  else if c = '\n' then ['\\', 'n']
  else if c = '\r' then ['\\', 'r']
  else if c = '\t' then ['\\', 't']
  else if n = 8 then ['\\', 'b']
  else if n = 12 then ['\\', 'f']
  else if 32 ≤ n && n < 127 then [c]
  else if n < 0x10000 then unitEscape n
  else
    let m := n - 0x10000
    unitEscape (0xD800 + m / 0x400) ++ unitEscape (0xDC00 + m % 0x400)

/-- A text in quotes. -/
def quoted (s : String) : List Char := '"' :: s.toList.flatMap charText ++ ['"']

/-- A line break and the spaces of a level. -/
def lineBreak (level : Nat) : List Char := '\n' :: List.replicate (2 * level) ' '

mutual

/-- The text of a value at a level. -/
def render (level : Nat) : Json → List Char
  | text s => quoted s
  | truth b => (if b then "true" else "false").toList
  | array [] => "[]".toList
  | array (first :: rest) =>
    '[' :: (lineBreak (level + 1) ++ render (level + 1) first) ++ renderItems level rest ++ [']']
  | object [] => "\x7b\x7d".toList
  | object ((name, value) :: rest) =>
    '\x7b' :: (lineBreak (level + 1) ++ quoted name ++ ": ".toList ++ render (level + 1) value) ++
      renderMembers level rest ++ ['\x7d']

/-- The items after the first one of an array at a level. -/
def renderItems (level : Nat) : List Json → List Char
  | [] => lineBreak level
  | item :: rest =>
    ',' :: (lineBreak (level + 1) ++ render (level + 1) item) ++ renderItems level rest

/-- The members after the first one of an object at a level. -/
def renderMembers (level : Nat) : List (String × Json) → List Char
  | [] => lineBreak level
  | (name, value) :: rest =>
    ',' :: (lineBreak (level + 1) ++ quoted name ++ ": ".toList ++ render (level + 1) value) ++
      renderMembers level rest

end

end Json

end SolutionScript.Server
