import SolutionScript.Text.Letter
import SolutionScript.Text.PrintableTable

/-!
# Quoted texts

Texts in quotes, as messages show file names and lists. The quotes are single
unless the text has a single quote and no double one. Inside, the quote and
the backslash are escaped, and so is every character without a visible form.
-/

namespace SolutionScript.Text

/-- Whether a character has a visible form or is a space. -/
def isPrintable (c : Char) : Bool := !inRanges unprintableRanges c.toNat

/-- A number below 16 as a digit. -/
def hexDigit (n : Nat) : Char :=
  Char.ofNat (if n % 16 < 10 then 48 + n % 16 else 87 + n % 16)

/-- The last `width` hexadecimal digits of a number. -/
def hexDigits : Nat → Nat → List Char
  | 0, _ => []
  | width + 1, n => hexDigits width (n / 16) ++ [hexDigit n]

/-- A code point by its number, in two, four or eight digits. -/
def numbered (n : Nat) : List Char :=
  if n < 0x100 then '\\' :: 'x' :: hexDigits 2 n
  else if n < 0x10000 then '\\' :: 'u' :: hexDigits 4 n
  else '\\' :: 'U' :: hexDigits 8 n

/-- A character as it stands between the given quotes. -/
def quotedChar (quote c : Char) : List Char :=
  if c = quote || c = '\\' then ['\\', c]
  else if c = '\n' then ['\\', 'n']
  else if c = '\r' then ['\\', 'r']
  else if c = '\t' then ['\\', 't']
  else if isPrintable c then [c]
  else numbered c.toNat

/-- The quotes that a text is put in. -/
def quoteFor (cs : List Char) : Char :=
  if cs.contains '\'' && !cs.contains '"' then '"' else '\''

/-- A text in quotes. -/
def quoted (s : String) : String :=
  let cs := s.toList
  let quote := quoteFor cs
  String.ofList (quote :: cs.flatMap (quotedChar quote) ++ [quote])

/-- A list of texts in quotes. -/
def quotedList (items : List String) : String :=
  "[" ++ ", ".intercalate (items.map quoted) ++ "]"

end SolutionScript.Text
