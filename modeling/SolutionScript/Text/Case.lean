import SolutionScript.Text.CaseTable
import SolutionScript.Text.Letter

/-!
# Case mapping

Upper and lower case of a text by the full case mappings: a character may map
to several, and a capital sigma at the end of a word has a lower-case form of
its own. On ASCII text these are the plain ASCII mappings.
-/

namespace SolutionScript.Text

/-- Where a run sends a code point, if it covers it. -/
def CaseRun.image? (run : CaseRun) (n : Nat) : Option Nat :=
  if run.first ≤ n && n ≤ run.last && (n - run.first) % run.step == 0 then
    some (Int.ofNat n + run.offset).toNat
  else none

/-- What a character maps to: by an expansion, else by a run, else to itself. -/
def mapCase (runs : Array CaseRun) (expansions : Array (Nat × List Nat)) (c : Char) : List Char :=
  match expansions.find? (·.1 == c.toNat) with
  | some (_, image) => image.map Char.ofNat
  | none =>
    match runs.findSome? (·.image? c.toNat) with
    | some n => [Char.ofNat n]
    | none => [c]

/-- The upper-case form of a character. -/
def upperChar (c : Char) : List Char :=
  if c.toNat < 128 then [c.toUpper] else mapCase upperRuns upperExpansions c

/-- The lower-case form of a character other than a capital sigma at the end of a word. -/
def lowerChar (c : Char) : List Char :=
  if c.toNat < 128 then [c.toLower] else mapCase lowerRuns lowerExpansions c

/-- Whether the first character that is not case-ignorable is a cased one. -/
def startsCased (cs : List Char) : Bool :=
  match cs.find? fun c => !inRanges caseIgnorableRanges c.toNat with
  | some c => inRanges casedRanges c.toNat
  | none => false

/-- The lower-case form of a text; `before` holds what was read, last first. -/
def lowerFrom (before : List Char) : List Char → List Char
  | [] => []
  | c :: rest =>
    let image :=
      if c = 'Σ' then
        if startsCased before && !startsCased rest then ['ς'] else ['σ']
      else lowerChar c
    image ++ lowerFrom (c :: before) rest

/-- The upper-case form of a text. -/
def upperList (cs : List Char) : List Char := cs.flatMap upperChar

/-- The lower-case form of a text. -/
def lowerList (cs : List Char) : List Char := lowerFrom [] cs

/-- The lower-case form of a text. -/
def lower (s : String) : String := String.ofList (lowerList s.toList)

end SolutionScript.Text
