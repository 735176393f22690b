import SolutionScript.Script.Format
import SolutionScript.Text.Letter

/-!
# Words of the command line

The options, and what a word is: an option by its name, perhaps with a value
behind an equals sign, an option that is not known, the double hyphen, or
plain. A name of one hyphen may be cut short as long as only one option starts
that way; a name of two hyphens has to be complete.
-/

namespace SolutionScript.Cli

/-- The options. -/
inductive CliOption where
  | help
  | format (f : Format)
  | solution
  | mapping
  | output
  | serve
  | project
  deriving DecidableEq, Repr

namespace CliOption

/-- All options. -/
def all : List CliOption :=
  help :: Format.all.map format ++ [solution, mapping, output, serve, project]

/-- The names of an option. -/
def names : CliOption → List String
  | help => ["-h", "--help"]
  | format f => ["-" ++ f.name]
  | solution => ["-sln"]
  | mapping => ["-map"]
  | output => ["-out"]
  | serve => ["--serve"]
  | project => ["--project"]

/-- The number of words that follow an option. -/
def arity : CliOption → Nat
  | help => 0
  | format _ => 0
  | solution => 1
  | mapping => 2
  | output => 1
  | serve => 0
  | project => 1

/-- The option as messages name it. -/
def title (o : CliOption) : String := Text.join "/" o.names

/-- Every name with its option. -/
def table : List (String × CliOption) := all.flatMap fun o => o.names.map (·, o)

/-- The option with a name. -/
def ofName? (name : String) : Option CliOption := (table.find? (·.1 = name)).map (·.2)

end CliOption

/-- An option as a word gives it: its name in full, and the value in the same
word. -/
structure GivenOption where
  option : CliOption
  name : String
  value : Option String := none
  deriving DecidableEq, Repr

/-- What a word is. -/
inductive Word where
  | plain (s : String)
  | doubleHyphen
  | known (o : GivenOption)
  | unknown (s : String)
  deriving DecidableEq, Repr

namespace Word

/-- The options that a word may mean whose name is cut short, or that is a name
of one letter with a value right behind it. -/
def candidates (s : String) : List GivenOption :=
  match s.toList with
  | '-' :: c :: rest =>
    if c = '-' then []
    else CliOption.table.filterMap fun (name, o) =>
      if name.toList = ['-', c] then some ⟨o, name, some (String.ofList rest)⟩
      else if Text.startsWith s name then some ⟨o, name, none⟩
      else none
  | _ => []

/-- Whether a word is a negative number. -/
def isNegativeNumber (s : String) : Bool :=
  match s.toList with
  | '-' :: rest =>
    let rest := if rest.getLast? = some '\n' then rest.dropLast else rest
    match rest.dropWhile Text.isDecimalDigit with
    | [] => !rest.isEmpty
    | '.' :: decimals => !decimals.isEmpty && decimals.all Text.isDecimalDigit
    | _ => false
  | _ => false

/-- An option and its value on both sides of an equals sign. -/
def splitValue? (s : String) : Option GivenOption := do
  let (name, value) ← Text.splitAtWord ['='] s.toList
  let option ← CliOption.ofName? (String.ofList name)
  pure ⟨option, String.ofList name, some (String.ofList value)⟩

/-- What a word is that starts with a hyphen and is no option by its full name;
else the options that it may mean. -/
def ofHyphened (s : String) : Except (List String) Word :=
  match candidates s with
  | [o] => .ok (known o)
  | first :: second :: rest => .error ((first :: second :: rest).map (·.name))
  | [] => .ok (if isNegativeNumber s || s.toList.contains ' ' then plain s else unknown s)

/-- What a word is, or the names that it may stand for if there are several. -/
def classify (s : String) : Except (List String) Word :=
  if s.toList.head? ≠ some '-' then .ok (plain s)
  else match CliOption.ofName? s with
    | some option => .ok (known ⟨option, s, none⟩)
    | none =>
      if s = "-" then .ok (plain s)
      else match splitValue? s with
        | some o => .ok (known o)
        | none => ofHyphened s

/-- Whether a word is an option, known or not. -/
def isOption : Word → Bool
  | known _ => true
  | unknown _ => true
  | _ => false

end Word

end SolutionScript.Cli
