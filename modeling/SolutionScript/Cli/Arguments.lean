import SolutionScript.Cli.Word
import SolutionScript.Text.Quoted

/-!
# Arguments

What the words of a command line ask for. They are read twice: first for the
options, then, with what is left over, for the parameters. So options and
parameters may be mixed freely, and words behind a double hyphen are left for
the second reading.

Two rules differ between releases of argument readers, and these are the ones
here. Letters behind an option without values are options themselves, and all
of them are read before the first counts: `-hx` is refused for its `x` and
shows no help. A double hyphen is dropped as a value wherever it stands, so
`-sln=--` gives the option no text.
-/

namespace SolutionScript.Cli

/-- Why words can not be understood. -/
inductive UsageFault where
  | ambiguous (word : String) (names : List String)
  | missingValues (o : CliOption)
  | ignoredValue (o : CliOption) (value : String)
  | conflict (o other : CliOption)
  | unrecognized (words : List String)
  | noFormat
  | badParameter (word : String)
  deriving DecidableEq, Repr

/-- The fault in words. -/
def UsageFault.text : UsageFault → String
  | ambiguous word names =>
    "ambiguous option: " ++ word ++ " could match " ++ Text.join ", " names
  | missingValues o =>
    "argument " ++ o.title ++ ": " ++
      if o.arity = 1 then "expected one argument"
      else "expected " ++ toString o.arity ++ " arguments"
  | ignoredValue o value =>
    "argument " ++ o.title ++ ": ignored explicit argument " ++ Text.quoted value
  | conflict o other => "argument " ++ o.title ++ ": not allowed with argument " ++ other.title
  | unrecognized words => "unrecognized arguments: " ++ Text.join " " words
  | noFormat =>
    "no output format specified (" ++
      Text.join ", " (Format.all.map fun f => "-" ++ f.name) ++ ")"
  | badParameter word => "invalid parameter '" ++ word ++ "', expected name=value"

/-- Why reading ends early. -/
inductive Stop where
  | help
  | usage (fault : UsageFault)
  deriving DecidableEq, Repr

/-- The value of an option. -/
inductive Value where
  /-- The option is not given. -/
  | missing
  /-- A double hyphen stands for the value, and is dropped. -/
  | hollow
  | text (s : String)
  deriving DecidableEq, Repr

/-- The value that a word stands for. -/
def Value.ofWord (s : String) : Value := if s = "--" then hollow else text s

/-- What is asked for. -/
structure Arguments where
  format : Option Format := none
  solution : Value := .missing
  mappings : List (List String) := []
  output : Value := .missing
  serve : Bool := false
  project : Value := .missing
  parameters : List String := []
  deriving DecidableEq, Repr

/-- What is asked for after one more option with its values. -/
def Arguments.choose (a : Arguments) (o : CliOption) (values : List String) : Arguments :=
  let value := values.head?.elim .missing Value.ofWord
  match o with
  | .help => a
  | .format f => { a with format := some f }
  | .solution => { a with solution := value }
  | .mapping => { a with mappings := a.mappings ++ [values] }
  | .output => { a with output := value }
  | .serve => { a with serve := true }
  | .project => { a with project := value }

/-- What the words are. All words after a double hyphen are plain. -/
def classifyAll : List String → Except Stop (List Word)
  | [] => .ok []
  | "--" :: rest => .ok (.doubleHyphen :: rest.map .plain)
  | s :: rest =>
    match Word.classify s with
    | .error names => .error (.usage (.ambiguous s names))
    | .ok word => (classifyAll rest).map (word :: ·)

/-- The word as it was given, an option by its name. -/
def Word.text : Word → String
  | plain s => s
  | doubleHyphen => "--"
  | known o => o.name
  | unknown s => s

/-- Where a reading stands: what is asked for, the formats named in it, the words
left over, and whether its plain words have been taken. -/
structure Progress where
  arguments : Arguments
  formats : List Format := []
  leftOver : List String := []
  tookWords : Bool := false

namespace Progress

/-- An option with its values. -/
def take (p : Progress) (o : CliOption) (values : List String) : Except Stop Progress :=
  let next := { p with arguments := p.arguments.choose o values }
  match o with
  | .help => .error .help
  | .format f =>
    match p.formats.find? (· ≠ f) with
    | some other => .error (.usage (.conflict o (.format other)))
    | none => .ok { next with formats := f :: p.formats }
  | _ => .ok next

end Progress

/-- The options that letters right behind an option without values stand for;
`limit` bounds their number. -/
def letterOptions (o : CliOption) (value : List Char) : Nat → Except Stop (List CliOption)
  | 0 => .ok []
  | limit + 1 =>
    match value with
    | [] => .error (.usage (.ignoredValue o ""))
    | c :: rest =>
      match CliOption.ofName? (String.ofList ['-', c]) with
      | none => .error (.usage (.ignoredValue o (String.ofList value)))
      | some next =>
        if rest.isEmpty then .ok [next]
        else (letterOptions next rest limit).map (next :: ·)

/-- An option with its value in the same word. -/
def takeWithValue (p : Progress) (o : GivenOption) (value : String) : Except Stop Progress := do
  match o.option.arity with
  | 0 =>
    if Text.startsWith "--" o.name then throw (.usage (.ignoredValue o.option value))
    let more ← letterOptions o.option value.toList (value.length + 1)
    (o.option :: more).foldlM (fun p o => p.take o []) p
  | 1 => p.take o.option [value]
  | _ => throw (.usage (.missingValues o.option))

/-- The first plain words, as many as are asked for. -/
def plainWords : Nat → List Word → Option (List String)
  | 0, _ => some []
  | n + 1, .plain s :: rest => (plainWords n rest).map (s :: ·)
  | _, _ => none

/-- Takes an option at the start of the words, and gives the words after it. -/
def takeOption (p : Progress) (o : GivenOption) (rest : List Word) :
    Except Stop (Progress × List Word) :=
  match o.value with
  | some value => (takeWithValue p o value).map (·, rest)
  | none =>
    match plainWords o.option.arity rest with
    | none => .error (.usage (.missingValues o.option))
    | some values => (p.take o.option values).map (·, rest.drop o.option.arity)

/-- Whether a reading takes a word as a parameter. The first reading takes
double hyphens only, and drops them. -/
def isTaken (takesWords : Bool) : Word → Bool
  | .doubleHyphen => true
  | .plain _ => takesWords
  | _ => false

/-- Takes the parameters at the start of the words, unless parameters have been
taken before. What is taken ends where an option stands. -/
def takeWords (takesWords : Bool) (p : Progress) (words : List Word) : Progress × List Word :=
  if p.tookWords then (p, words)
  else
    let taken := (words.takeWhile (isTaken takesWords)).map Word.text
    let arguments :=
      if takesWords then { p.arguments with parameters := taken.erase "--" } else p.arguments
    ({ p with arguments, tookWords := true }, words.dropWhile (isTaken takesWords))

/-- Reads words up to the last option among them, at most `limit` steps. -/
def readOptions (takesWords : Bool) : Nat → Progress → List Word →
    Except Stop (Progress × List Word)
  | 0, p, words => .ok (p, words)
  | limit + 1, p, words =>
    if !words.any Word.isOption then .ok (p, words)
    else match words with
      | [] => .ok (p, words)
      | .known o :: rest =>
        match takeOption p o rest with
        | .ok (p, rest) => readOptions takesWords limit p rest
        | .error stop => .error stop
      | .unknown s :: rest =>
        readOptions takesWords limit { p with leftOver := p.leftOver ++ [s] } rest
      | _ =>
        let (p, rest) := takeWords takesWords p words
        if rest.length < words.length then readOptions takesWords limit p rest
        else
          let skipped := (words.takeWhile (!·.isOption)).map Word.text
          readOptions takesWords limit { p with leftOver := p.leftOver ++ skipped }
            (words.dropWhile (!·.isOption))

/-- One reading of the words: what they ask for, and the words left over. Every
step passes over a word. -/
def readOnce (takesWords : Bool) (arguments : Arguments) (given : List String) :
    Except Stop (Arguments × List String) := do
  let words ← classifyAll given
  let (p, rest) ← readOptions takesWords (words.length + 1) { arguments } words
  let (p, rest) := takeWords takesWords p rest
  pure (p.arguments, p.leftOver ++ rest.map Word.text)

/-- What the words of a command line ask for. -/
def parse (words : List String) : Except Stop Arguments := do
  let (arguments, leftOver) ← readOnce false {} words
  let (arguments, leftOver) ← readOnce true arguments leftOver
  if leftOver.isEmpty then pure arguments else throw (.usage (.unrecognized leftOver))

/-- The name and the value of a parameter. -/
def splitParameter (word : String) : Except UsageFault (String × String) :=
  match Text.splitAtWord ['='] word.toList with
  | some (first :: name, value) => .ok (String.ofList (first :: name), String.ofList value)
  | _ => .error (.badParameter word)

/-- The parameters that words stand for. -/
def readParameters (words : List String) : Except UsageFault Parameters :=
  (words.mapM splitParameter).map fun pairs =>
    Keyed.ofList (pairs.map fun (name, value) => (name, .text value))

end SolutionScript.Cli
