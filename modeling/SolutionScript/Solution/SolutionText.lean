import SolutionScript.Failure
import SolutionScript.Keyed
import SolutionScript.Solution.Guid
import SolutionScript.Text.Letter
import SolutionScript.Text.Lines

/-!
# Solution texts

The line format of solutions: a header with the version, then blocks that
declare projects, then global sections. Dependencies stand in a section of a
project's block or in a global one. Every line is read without the blanks
around it; blank lines and lines that start with a number sign are passed
over.
-/

namespace SolutionScript

/-- A project as a block of a solution declares it. -/
structure SolutionEntry where
  typeId : String
  name : String
  path : String
  projectId : String
  /-- The number of the line that opens the block. -/
  line : Nat
  dependencies : List String := []
  deriving DecidableEq, Repr

/-- What a solution text says. -/
structure SolutionText where
  version : String
  entries : List SolutionEntry
  /-- For each project the identifiers of those that are built before it. -/
  dependencies : Keyed (List String)
  deriving DecidableEq, Repr

namespace SolutionText

/-! ## Lines -/

/-- What the first line starts with. -/
def header : String := "Microsoft Visual Studio Solution File, Format Version"

/-- A non-empty text up to a closing character, and what follows it. -/
def upTo (close : Char) (cs : List Char) : Option (List Char × List Char) :=
  match cs.takeWhile (· != close), cs.dropWhile (· != close) with
  | [], _ => none
  | _, [] => none
  | inside, _ :: rest => some (inside, rest)

/-- A non-empty text between quotes, and what follows it. -/
def quotedPart : List Char → Option (List Char × List Char)
  | '"' :: rest => upTo '"' rest
  | _ => none

/-- An identifier with its braces, and what follows it. -/
def bracedPart : List Char → Option (List Char × List Char)
  | '\x7b' :: rest => (upTo '\x7d' rest).map fun (inside, rest) =>
      ('\x7b' :: inside ++ ['\x7d'], rest)
  | _ => none

/-- What follows a character with blanks around it. -/
def afterMark (mark : Char) (cs : List Char) : Option (List Char) :=
  match cs.dropWhile Text.isBlank with
  | c :: rest => if c = mark then some (rest.dropWhile Text.isBlank) else none
  | [] => none

/-- What follows a closing parenthesis. -/
def afterParen : List Char → Option (List Char)
  | ')' :: rest => some rest
  | _ => none

/-- What follows a point and a number. -/
def afterNumber : List Char → Option (List Char)
  | '.' :: digits =>
    if (digits.takeWhile Text.isDecimalDigit).isEmpty then none
    else some (digits.dropWhile Text.isDecimalDigit)
  | _ => none

/-- What a line that opens a block starts with. -/
def entryMark : List Char := "Project(".toList

/-- Reads a line that opens a block. -/
def readEntry (number : Nat) (line : List Char) : Option SolutionEntry := do
  let (typeId, rest) ← quotedPart (line.drop entryMark.length)
  let (name, rest) ← quotedPart (← afterMark '=' (← afterParen rest))
  let (path, rest) ← quotedPart (← afterMark ',' rest)
  let (id, rest) ← quotedPart (← afterMark ',' rest)
  if rest.all Text.isBlank then
    pure {
      typeId := String.ofList (Guid.normalizeList typeId)
      name := String.ofList name
      path := String.ofList path
      projectId := String.ofList (Guid.normalizeList id)
      line := number }
  else none

/-- Reads a dependency in the section of a block: an identifier, twice. -/
def readOwnDependency (line : List Char) : Option String := do
  let (target, rest) ← bracedPart line
  let (_, rest) ← bracedPart (← afterMark '=' rest)
  if rest.isEmpty then pure (String.ofList (Guid.normalizeList target)) else none

/-- Reads a dependency in a global section: an identifier with a number, and the
identifier of a project that is built before. -/
def readGlobalDependency (line : List Char) : Option (String × String) := do
  let (source, rest) ← bracedPart line
  let (target, rest) ← bracedPart (← afterMark '=' (← afterNumber rest))
  if rest.isEmpty then
    pure (String.ofList (Guid.normalizeList source), String.ofList (Guid.normalizeList target))
  else none

/-- What lines are, apart from dependencies. -/
inductive LineKind where
  | skipped
  | entry
  | entryEnd
  | sectionStart (name : String)
  | sectionEnd
  | other
  deriving DecidableEq, Repr

/-- The name of a section in a line that opens one. -/
def sectionName (line : List Char) : String :=
  if line.contains ')' then
    String.ofList (((line.dropWhile (· != '(')).drop 1).takeWhile (· != ')'))
  else ""

/-- What a line is. -/
def lineKind (line : List Char) : LineKind :=
  if line.isEmpty || line.head? = some '#' then .skipped
  else if entryMark.isPrefixOf line then .entry
  else if line = "EndProject".toList then .entryEnd
  else if "ProjectSection(".toList.isPrefixOf line || "GlobalSection(".toList.isPrefixOf line then
    .sectionStart (sectionName line)
  else if line = "EndProjectSection".toList || line = "EndGlobalSection".toList then .sectionEnd
  else .other

/-! ## Blocks -/

/-- What has been read: the finished blocks with the last one first, the open
block, the open section and the dependencies of global sections. -/
structure Progress where
  entries : List SolutionEntry := []
  current : Option SolutionEntry := none
  openSection : Option String := none
  dependencies : Keyed (List String) := []

/-- More dependencies of a project. -/
def addDependencies (m : Keyed (List String)) (id : String) (more : List String) :
    Keyed (List String) :=
  m.put id ((m.get? id).getD [] ++ more)

/-- The name of the sections that hold dependencies. -/
def dependencySection : String := "ProjectDependencies"

/-- Reads a line that is a dependency if the open section holds them. -/
def readDependency (p : Progress) (line : List Char) : Except DescriptorCause Progress :=
  if p.openSection ≠ some dependencySection then .ok p
  else match p.current with
    | some entry =>
      match readOwnDependency line with
      | some id => .ok { p with current := some { entry with
          dependencies := entry.dependencies ++ [id] } }
      | none => .error .malformedDependency
    | none =>
      match readGlobalDependency line with
      | some (source, target) =>
        .ok { p with dependencies := addDependencies p.dependencies source [target] }
      | none => .error .malformedDependency

/-- Reads a line, already without blanks around it. -/
def readLine (p : Progress) (number : Nat) (line : List Char) : Except DescriptorCause Progress :=
  match lineKind line, p.current with
  | .skipped, _ => .ok p
  | .entry, none =>
    match readEntry number line with
    | some entry => .ok { p with current := some entry }
    | none => .error .malformedProject
  | .entryEnd, some entry =>
    if p.openSection.isSome then .error .endInSection
    else .ok { p with entries := entry :: p.entries, current := none }
  | .entry, some entry => .error (.missingEnd entry.name)
  | .sectionStart name, _ => .ok { p with openSection := some name }
  | .sectionEnd, _ => .ok { p with openSection := none }
  | .entryEnd, none => readDependency p line
  | .other, _ => readDependency p line

/-- A cause, and the number of the line that it is about. -/
abbrev LineFault := DescriptorCause × Nat

/-- Reads lines, the first of which has a given number. -/
def readLines (p : Progress) (number : Nat) : List String → Except LineFault Progress
  | [] => .ok p
  | line :: rest =>
    match readLine p number (Text.trimList line.toList) with
    | .ok p => readLines p (number + 1) rest
    | .error cause => .error (cause, number)

/-- What the blocks and sections say together: for each project the targets of
the global sections, and then those of its blocks. -/
def Progress.finish (p : Progress) (version : String) : SolutionText :=
  let entries := p.entries.reverse
  { version
    entries
    dependencies := entries.foldl (fun m e =>
      if e.dependencies.isEmpty then m else addDependencies m e.projectId e.dependencies)
      p.dependencies }

/-- Reads the lines of a solution. -/
def parse (lines : List String) : Except LineFault SolutionText :=
  let blank := (lines.takeWhile Text.isBlankText).length
  match lines.drop blank with
  | [] => .error (.notSolution, blank + 1)
  | first :: rest =>
    let first := Text.trim first
    if !Text.startsWith header first then .error (.notSolution, blank + 1)
    else
      let version := Text.trim (Text.dropChars header.length first)
      match readLines {} (blank + 2) rest with
      | .error fault => .error fault
      | .ok p =>
        match p.current with
        | some entry => .error (.missingEnd entry.name, entry.line)
        | none => .ok (p.finish version)

end SolutionText

end SolutionScript
