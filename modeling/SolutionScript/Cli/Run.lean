import SolutionScript.Cli.Arguments
import SolutionScript.Cli.Help
import SolutionScript.Convert
import SolutionScript.Output

/-!
# Running the command line

What a command line does to the disk, what it prints and the code it ends
with: 0 for success, 1 for a failed conversion, 2 for words that are not
understood. Failures that the tool does not word itself are handed on. Printing
always succeeds, and what a run logs on the error stream besides is left out.
-/

namespace SolutionScript.Cli

open FileSystem

/-- What the program prints, and the code it ends with. -/
structure Printed where
  code : Nat
  out : String := ""
  err : String := ""
  deriving DecidableEq, Repr

/-- How a run ends. -/
inductive Outcome where
  | printed (p : Printed)
  /-- The server is asked for. -/
  | serve (project : Value)
  /-- A failure that the command line does not word. -/
  | failed (failure : Failure)
  /-- The solution is given, but not as a path. -/
  | solutionWithoutPath

/-- A line that reports an error. -/
def errorLine (message : String) : String := programName ++ ": error: " ++ message ++ "\n"

/-- The end of a run whose words are not understood. -/
def refuse (fault : UsageFault) : Outcome :=
  .printed { code := 2, err := usage ++ errorLine fault.text }

/-- The output as messages show it. -/
def shownOutput : Value → String
  | .missing => "None"
  | .hollow => "[]"
  | .text s => s

/-- How a run ends that fails, after `out` has been printed. Any refusal of the
system is taken for one of the output. -/
def failed (output : Value) (out : String) : Failure → Outcome
  | .tool fault => .printed { code := 1, out, err := errorLine fault.text }
  | .disk (.system reason _ _) => cannotWrite reason
  | .disk (.device reason) => cannotWrite reason
  | failure => .failed failure
where
  /-- The end of a run that the system refuses. -/
  cannotWrite (reason : Reason) : Outcome :=
    .printed {
      code := 1
      out
      err := errorLine ("cannot write " ++ shownOutput output ++ ": " ++ reason.text) }

/-- A run that fails does not end with the code of success. -/
theorem code_failed {output : Value} {out : String} {failure : Failure} {p : Printed}
    (h : failed output out failure = .printed p) : p.code = 1 := by
  unfold failed failed.cannotWrite at h
  split at h <;> cases h <;> rfl

/-- The request that arguments make, if a solution that is given is a path. -/
def Arguments.request? (a : Arguments) : Option Request :=
  match a.solution with
  | .missing => some { mappings := a.mappings }
  | .hollow => none
  | .text s => some { solution := some (HostPath.parse s), mappings := a.mappings }

/-- The file that the script is written to, if it is not printed. -/
def Arguments.target? (a : Arguments) : Option HostPath :=
  match a.output with
  | .text s => if s = "" then none else some (HostPath.parse s)
  | _ => none

/-- Converts what is asked for, in a format and with parameters, and writes the
script to a file. -/
def deliverTo (d : Disk) (target : HostPath) (a : Arguments) (r : Request) (f : Format)
    (m : Parameters) : Disk × Outcome :=
  match render d f.name m r with
  | .error failure => (d, failed a.output "" failure)
  | .ok rendered =>
    match d.writeText target (Text.codePoints rendered.script) with
    | (d, .ok ()) => (d, .printed { code := 0 })
    | (d, .error failure) => (d, failed a.output "" failure)

/-- Converts what is asked for, in a format and with parameters, and prints the
script or writes it to a file. -/
def deliver (d : Disk) (a : Arguments) (r : Request) (f : Format) (m : Parameters) :
    Disk × Outcome :=
  match a.target? with
  | some target => deliverTo d target a r f m
  | none =>
    match convertInto d f.name m r {} with
    | (out, .ok _) => (d, .printed { code := 0, out := out.content })
    | (out, .error failure) => (d, failed a.output out.content failure)

/-- Converts as the arguments ask, in a format and with parameters. -/
def runConversion (d : Disk) (a : Arguments) (f : Format) (m : Parameters) : Disk × Outcome :=
  match f.require m, a.request? with
  | .error fault, _ => (d, failed a.output "" (.tool fault))
  | .ok (), none => (d, .solutionWithoutPath)
  | .ok (), some r => deliver d a r f m

/-- Runs what the arguments ask for. -/
def runArguments (d : Disk) (a : Arguments) : Disk × Outcome :=
  if a.serve then (d, .serve a.project)
  else match a.format with
    | none => (d, refuse .noFormat)
    | some f =>
      match readParameters a.parameters with
      | .error fault => (d, refuse fault)
      | .ok m => runConversion d a f m

/-- Runs a command line. -/
def run (d : Disk) (words : List String) : Disk × Outcome :=
  if words.isEmpty then (d, .printed { code := 1, err := summary })
  else match parse words with
    | .error .help => (d, .printed { code := 0, out := help })
    | .error (.usage fault) => (d, refuse fault)
    | .ok a => runArguments d a

/-! ## Runs that come to a conversion -/

variable {d : Disk} {a : Arguments} {f : Format} {m : Parameters} {r : Request}

theorem runConversion_eq_deliver (hrequire : f.require m = .ok ())
    (hrequest : a.request? = some r) : runConversion d a f m = deliver d a r f m := by
  rw [runConversion, hrequire, hrequest]

theorem runArguments_eq_deliver (hserve : a.serve = false) (hformat : a.format = some f)
    (hread : readParameters a.parameters = .ok m) (hrequire : f.require m = .ok ())
    (hrequest : a.request? = some r) : runArguments d a = deliver d a r f m := by
  rw [runArguments, hserve, hformat]
  simp only [Bool.false_eq_true, if_false, hread, runConversion_eq_deliver hrequire hrequest]

theorem run_eq_runArguments {words : List String} (hwords : words ≠ [])
    (hparse : parse words = .ok a) : run d words = runArguments d a := by
  have hempty : words.isEmpty = false := by simpa using hwords
  rw [run, hempty, hparse]
  rfl

end SolutionScript.Cli
