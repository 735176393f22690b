import SolutionScript.Script.NAnt
import SolutionScript.Script.NMake
import SolutionScript.Script.Sink

/-!
# Formats

The formats in which scripts can be written, and the parameters that each of
them understands. The table is the only place that says which formats there
are; help texts and tools read it from here.
-/

namespace SolutionScript

/-- A parameter that a format understands. -/
structure ParameterSpec where
  name : String
  required : Bool
  description : String
  deriving DecidableEq, Repr

/-- The formats of scripts. -/
inductive Format where
  | nant
  | nmake
  deriving DecidableEq, Repr

namespace Format

/-- All formats. -/
def all : List Format := [nant, nmake]

/-- The name of a format. -/
def name : Format → String
  | nant => NAnt.formatName
  | nmake => NMake.formatName

/-- What a format is. -/
def description : Format → String
  | nant => "NAnt build file (XML), one target per project"
  | nmake => "NMAKE makefile, one rule per project"

/-- The parameters that every format understands. -/
def commonParameters : List ParameterSpec :=
  [⟨Parameters.baseDirectory, true, "directory receiving the built assemblies"⟩,
    ⟨Parameters.configuration, false, "project configuration to compile (default Debug)"⟩]

/-- The parameters that a format understands. -/
def parameters (f : Format) : List ParameterSpec :=
  commonParameters ++ match f with
    | nant => [⟨"project.name", false, "name of the NAnt project (default: solution name)"⟩]
    | nmake =>
      [⟨"csc", false, "C# compiler command (default csc)"⟩,
        ⟨"vbc", false, "VB.NET compiler command (default vbc)"⟩,
        ⟨"resgen", false, "resource compiler command for .resx files (default resgen)"⟩]

/-- The names of all formats. -/
def allNames : List String := all.map name

/-- The format with a name. -/
def ofName (s : String) : Except ToolFault Format :=
  match all.find? (·.name = s) with
  | some f => .ok f
  | none => .error (.unsupportedFormat s allNames)

/-- The required parameters that say nothing. -/
def missing (f : Format) (m : Parameters) : List String :=
  ((f.parameters.filter (·.required)).map (·.name)).filter fun name => (m.given? name).isNone

/-- Checks that all required parameters say something. -/
def require (f : Format) (m : Parameters) : Except ToolFault Unit :=
  if (f.missing m).isEmpty then .ok () else .error (.missingParameter f.name (f.missing m))

/-- The script in a format. -/
def script (f : Format) (o : BuildOrder) (m : Parameters) (solutionName : String) :
    Except Failure String :=
  match f with
  | nant => NAnt.script o m solutionName
  | nmake => NMake.script o m solutionName

/-- Writes the script in a format to a sink, once it is complete. -/
def write (f : Format) (o : BuildOrder) (m : Parameters) (solutionName : String) (sink : Sink) :
    Sink × Except Failure Unit :=
  match f.script o m solutionName with
  | .ok script => sink.emit f.name script
  | .error failure => (sink, .error failure)

end Format

end SolutionScript
