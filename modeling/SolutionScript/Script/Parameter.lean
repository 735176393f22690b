import SolutionScript.Keyed

/-!
# Parameters

The named values that a script is written with. They are texts; other values
are kept as they are, because only some scripts can show them.
-/

namespace SolutionScript

/-- The value of a parameter. -/
inductive ParameterValue where
  | text (s : String)
  | number (n : Int)
  | truth (b : Bool)
  | missing
  deriving DecidableEq, Repr

namespace ParameterValue

/-- The value as a text. -/
def shown : ParameterValue → String
  | text s => s
  | number n => toString n
  | truth true => "True"
  | truth false => "False"
  | missing => "None"

/-- The name of the type of the value. -/
def typeName : ParameterValue → String
  | text _ => "str"
  | number _ => "int"
  | truth _ => "bool"
  | missing => "NoneType"

/-- Whether the value says anything: it is not empty, zero, false or missing. -/
def isGiven : ParameterValue → Bool
  | text s => s != ""
  | number n => n != 0
  | truth b => b
  | missing => false

/-- The text that the value is, empty if it is no text. -/
def textOrEmpty : ParameterValue → String
  | text s => s
  | _ => ""

end ParameterValue

/-- Values by name, in order. -/
abbrev Parameters := Keyed ParameterValue

namespace Parameters

/-- The value of a parameter if it says anything. -/
def given? (m : Parameters) (name : String) : Option ParameterValue :=
  (m.get? name).filter (·.isGiven)

/-- The directory that receives what is built. -/
def baseDirectory : String := "build.basedir"

/-- The configuration that is built. -/
def configuration : String := "build.configuration"

/-- The name of the configuration that is built, empty if none is named. -/
def configurationName (m : Parameters) : String :=
  match m.get? configuration with
  | some value => value.textOrEmpty
  | none => ""

end Parameters

end SolutionScript
