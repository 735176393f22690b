import SolutionScript.Convert
import SolutionScript.Output
import SolutionScript.Server.Json
import SolutionScript.Server.ProjectRoot

/-!
# Tools

What the server offers: the build order of a solution, its conversion, and the
catalog of formats. A conversion writes its script to a file or gives it back;
only the file asked for can change. Left out are the protocol by which clients
call the tools, with its checks of what they send, and what the server logs.
-/

namespace SolutionScript.Server

open FileSystem

/-! ## Build orders -/

/-- A project in a build order. -/
structure ProjectReport where
  name : String
  id : String
  kind : Language
  path : String
  output : String
  /-- The names of the projects that it depends on. -/
  dependencies : List String
  deriving DecidableEq, Repr

/-- A solution with its projects in build order. -/
structure OrderReport where
  solution : String
  projects : List ProjectReport
  deriving DecidableEq, Repr

/-- What is told about the projects of an order. -/
def describe (o : BuildOrder) : Except Failure (List ProjectReport) :=
  o.projects.mapM fun p => (o.dependencies p).map fun needed =>
    ⟨p.name, p.id, p.kind, p.path, p.outputPath, needed.map (·.name)⟩

/-- The build order of a solution. -/
def buildOrder (d : Disk) (r : Request) : Except Failure OrderReport := do
  let s ← loadOrdered d r
  pure ⟨s.name, ← describe s.order⟩

/-! ## Conversions -/

/-- Where the script of a conversion is. -/
inductive Delivery where
  | script (text : String)
  | file (path : HostPath)
  deriving DecidableEq, Repr

/-- A conversion that is done. -/
structure ConversionReport where
  format : String
  /-- The names of the projects in build order. -/
  projects : List String
  delivery : Delivery
  deriving DecidableEq, Repr

/-- What a conversion is asked for: the request with its format, parameters and,
unless it is empty, the output file. -/
structure ConversionRequest where
  format : String
  parameters : Parameters := []
  request : Request := {}
  output : String := ""

/-- The script of a conversion, once its parameters are checked. -/
def checkedScript (d : Disk) (c : ConversionRequest) : Except Failure (BuildOrder × String) := do
  match (Format.ofName c.format).bind fun f => f.require c.parameters with
  | .error fault => throw (.tool fault)
  | .ok () =>
    let (order, buffer) ← convert d c.format c.parameters c.request {}
    pure (order, buffer.content)

/-- Converts a solution. -/
def runConversion (d : Disk) (c : ConversionRequest) : Disk × Except Failure ConversionReport :=
  match checkedScript d c with
  | .error failure => (d, .error failure)
  | .ok (order, script) =>
    if c.output = "" then (d, .ok ⟨c.format, order.names, .script script⟩)
    else
      let target := resolvePath (HostPath.parse c.output) c.request.folder
      match d.writeText target (Text.codePoints script) with
      | (d, .ok ()) => (d, .ok ⟨c.format, order.names, .file target⟩)
      | (d, .error failure) => (d, .error failure)

/-! ## The catalog -/

/-- A parameter in the catalog. -/
def specJson (s : ParameterSpec) : Json :=
  .object [("name", .text s.name), ("required", .truth s.required),
    ("description", .text s.description)]

/-- A format in the catalog. -/
def formatJson (f : Format) : Json :=
  .object [("name", .text f.name), ("description", .text f.description),
    ("parameters", .array (f.parameters.map specJson))]

/-- The catalog of formats. -/
def catalog : Json := .array (Format.all.map formatJson)

/-- The text of the catalog. -/
def catalogText : String := String.ofList (catalog.render 0)

/-- The names of the tools. -/
def toolNames : List String := ["list_formats", "get_build_order", "convert_solution"]

/-- A text that the server offers by its address. -/
structure Resource where
  uri : String
  mimeType : String
  content : String
  deriving DecidableEq, Repr

/-- The texts that the server offers. -/
def resources : List Resource := [⟨"slingshot://formats", "application/json", catalogText⟩]

/-! ## Failures of tools -/

/-- What a tool tells about a failure: what it says, and for a fault of the tool
also its kind and what it is about. -/
def failureReport : Failure → List (String × Detail)
  | .tool fault => ("kind", .text fault.kind) :: ("error", .text fault.text) :: fault.details
  | failure => [("error", .text failure.text)]

end SolutionScript.Server
