import SolutionScript.FileSystem.Disk
import SolutionScript.FileSystem.FileUri
import SolutionScript.Keyed

/-!
# Project roots

The folder from which the tools of the server see relative paths. The first
one counts that is a folder: the first root of the client, the environment
variables, the project folder of the server. If none is, it is the folder in
which the server was started, whether that exists or not.
-/

namespace SolutionScript.Server

open FileSystem

/-- What the server was started with. -/
structure RootSettings where
  project : Option HostPath := none
  start : Option HostPath := none
  deriving DecidableEq, Repr

namespace RootSettings

/-- A path, unless it is empty. -/
def pathOf (s : String) : Option HostPath := if s = "" then none else some (HostPath.parse s)

/-- The settings for a project folder and a starting folder. Empty ones are
none. -/
def configure (project start : String) : RootSettings := ⟨pathOf project, pathOf start⟩

end RootSettings

/-- What a client says about its roots. -/
inductive ClientRoots where
  /-- There is no client. -/
  | absent
  /-- The client can not list its roots. -/
  | unsupported
  | listed (uris : List String)
  deriving DecidableEq, Repr

/-- The first path at which a folder stands. -/
def firstFolder (d : Disk) : List HostPath → Except Fault (Option HostPath)
  | [] => .ok none
  | p :: rest => do
    if ← d.isFolder p then pure (some p) else firstFolder d rest

/-- The path of the first root of a client. -/
def clientRoot? : ClientRoots → Option HostPath
  | .listed (uri :: _) => FileUri.path? uri
  | _ => none

/-- The environment variables that name a root. -/
def rootVariables : List String := ["SLINGSHOT_PROJECT_ROOT", "MCP_PROJECT_ROOT"]

/-- The paths that may be the root, in order. -/
def rootCandidates (settings : RootSettings) (environment : Keyed String) (client : ClientRoots) :
    List HostPath :=
  (clientRoot? client).toList ++
    rootVariables.filterMap (fun name => (environment.get? name).bind RootSettings.pathOf) ++
    settings.project.toList

/-- The root from which relative paths are seen. -/
def projectRoot (d : Disk) (settings : RootSettings) (environment : Keyed String)
    (client : ClientRoots) : Except Fault (Option HostPath) := do
  let found ← firstFolder d (rootCandidates settings environment client)
  pure (found.or settings.start)

/-- A path, seen from the root. -/
def resolvePath (path : HostPath) (root : Option HostPath) : HostPath :=
  match root with
  | some r => r.join path
  | none => path

end SolutionScript.Server
