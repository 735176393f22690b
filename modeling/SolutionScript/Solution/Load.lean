import SolutionScript.Solution.Descriptor.Read
import SolutionScript.Solution.Mapping
import SolutionScript.Solution.SolutionText
import SolutionScript.Solution.Template

/-!
# Loading solutions

Reading a solution with the descriptors of all its projects. No two projects
of a loaded solution share an identifier or a name, their indices count from
zero, and none depends on itself. References between projects are resolved
once all projects are known, so a reference may point forward.
-/

namespace SolutionScript.Solution

open FileSystem

/-- The types of projects that can be built. -/
def buildableTypes : List String :=
  ["{FAE04EC0-301F-11D3-BF4B-00C04F79EFBC}", "{9A19103F-16F7-4668-BE54-9A1E7A4F7556}",
    "{F184B08F-C81C-45F6-A57F-5ABD9991F28F}"]

/-- The type of enterprise templates. -/
def templateType : String := "{FE3BBBB6-72D5-11D2-9ACE-00C04F79A2A4}"

/-- The file of a descriptor, found by its mapped path. -/
def descriptorFile (base : HostPath) (mappings : List PathMapping) (name path : String) :
    Except Failure HostPath :=
  let location := mapPath mappings path
  if isRemote location then .error (.tool (.missingProject name location .needsMapping))
  else .ok (base.join (HostPath.parse (DescriptorPath.toHost location)))

/-- The projects that a block of a solution stands for. -/
def projectsOf (d : Disk) (base : HostPath) (mappings : List PathMapping) (e : SolutionEntry) :
    Except Failure (List Project) := do
  if e.typeId ∈ buildableTypes then
    pure [{ id := e.projectId, name := e.name, path := e.path }]
  else if e.typeId = templateType then
    let file ← descriptorFile base mappings e.name e.path
    let items ← Template.read d file e.path e.name
    pure (items.map fun item => { id := item.projectId, name := item.name, path := item.path })
  else pure []

/-- A project with its references still to be resolved, and the line that
declares it. -/
structure Loaded where
  project : Project
  references : List ProjectReference
  line : Nat

/-- Adds a project to those loaded so far. -/
def loadProject (d : Disk) (file base : HostPath) (mappings : List PathMapping) (line : Nat)
    (done : List Loaded) (p : Project) : Except Failure (List Loaded) := do
  let refuse (cause : DescriptorCause) : Except Failure (List Loaded) :=
    .error (.tool (.descriptor file.render cause { line := some line }))
  if done.any (·.project.id = p.id) then refuse (.duplicateId p.id)
  else if done.any (·.project.name = p.name) then refuse (.duplicateName p.name)
  else
    let p := { p with index := done.length }
    let source ← descriptorFile base mappings p.name p.path
    let (p, references) ← Descriptor.read d p source
    pure (done ++ [⟨p, references, line⟩])

/-- Adds the projects of a block to those loaded so far. -/
def loadEntry (d : Disk) (file base : HostPath) (mappings : List PathMapping)
    (done : List Loaded) (e : SolutionEntry) : Except Failure (List Loaded) := do
  (← projectsOf d base mappings e).foldlM (loadProject d file base mappings e.line) done

/-- The form in which descriptor paths are compared. -/
def comparable (path : String) : String := DescriptorPath.folded (DescriptorPath.normal path)

/-- The identifier that a reference points to. One that points to nothing keeps
what it says. -/
def resolveReference (projects : List Project) (r : ProjectReference) : String :=
  let id := r.projectId.getD ""
  let path := r.path.getD ""
  if id ≠ "" && projects.any (·.id = id) then id
  else if path ≠ "" then
    match projects.find? fun p => comparable p.path = comparable path with
    | some p => p.id
    | none => path
  else if id ≠ "" then id
  else r.name

/-- The project with its dependencies. -/
def resolve (file : HostPath) (projects : List Project) (dependencies : Keyed (List String))
    (l : Loaded) : Except Failure Project :=
  let ids := l.references.map (resolveReference projects) ++
    (dependencies.get? l.project.id).getD []
  let p := ids.foldl Project.addDependency l.project
  if p.id ∈ p.dependencies then
    .error (.tool (.descriptor file.render (.selfReference p.name) { line := some l.line }))
  else .ok p

/-- The lines of a solution file. -/
def readLines (d : Disk) (file : HostPath) : Except Failure (List String) :=
  match d.read file with
  | .error (.system reason _ _) =>
    .error (.tool (.descriptor file.render (.unreadable reason.text) {}))
  | .error fault => .error (.disk fault)
  | .ok bytes =>
    match Text.decode (Text.dropByteOrderMark bytes) with
    | .ok cs => .ok (Text.lines (String.ofList cs))
    | .error fault => .error (.tool (.descriptor file.render (.notText fault.reason) {}))

/-- The solution in a file. The mappings locate projects and leave their
declared paths alone. -/
def load (d : Disk) (file : HostPath) (mappings : List PathMapping) :
    Except Failure Solution := do
  let lines ← readLines d file
  match SolutionText.parse lines with
  | .error (cause, line) =>
    throw (.tool (.descriptor file.render cause { line := some line }))
  | .ok text =>
    let loaded ← text.entries.foldlM (loadEntry d file file.parent mappings) []
    let projects ← loaded.mapM (resolve file (loaded.map (·.project)) text.dependencies)
    pure { path := file.render, formatVersion := text.version, projects }

end SolutionScript.Solution
