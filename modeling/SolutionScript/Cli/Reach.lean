import SolutionScript.Cli.Run

/-!
# What a run reaches

The files that a command line makes the program look at, as far as what is
known of the disk tells: the solution, the templates and descriptors that it
names, and the file that the script goes to. Whoever knows a part of a disk
only can add what is reached until nothing new comes, and then run on it.
-/

namespace SolutionScript.Cli

open FileSystem

/-- The files that a template lists, if the file is one. -/
def templateFiles (d : Disk) (file : HostPath) : List HostPath :=
  match Descriptor.load d file "" with
  | .ok root =>
    let items := ((Template.contents? root).map (·.items)).getD []
    items.map (Template.itemFile file)
  | .error _ => []

/-- The files of the projects that a block of a solution stands for. -/
def entryFiles (d : Disk) (base : HostPath) (mappings : List PathMapping) (e : SolutionEntry) :
    List HostPath :=
  let fileOf name path := (Solution.descriptorFile base mappings name path).toOption
  let listed := (Solution.projectsOf d base mappings e).toOption.getD []
  (fileOf e.name e.path).toList ++ listed.filterMap fun p => fileOf p.name p.path

/-- The files that a solution names, after the file of the solution itself. -/
def solutionFiles (d : Disk) (mappings : List PathMapping) (file : HostPath) : List HostPath :=
  match (Solution.readLines d file).toOption.map SolutionText.parse with
  | some (.ok text) => file :: text.entries.flatMap (entryFiles d file.parent mappings)
  | _ => [file]

/-- The files that a request reaches. -/
def requestFiles (d : Disk) (r : Request) : List HostPath :=
  let mappings := (PathMapping.ofPairs r.mappings).toOption.getD []
  let found := (Solution.locate d r.solution r.folder).toOption
  r.solution.toList ++ (found.map (solutionFiles d mappings)).getD []

/-- The paths that a run of a command line reaches, given those that are known
to be reached. -/
def reached (d : Disk) (words : List String) (known : List HostPath) : List HostPath :=
  match parse words with
  | .ok a =>
    a.target?.toList ++ (a.request?.map (requestFiles d)).getD [] ++
      known.flatMap (templateFiles d)
  | .error _ => []

end SolutionScript.Cli
