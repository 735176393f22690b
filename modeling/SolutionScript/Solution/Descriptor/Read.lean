import SolutionScript.Solution.Descriptor.Attributes
import SolutionScript.Solution.Descriptor.Properties

/-!
# Project descriptors

Reading the descriptor of a project, in whichever of its forms it is written.
The path of the built assembly follows from the default configuration.
-/

namespace SolutionScript.Descriptor

/-- Where the assembly that a project builds goes. -/
def outputPathOf (p : Project) : String :=
  DescriptorPath.joinAll p.directory
    [DescriptorPath.ofHost (p.configuration "").outputPath, p.outputFile]

/-- The project as its descriptor in a file describes it, and its references to
other projects. -/
def read (d : FileSystem.Disk) (p : Project) (file : HostPath) :
    Except Failure (Project × List ProjectReference) := do
  let root ← load d file p.name
  let (p, references) ←
    match root.localName with
    | "VisualStudioProject" => Attributes.read p root file
    | "Project" => Properties.read d p root file
    | name => .error (.tool (.descriptor file.render (.unknownRoot name) {}))
  pure ({ p with outputPath := outputPathOf p }, references)

end SolutionScript.Descriptor
