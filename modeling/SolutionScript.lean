import SolutionScript.Cli.Arguments
import SolutionScript.Cli.Help
import SolutionScript.Cli.Reach
import SolutionScript.Cli.Run
import SolutionScript.Cli.Word
import SolutionScript.Convert
import SolutionScript.Failure
import SolutionScript.FileSystem.Disk
import SolutionScript.FileSystem.Fault
import SolutionScript.FileSystem.FileUri
import SolutionScript.FileSystem.Glob
import SolutionScript.FileSystem.NamePattern
import SolutionScript.FileSystem.Path
import SolutionScript.FileSystem.Tree
import SolutionScript.FileSystem.UriHost
import SolutionScript.Graph.BuildOrder
import SolutionScript.Graph.Cycle
import SolutionScript.Keyed
import SolutionScript.Main
import SolutionScript.Output
import SolutionScript.Script.Format
import SolutionScript.Script.NAnt
import SolutionScript.Script.NMake
import SolutionScript.Script.Parameter
import SolutionScript.Script.Sink
import SolutionScript.Server.Json
import SolutionScript.Server.ProjectRoot
import SolutionScript.Server.Tools
import SolutionScript.Solution.Condition
import SolutionScript.Solution.Descriptor.Attributes
import SolutionScript.Solution.Descriptor.Properties
import SolutionScript.Solution.Descriptor.Read
import SolutionScript.Solution.Descriptor.Reference
import SolutionScript.Solution.DescriptorPath
import SolutionScript.Solution.Guid
import SolutionScript.Solution.Include
import SolutionScript.Solution.Load
import SolutionScript.Solution.Locate
import SolutionScript.Solution.Mapping
import SolutionScript.Solution.Project
import SolutionScript.Solution.SolutionText
import SolutionScript.Solution.Template
import SolutionScript.Text.Blank
import SolutionScript.Text.Case
import SolutionScript.Text.CaseTable
import SolutionScript.Text.CodePoint
import SolutionScript.Text.Letter
import SolutionScript.Text.LetterTable
import SolutionScript.Text.Lines
import SolutionScript.Text.PrintableTable
import SolutionScript.Text.Quoted
import SolutionScript.Text.Split
import SolutionScript.Text.Utf8
import SolutionScript.Xml.Character
import SolutionScript.Xml.CodePage
import SolutionScript.Xml.Content
import SolutionScript.Xml.Doctype
import SolutionScript.Xml.Document
import SolutionScript.Xml.Encoding
import SolutionScript.Xml.Fault
import SolutionScript.Xml.NameTable
import SolutionScript.Xml.Namespace
import SolutionScript.Xml.Node
import SolutionScript.Xml.Printer
import SolutionScript.Xml.Prolog
import SolutionScript.Xml.Token
import SolutionScript.Proofs.Graph.SortKey
import SolutionScript.Proofs.Graph.Dependence
import SolutionScript.Proofs.Fallible
import SolutionScript.Proofs.Graph.Search
import SolutionScript.Proofs.Graph.GreedyWalk
import SolutionScript.Proofs.Graph.Progress
import SolutionScript.Proofs.Graph.LeastOrder
import SolutionScript.Proofs.Graph.Outcome
import SolutionScript.Proofs.Solution.Loading
import SolutionScript.Proofs.Solution.Faults
import SolutionScript.Proofs.Text.Encode
import SolutionScript.Proofs.Text.Lines
import SolutionScript.Proofs.Solution.PlainFile
import SolutionScript.Proofs.Solution.LoadedOrder
import SolutionScript.Proofs.Text.Span
import SolutionScript.Proofs.Solution.LineForm
import SolutionScript.Proofs.Solution.Sections
import SolutionScript.Proofs.Solution.Dependencies
import SolutionScript.Proofs.Solution.Listing
import SolutionScript.Proofs.Xml.Tag
import SolutionScript.Proofs.Xml.Content
import SolutionScript.Proofs.Xml.Document
import SolutionScript.Proofs.Text.Over
import SolutionScript.Proofs.Graph.Members
import SolutionScript.Proofs.Script.NAnt
import SolutionScript.Proofs.Script.Makefile
import SolutionScript.Proofs.Script.NMake
import SolutionScript.Proofs.FileSystem.Walk
import SolutionScript.Proofs.FileSystem.Replace
import SolutionScript.Proofs.Cli.Parts
import SolutionScript.Proofs.Conversion
import SolutionScript.Proofs.FrontEnds
import SolutionScript.Proofs.Delivery
import SolutionScript.Proofs.FileSystem.Glob
import SolutionScript.Proofs.Escapes
import SolutionScript.Proofs.Solution.Location
import SolutionScript.Proofs.Solution.DescriptorPath
import SolutionScript.Proofs.Solution.PrefixRules
import SolutionScript.Proofs.Solution.OutputPath
import SolutionScript.Proofs.Solution.Inclusion
import SolutionScript.Proofs.TwoRuns
import SolutionScript.Proofs.FileSystem.Relisting
import SolutionScript.Proofs.Solution.Relisted
import SolutionScript.Proofs.Graph.Recast
import SolutionScript.Proofs.Graph.Enumeration
import SolutionScript.Proofs.Solution.MappedPaths
import SolutionScript.Proofs.Repeatable
import SolutionScript.Proofs.Text.Split
import SolutionScript.Proofs.Xml.Outline
import SolutionScript.Proofs.Script.BuildFile
import SolutionScript.Proofs.Script.Depends
import SolutionScript.Proofs.Xml.Refused
import SolutionScript.Proofs.Script.Origin
import SolutionScript.Proofs.Xml.Alike
import SolutionScript.Proofs.Solution.DescriptorAlike
import SolutionScript.Proofs.Solution.Condition
import SolutionScript.Proofs.Solution.Blueprint
import SolutionScript.Proofs.Xml.Compact
import SolutionScript.Proofs.Solution.Dialects
import SolutionScript.Proofs.Script.Compilation
import SolutionScript.Proofs.Script.Task
import SolutionScript.Proofs.Script.CommandLine
import SolutionScript.Proofs.Script.Agreement
import SolutionScript.Proofs.Keyed
import SolutionScript.Proofs.Graph.Insertion
import SolutionScript.Proofs.Script.Targets
import SolutionScript.Proofs.Script.Clean
import SolutionScript.Proofs.Solution.Placement
import SolutionScript.Proofs.Xml.Markup
import SolutionScript.Proofs.FileSystem.Bare
import SolutionScript.Proofs.Solution.Rearranged
import SolutionScript.Proofs.FileSystem.Leftover
import SolutionScript.Proofs.Script.Macros
import SolutionScript.Proofs.Script.MacroTable
import SolutionScript.Proofs.Script.Tokens
import SolutionScript.Proofs.Solution.Account
import SolutionScript.Proofs.Solution.FirstFault
import SolutionScript.Proofs.Solution.Settings
import SolutionScript.Proofs.Text.Recase
import SolutionScript.Proofs.Solution.Respelled
import SolutionScript.Proofs.Solution.TwoLoads
import SolutionScript.Proofs.Solution.PathReferences
import SolutionScript.Proofs.Text.Layout
import SolutionScript.Proofs.Solution.Renumbered
import SolutionScript.Proofs.Solution.Relaid
import SolutionScript.Proofs.Solution.Conditioned
import SolutionScript.Proofs.FileSystem.WellFormed
import SolutionScript.Proofs.FileSystem.Matching
import SolutionScript.Proofs.Solution.Includes
import SolutionScript.Proofs.Solution.Sources
import SolutionScript.Proofs.Solution.Place
import SolutionScript.Proofs.Solution.Items
import SolutionScript.Proofs.FileSystem.FileUri
import SolutionScript.Proofs.FileSystem.Refusal
import SolutionScript.Proofs.Server.ProjectRoot
import SolutionScript.Proofs.Cli.Interleaved
import SolutionScript.Proofs.Reports
import SolutionScript.Proofs.Script.Defines
import SolutionScript.Proofs.Solution.Guid
import SolutionScript.Proofs.Graph.Lockstep
