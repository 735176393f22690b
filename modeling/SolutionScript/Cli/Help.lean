import SolutionScript.Script.Format

/-!
# Help texts

What the command line tells about itself: a summary of all formats and
parameters, and the help on the options. Lines of the help have at most 80
characters.
-/

namespace SolutionScript.Cli

/-- The name of the program. -/
def programName : String := "slingshot"

/-- A parameter in the summary. -/
def specLine (s : ParameterSpec) : String :=
  "      " ++ s.name ++ ": " ++ s.description ++ " (" ++
    (if s.required then "REQUIRED" else "OPTIONAL") ++ ")"

/-- A format in the summary. -/
def formatLines (f : Format) : List String :=
  ("    " ++ f.name ++ ":") :: f.parameters.map specLine

/-- The lines of the summary. -/
def summaryLines : List String :=
  ["usage: " ++ programName ++
      " -<format> [-sln solution] [-map uri-prefix file-prefix]* [-out file] [name=value]*",
    "       " ++ programName ++ " --serve [--project path]",
    "",
    "formats: " ++ Text.join ", " (Format.allNames.map ("-" ++ ·)),
    "",
    "if -sln is not specified, uses the only .sln file in the current directory",
    "",
    "parameters:"] ++
  Format.all.flatMap formatLines ++
  ["",
    "examples:",
    "  " ++ programName ++ " -nant build.basedir=..\\..\\bin",
    "  " ++ programName ++
      " -nmake -sln Example.sln -map http://localhost/ C:\\Inetpub\\wwwroot\\ build.basedir=bin"]

/-- The lines as a text. -/
def textOfLines (lines : List String) : String := Text.join "\n" lines ++ "\n"

/-- The summary of all formats and parameters. -/
def summary : String := textOfLines summaryLines

/-- The lines that show how the program is called. -/
def usageLines : List String :=
  ["usage: slingshot [-h] [-nant | -nmake] [-sln SOLUTION]",
    "                 [-map URI_PREFIX FILE_PREFIX] [-out OUTPUT] [--serve]",
    "                 [--project PROJECT]",
    "                 [name=value ...]"]

/-- How the program is called. -/
def usage : String := textOfLines usageLines

/-- The lines of the help on the options. -/
def helpLines : List String :=
  usageLines ++
  ["",
    "Generate NAnt build files or NMAKE makefiles from Visual Studio solutions",
    "",
    "positional arguments:",
    "  name=value            Format parameters",
    "",
    "options:",
    "  -h, --help            show this help message and exit",
    "  -nant                 " ++ Format.nant.description,
    "  -nmake                " ++ Format.nmake.description,
    "  -sln SOLUTION         Solution file (default: the only .sln in CWD)",
    "  -map URI_PREFIX FILE_PREFIX",
    "                        Map a web project location to a local path. Rules",
    "                        apply in order, first match wins.",
    "  -out OUTPUT           Write the script to this file instead of stdout",
    "  --serve               Run the MCP server on stdio instead of converting",
    "  --project PROJECT     Project root for relative paths given to the MCP",
    "                        server"]

/-- The help on the options. -/
def help : String := textOfLines helpLines

end SolutionScript.Cli
