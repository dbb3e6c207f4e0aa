set_option autoImplicit false
set_option relaxedAutoImplicit false

/-!
# Usage

How the command is called, as it explains itself.
-/

namespace SceneScript.CommandLine

/-- The name under which the command was started, and the name that its log lines bear. -/
structure Entry where
  program : String
  logger : String
  deriving DecidableEq, Repr, Inhabited

/-- The command started as a script. -/
def Entry.script : Entry := ⟨"parse_script.py", "__main__"⟩

/-- The command started by its installed name. -/
def Entry.installed : Entry := ⟨"masoria-parse", "lib.masoria.parse_script"⟩

/-- The options and operands of the command, over three lines that start in one column. -/
def usageText (entry : Entry) : String :=
  let start := "usage: " ++ entry.program ++ " "
  let indent := String.ofList (List.replicate start.length ' ')
  start ++ "[-h] [--format \x7bjson,html\x7d] [--title TITLE]\n" ++
    indent ++ "[--log-level \x7bDEBUG,INFO,WARNING,ERROR\x7d]\n" ++
    indent ++ "input_script output_file\n"

/-- What each option and operand is for. -/
def explanations : List String :=
  ["",
    "Parse a .masoria script into scene_graph.json format",
    "",
    "positional arguments:",
    "  input_script          Path to .masoria script",
    "  output_file           Path to output JSON (or HTML) file",
    "",
    "options:",
    "  -h, --help            show this help message and exit",
    "  --format \x7bjson,html\x7d  Output format (default: json)",
    "  --title TITLE         Title of the HTML report (default: script file name)",
    "  --log-level \x7bDEBUG,INFO,WARNING,ERROR\x7d",
    "                        Logging level (default: $MASORIA_LOG_LEVEL or WARNING)"]

/-- The full help. -/
def helpText (entry : Entry) : String :=
  usageText entry ++ String.join (explanations.map (fun line => line ++ "\n"))

end SceneScript.CommandLine
