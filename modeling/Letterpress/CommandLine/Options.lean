import Letterpress.CommandLine.Arguments
import Letterpress.Log.Record

/-!
# Options

What the command line can be asked to do, and how.

## Main definitions

* `ExportOptions`, `InspectOptions`, `Command`: What is to be done.
* `Options`: All that the arguments say.
* `Options.read`: Reading the arguments.
* `usageText`, `helpText`: The help.
-/

namespace Letterpress.CommandLine

/-- How a design is exported. -/
structure ExportOptions where
  input : String
  output : Option String
  absolute : Bool
  credits : Option String
  title : Option String
  deriving DecidableEq, Repr

/-- How a design is inspected. -/
structure InspectOptions where
  input : String
  json : Bool
  deriving DecidableEq, Repr

/-- What is to be done. -/
inductive Command where
  | mail (options : ExportOptions)
  | inspect (options : InspectOptions)
  | version
  | help
  deriving DecidableEq, Repr

/-- All that the arguments say. What they say about the log are settings of any
    kind. -/
structure Options where
  logLevel : Json
  logFile : Json
  command : Command

/-- The name of the program. -/
def programName : String := "mailframe"

/-- The names of the log levels. -/
def levelNames : List String :=
  LogLevel.all.map LogLevel.name

/-- The names of the commands. -/
def commandNames : List String :=
  ["export", "inspect", "version"]

/-- The arguments before and with the command. -/
def mainGrammar : Grammar :=
  { command := programName
    flags := [helpFlag, ⟨["--log-level"], true, levelNames⟩, ⟨["--log-file"], true, []⟩]
    slot := .rest }

/-- The arguments of an export. -/
def exportGrammar : Grammar :=
  { command := programName ++ " export"
    flags :=
      [helpFlag, ⟨["-o", "--output"], true, []⟩, ⟨["--absolute"], false, []⟩,
        ⟨["--credits"], true, []⟩, ⟨["--title"], true, []⟩]
    slot := .one "input" }

/-- The arguments of an inspection. -/
def inspectGrammar : Grammar :=
  { command := programName ++ " inspect"
    flags := [helpFlag, ⟨["--json"], false, []⟩]
    slot := .one "input" }

/-- The arguments of the question for the version. -/
def versionGrammar : Grammar :=
  { command := programName ++ " version", flags := [helpFlag], slot := .none }

/-- The first argument in the slot. -/
def Findings.input (f : Findings) : String :=
  (f.slot.bind List.head?).getD ""

/-- An export as the arguments describe it. -/
def exportOptions (f : Findings) : ExportOptions :=
  { input := f.input
    output := f.text? "--output"
    absolute := f.has "--absolute"
    credits := f.text? "--credits"
    title := f.text? "--title" }

/-- An inspection as the arguments describe it. -/
def inspectOptions (f : Findings) : InspectOptions :=
  { input := f.input, json := f.has "--json" }

/-- What a command with its arguments asks for, and the arguments that are left over. -/
def readCommand (name : String) (arguments : List String) :
    Except Stop (Command × List String) :=
  match name with
  | "export" => do
    let f ← exportGrammar.read arguments
    return (.mail (exportOptions f), f.leftOver)
  | "inspect" => do
    let f ← inspectGrammar.read arguments
    return (.inspect (inspectOptions f), f.leftOver)
  | "version" => do
    let f ← versionGrammar.read arguments
    return (.version, f.leftOver)
  | other => throw (.error ⟨programName, .badChoice "command" other commandNames⟩)

/-- What is in the slot of the main arguments asks for. Without a command there is
    help. -/
def readSlot (slot : Option (List String)) : Except Stop (Command × List String) :=
  match slot with
  | some (name :: arguments) => readCommand name arguments
  | _ => return (.help, [])

/-- All that the arguments say. -/
def Options.read (arguments : List String) : Except Stop Options := do
  let f ← mainGrammar.read arguments
  let (command, leftOver) ← readSlot f.slot
  let unread := f.leftOver ++ leftOver
  if unread = [] then
    return {
      logLevel := (f.value? "--log-level").getD (.str "WARNING")
      logFile := (f.value? "--log-file").getD .null
      command }
  else throw (.error ⟨programName, .leftOver unread⟩)

/-- The forms of the command line. -/
def usageText : List String :=
  ["usage: mailframe [-h] [--log-level \x7bDEBUG,INFO,WARNING,ERROR,CRITICAL\x7d] "
      ++ "[--log-file LOG_FILE] \x7bexport,inspect,version\x7d ..."]

/-- What the command line can do. -/
def helpText : List String :=
  usageText ++
  ["",
    "mailframe - compile design frames into e-mail HTML",
    "",
    "positional arguments:",
    "  \x7bexport,inspect,version\x7d",
    "                        Available commands",
    "    export              Export a design frame to HTML",
    "    inspect             Show the frame's row structure",
    "    version             Show version information",
    "",
    "options:",
    "  -h, --help            show this help message and exit",
    "  --log-level \x7bDEBUG,INFO,WARNING,ERROR,CRITICAL\x7d",
    "                        Log level (default: WARNING)",
    "  --log-file LOG_FILE   Also write logs to this (rotated) file",
    "",
    "Examples:",
    "  mailframe export newsletter.json --output build/",
    "  mailframe export newsletter.json --absolute",
    "  mailframe inspect newsletter.json",
    "  mailframe version",
    "        "]

end Letterpress.CommandLine
