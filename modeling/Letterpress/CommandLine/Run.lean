import Letterpress.CommandLine.Display
import Letterpress.CommandLine.Grid
import Letterpress.CommandLine.Options
import Letterpress.Design.File
import Letterpress.Log.Setup
import Letterpress.Mail.Compose
import Letterpress.Mail.Store
import Letterpress.Preview.StaticHost
import Letterpress.Walk.Summary

/-!
# Commands

What the commands do to the files they work on, and what they print. Whatever can be
wrong with a design or a selection ends in a report; only arithmetic in an inspection
and the setup of the log can fail in another way.

## Main definitions

* `Report`: What a command prints, and its exit code.
* `exportDesign`, `inspectDesign`: The commands.
* `Options.paths`, `Options.shown`: What the options say about files and the log.
* `run`: The command line.
-/

namespace Letterpress.CommandLine

/-- What a command prints, and its exit code. -/
structure Report where
  code : Nat
  output : List String := []
  errors : List String := []
  deriving DecidableEq, Repr

/-- The report of a failure. -/
def failure (text : String) : Report :=
  { code := 1, errors := ["Error: " ++ text] }

/-- The report of wrong arguments. -/
def usageFailure (e : UsageError) : Report :=
  { code := 2, errors := usageText ++ [e.message] }

/-- A command at work on files. -/
abbrev Work := Task FileTree Float

/-- The files as they are. -/
def currentFiles : Work FileTree := fun s =>
  (.ok s.world, s)

/-- Changes the files. -/
def filing {α : Type} (f : Filing α) : Work α := fun s =>
  let (result, after) := f s.world
  (result.mapError Fault.file, { s with world := after })

/-- Sets up the log. -/
def logging {α : Type} (f : LogSetup α) : Work α := fun s =>
  let (result, after) := f s.world
  (result, { s with world := after })

/-- A text that is there and not empty. -/
def nonempty? (s : Option String) : Option String :=
  s.filter fun s => !s.isEmpty

/-- The settings of an export. -/
def exportConfig (o : ExportOptions) : Config Float :=
  match o.title with
  | some title => { title }
  | none => {}

/-- The ledger that an export is charged to. -/
def exportLedger (o : ExportOptions) : Option (Ledger FileTree) :=
  (nonempty? o.credits).map fun path => fileLedger (.ofText path) defaultCredits

/-- The directory that an export goes to: a given one, or that of the design. -/
def exportDirectory (o : ExportOptions) : Path :=
  match nonempty? o.output with
  | some path => .ofText path
  | none => (Path.ofText o.input).parent

/-- Composes and stores the mail of a design; the mail and the path of its document. -/
def composeAndStore (o : ExportOptions) : Work (Mail × Path) := do
  let design ← DesignFile.load (← currentFiles) (.ofText o.input)
  let host := StaticHost.host ⟨design.images, none⟩
  let layout := if o.absolute then MailLayout.absolute else .tables
  let mail ← Mail.compose host (exportLedger o) (exportConfig o) layout [design.root]
  return (mail, ← filing (mail.store (exportDirectory o) none))

/-- What is printed of a stored mail. -/
def mailLines (mail : Mail) (path : Path) : List String :=
  ["Saved: " ++ path.text,
    "   Assets: " ++ toString mail.assets.length ++ "  Previews: "
      ++ toString mail.previews.length]
    ++ (if mail.links.isEmpty then []
      else ["   Link placeholders: " ++ toString mail.links.length])
    ++ (if mail.gifs.isEmpty then []
      else ["   GIF placeholders: " ++ Text.joinWith ", " (mail.gifs.map GifPlaceholder.id)])

/-- The report of a fault. A fault that is not meant for the user is noted. -/
def faultReport (notice : String) (fault : Fault) : Work Report := do
  unless fault.isReported do Task.note .error notice
  return failure (Mail.faultText fault)

/-- Exports a design. -/
def exportDesign (o : ExportOptions) : Work Report := do
  let input := Path.ofText o.input
  if !(← currentFiles).has input then return failure ("File not found: " ++ input.text)
  match ← (composeAndStore o).attempt with
  | .ok (mail, path) => return { code := 0, output := mailLines mail path }
  | .error fault => faultReport "Unexpected export failure" fault

/-- A child of a frame on the terminal. -/
def nodeText (n : SummaryNode) : String :=
  n.name ++ " [" ++ n.kind ++ "] @x=" ++ toString n.x

/-- A row of a frame on the terminal. -/
def rowTexts (number : Nat) (r : SummaryRow) : List String :=
  [toString number, toString r.y, toString r.height,
    shown (Text.joinWith ", " (r.nodes.map nodeText))]

/-- A length on the terminal. -/
def lengthText : Option Int → String
  | some n => toString n
  | none => "None"

/-- A summary as a table. -/
def summaryGrid (s : Summary) : Grid :=
  { title := shown s.name ++ " (" ++ lengthText (s.size.map Prod.fst) ++ "x"
      ++ lengthText (s.size.map Prod.snd) ++ ")"
    columns := [⟨"Row", .right⟩, ⟨"y", .right⟩, ⟨"Height", .right⟩, ⟨"Nodes", .left⟩]
    rows := s.rows.zipIdx.map fun (row, i) => rowTexts (i + 1) row }

/-- A summary on the terminal. -/
def summaryLines (s : Summary) : List String :=
  (summaryGrid s).lines
    ++ consoleLines ("Table regions: " ++ toString s.tableRegions)
    ++ s.warnings.flatMap fun w => consoleLines ("warning: " ++ shown w)

/-- The node is a container. -/
def isContainer {K : Type} : Node K → Bool
  | .container _ _ _ => true
  | _ => false

/-- Inspects a design. -/
def inspectDesign (o : InspectOptions) : Work Report := do
  let files ← currentFiles
  match DesignFile.load files (.ofText o.input) with
  | .error fault => faultReport "Unexpected failure reading design" fault
  | .ok design =>
    if !isContainer design.root then return failure "the design root is not a frame"
    let summary ← summarize {} design.root
    if o.json then return { code := 0, output := [Json.pretty .unicode summary.json] }
    return { code := 0, output := summaryLines summary }

/-- The version. -/
def versionLines : List String :=
  ["mailframe v0.3.0", "Design frame to e-mail HTML compiler"]

/-- Does what is to be done. -/
def perform : Command → Work Report
  | .mail o => exportDesign o
  | .inspect o => inspectDesign o
  | .version => return { code := 0, output := versionLines }
  | .help => return { code := 0, output := helpText }

/-- The log that the options ask for. -/
def optionsLog (o : Options) : Work Log :=
  logging (Log.setup o.logLevel true o.logFile)

/-- The paths of the files and directories that the options name. -/
def Options.paths (o : Options) : List Path :=
  logFiles ++
    match o.command with
    | .mail e =>
      [.ofText e.input, exportDirectory e] ++ ((nonempty? e.credits).map Path.ofText).toList
    | .inspect i => [.ofText i.input]
    | .version | .help => []
where
  /-- The log file. -/
  logFiles : List Path :=
    match o.logFile with
    | .str path => [.ofText path]
    | _ => []

/-- How serious a notice is in the log. -/
def noticeLevel : Severity → LogLevel
  | .warning => .warning
  | .error => .error

/-- The notices that the log level of the options lets through. -/
def Options.shown (o : Options) (journal : List Notice) : List String :=
  let least := match Log.readLevel o.logLevel with
    | .ok level => level.number
    | .error _ => LogLevel.warning.number
  (journal.filter fun n => least ≤ (noticeLevel n.severity).number).map Notice.text

/-- The command line: what is done for the arguments. -/
def run (arguments : List String) : Work Report :=
  match Options.read arguments with
  | .error .help => return { code := 0, output := helpText }
  | .error (.error e) => return usageFailure e
  | .ok o => do
    let _ ← optionsLog o
    perform o.command

end Letterpress.CommandLine
