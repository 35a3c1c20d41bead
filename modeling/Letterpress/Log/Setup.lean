import Letterpress.Fault
import Letterpress.Log.File
import Letterpress.Log.Template

/-!
# Logs

Where records go. Each handler takes the records from a level on, and writes them to
the console or to a file.

Settings come as structured data, and may be anything.

## Main definitions

* `LogHandler`, `Log`: The handlers of a log.
* `Log.configure`, `Log.setup`, `Log.attach`: Setting up a log.
* `Log.emit`: What becomes of a record.
-/

namespace Letterpress

/-- Where a handler writes to. -/
inductive LogTarget where
  /-- Plain lines on the console. -/
  | console
  /-- Colored lines beside the program's own output. -/
  | colored
  /-- A file. -/
  | file (file : LogFile)

/-- A handler: where it writes to, from which level on, and how. -/
structure LogHandler where
  target : LogTarget
  level : LogLevel
  template : String

/-- A log: its level, its handlers, and the handlers of single loggers. -/
structure Log where
  level : LogLevel
  handlers : List LogHandler
  attached : List (String × LogHandler) := []

/-- Setting up a log, which may make files. -/
abbrev LogSetup := ExceptT Fault (StateM FileTree)

namespace Log

/-- The template that is used when none is given. -/
def defaultTemplate : String :=
  "%(asctime)s - %(name)s - %(levelname)s - %(message)s"

/-- The length in bytes that log files do not reach by default. -/
def defaultLimit : Int :=
  10 * 1024 * 1024

/-- The number of older log files that are kept by default. -/
def defaultBackups : Int := 5

/-- A file operation in the setup of a log. -/
def filing {α : Type} (f : Filing α) : LogSetup α := fun t =>
  let (result, after) := f t
  (result.mapError Fault.file, after)

/-- The level that a setting names. -/
def readLevel (setting : Json) : Except Fault LogLevel :=
  match setting with
  | .str s => match LogLevel.ofName? s with
    | some level => return level
    | none => throw (.log (.unknownLevel s))
  | other => throw (.log (.unknownLevel other.display))

/-- The template that a setting gives, or the default. -/
def readTemplate (setting : Option String) : Except Fault String :=
  match setting with
  | none => return defaultTemplate
  | some s =>
    if s.isEmpty then return defaultTemplate
    else if Template.hasField s.toList then return s
    else throw (.log (.badTemplate s))

/-- The path that a setting gives. -/
def readPath (setting : Json) : Except Fault Path :=
  match setting with
  | .str s => if s.isEmpty then throw (.log .noPath) else return Path.ofText s
  | _ => throw (.log .noPath)

/-- A handler that writes to a file. The directory of the file is made if it is not
    there, and then the file, even if the level is unknown. -/
def fileHandler (path level : Json) (template : String) (limit backups : Int) :
    LogSetup LogHandler := do
  let path ← readPath path
  let file : LogFile := ⟨path, limit, backups⟩
  unless path.parent.names.isEmpty do filing (Filing.ensureDirectories path.parent)
  filing file.opened
  return ⟨.file file, ← readLevel level, template⟩

/-- The handlers for a log file, if one is given. -/
def fileHandlers (path level : Json) (template : String) (limit backups : Int) :
    LogSetup (List LogHandler) := do
  if path.truthy then return [← fileHandler path level template limit backups] else return []

/-- A log on the console, and in a file if one is given. -/
def configure (level : Json) (template : Option String) (path : Json) (limit backups : Int) :
    LogSetup Log := do
  let least ← readLevel level
  let template ← readTemplate template
  let files ← fileHandlers path level template limit backups
  return ⟨least, ⟨.console, least, template⟩ :: files, []⟩

/-- The log of the command line: colored lines or plain ones, and a file if one is
    given. -/
def setup (level : Json) (isColored : Bool) (path : Json) : LogSetup Log := do
  if !isColored then configure level none path defaultLimit defaultBackups
  else
    let least ← readLevel level
    let files ← fileHandlers path level defaultTemplate defaultLimit defaultBackups
    return ⟨least, ⟨.colored, least, "%(message)s"⟩ :: files, []⟩

/-- The log with a file for the records of one logger. -/
def attach (log : Log) (logger : Option String) (path level : Json) (limit backups : Int) :
    LogSetup Log := do
  match logger with
  | none => throw (.log .notALogger)
  | some name =>
    let handler ← fileHandler path level defaultTemplate limit backups
    return { log with attached := log.attached ++ [(name, handler)] }

/-- The records of a logger also go where those of another one go. -/
def belongsTo (logger owner : String) : Bool :=
  logger = owner || Text.startsWith (owner ++ ".") logger

/-- The handlers that a record comes to. -/
def handlersFor (log : Log) (r : LogRecord) : List LogHandler :=
  if r.level < log.level.number then []
  else
    let own := log.attached.filter fun a => belongsTo r.logger a.1
    (own.map Prod.snd ++ log.handlers).filter fun h => h.level.number ≤ r.level

/-- What a handler does with a record: lines on the console, or a line in a file. -/
def write (r : LogRecord) (h : LogHandler) (t : FileTree) : List String × FileTree :=
  match h.target, Template.fill? h.template r with
  | .console, some line => ([line], t)
  | .file f, some line => ([], f.append line t)
  | _, _ => ([], t)

/-- What handlers do with a record, one after another. -/
def writeAll (r : LogRecord) : List LogHandler → FileTree → List String × FileTree
  | [], t => ([], t)
  | h :: rest, t =>
    let (lines, t) := write r h t
    let (more, t) := writeAll r rest t
    (lines ++ more, t)

/-- What becomes of a record: lines on the console and in files. -/
def emit (log : Log) (r : LogRecord) (t : FileTree) : List String × FileTree :=
  writeAll r (log.handlersFor r) t

/-- What becomes of several records. -/
def emitAll (log : Log) : List LogRecord → FileTree → List String × FileTree
  | [], t => ([], t)
  | r :: rest, t =>
    let (lines, t) := log.emit r t
    let (more, t) := log.emitAll rest t
    (lines ++ more, t)

end Log

end Letterpress
