import Letterpress.Text.Casing
import Letterpress.Text.Escape

/-!
# Log Records

A record of a log has fields with names. Some hold what was logged, and how serious it
is; others tell where and when that happened, which a record does not keep here.

## Main definitions

* `LogLevel`: How serious a record is.
* `LogLevel.ofName?`: The level with a name.
* `levelName`: The name of any number as a level.
* `LogError`: What can be wrong with the settings of a log.
* `LogRecord`: A record of a log.
* `LogRecord.Value`: What a field holds.
* `LogRecord.value?`: The field with a name.
* `LogRecord.whole`: The record itself as a value.
-/

namespace Letterpress

/-- How serious a record of a log is. -/
inductive LogLevel where
  | debug
  | info
  | warning
  | error
  | critical
  deriving DecidableEq, Repr

namespace LogLevel

/-- All levels, the least serious first. -/
def all : List LogLevel :=
  [debug, info, warning, error, critical]

/-- The name of a level. -/
def name : LogLevel → String
  | debug => "DEBUG"
  | info => "INFO"
  | warning => "WARNING"
  | error => "ERROR"
  | critical => "CRITICAL"

/-- The number of a level, by which levels are compared. -/
def number : LogLevel → Int
  | debug => 10
  | info => 20
  | warning => 30
  | error => 40
  | critical => 50

/-- The level with a name in any case. -/
def ofName? (s : String) : Option LogLevel :=
  all.find? fun level => level.name = Text.upperString s

end LogLevel

/-- The name of a number as a level. -/
def levelName (n : Int) : String :=
  match LogLevel.all.find? fun level => level.number = n with
  | some level => level.name
  | none => "Level " ++ toString n

/-- What can be wrong with the settings of a log. -/
inductive LogError where
  | unknownLevel (text : String)
  | badTemplate (text : String)
  | notALogger
  | noPath
  deriving DecidableEq, Repr

/-- The error in words. -/
def LogError.message : LogError → String
  | unknownLevel text => "Invalid log level: " ++ text
  | badTemplate text => "Invalid format '" ++ text ++ "' for '%' style"
  | notALogger => "Logger must be a logging.Logger instance"
  | noPath => "File path must be a non-empty string"

/-- A record of a log. The time is known to those only who have a clock. -/
structure LogRecord where
  logger : String
  level : Int
  message : String
  time : Option String := none
  deriving DecidableEq, Repr

namespace LogRecord

/-- What a field holds. -/
inductive Value where
  /-- A text. -/
  | text (s : String)
  /-- A whole number. -/
  | number (n : Int)
  /-- Anything else, of which it is known what its text starts with, and whether there
      is more to it. -/
  | other (start : String) (hasMore : Bool)
  deriving DecidableEq, Repr

/-- A value of which nothing is known. -/
def Value.unknown : Value := .other "" true

/-- The name of the logger. The one without a name is the root of all others. -/
def loggerName (r : LogRecord) : String :=
  if r.logger.isEmpty then "root" else r.logger

/-- The fields that tell where and when something was logged. -/
def circumstances : List String :=
  ["pathname", "filename", "module", "lineno", "funcName", "created", "msecs",
    "relativeCreated", "thread", "process"]

/-- The value of a record's field, if the record has it. -/
def value? (r : LogRecord) (name : String) : Option Value :=
  match name with
  | "name" => some (.text r.loggerName)
  | "msg" | "message" => some (.text r.message)
  | "args" => some (.other "()" false)
  | "levelname" => some (.text (levelName r.level))
  | "levelno" => some (.number r.level)
  | "exc_info" | "exc_text" | "stack_info" => some (.other "None" false)
  | "threadName" => some (.text "MainThread")
  | "processName" => some (.text "MainProcess")
  | "asctime" => some (r.time.elim .unknown .text)
  | _ => if circumstances.contains name then some .unknown else none

/-- The record itself as a value: its fields in braces, of which the first five are
    known. -/
def whole (r : LogRecord) : Value :=
  let start := "\x7b'name': " ++ Text.quoted r.loggerName ++ ", 'msg': " ++ Text.quoted r.message
    ++ ", 'args': (), 'levelname': " ++ Text.quoted (levelName r.level) ++ ", 'levelno': "
    ++ toString r.level ++ ", 'pathname': '"
  .other start true

end LogRecord

end Letterpress
