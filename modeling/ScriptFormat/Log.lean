import ScriptFormat.Text.Template

/-!
# Log records

The program logs under one name and the names below it. Configuring the log takes
the handlers there away, puts a new one in their place, and quiets the parser's log.
A record that its logger takes goes to every handler of the logger and of those above
it; if there is none at all, warnings go to the error stream as bare lines.
-/

namespace ScriptFormat

/-- The rank of a record; some ranks have names. -/
structure LogLevel where
  rank : Int
  deriving DecidableEq

namespace LogLevel

def unset : LogLevel := ⟨0⟩

def debug : LogLevel := ⟨10⟩

def info : LogLevel := ⟨20⟩

def warning : LogLevel := ⟨30⟩

def error : LogLevel := ⟨40⟩

def critical : LogLevel := ⟨50⟩

def names : List (LogLevel × Text) :=
  [(unset, "NOTSET"), (debug, "DEBUG"), (info, "INFO"), (warning, "WARNING"), (error, "ERROR"),
    (critical, "CRITICAL")]

def name (level : LogLevel) : Text :=
  (names.lookup level).getD ("Level " ++ Text.ofInt level.rank)

/-- Some names are short for others. -/
def named? (name : Text) : Option LogLevel :=
  if name = "WARN" then some warning
  else if name = "FATAL" then some critical
  else (names.find? fun entry => entry.2 == name).map (·.1)

end LogLevel

/-- Where log lines go: the error stream, or a stream known by name. -/
inductive LogTarget where
  | errors
  | named (name : Text)
  deriving DecidableEq

/-- A handler passes over records below its level. -/
structure LogHandler where
  target : LogTarget
  level : LogLevel
  detailed : Bool
  deriving DecidableEq

structure LogRecord where
  logger : Text
  level : LogLevel
  message : Text

/-- A record whose message is a template with its values. -/
def LogRecord.ofTemplate (logger : Text) (level : LogLevel) (template : Text)
    (values : List Value) : LogRecord :=
  { logger, level, message := Template.fill template values }

/-- The state of logging: two configured levels, the handlers of the package, and the loggers asked
for so far. A logger that was asked whether it takes records of a level keeps to its answer until a
level is set. -/
structure Log where
  packageLevel : Option LogLevel := none
  parserLevel : Option LogLevel := none
  handlers : List LogHandler := []
  loggers : List Text := []
  answers : List ((Text × LogLevel) × Bool) := []
  deriving DecidableEq

structure LogLine where
  target : LogTarget
  text : Text
  deriving DecidableEq

namespace Log

def dot : CodePoint := 46

def package : Text := "gdfmt"

def parser : Text := "lark"

/-- The logger without a name is the root of all. -/
def root : Text := "root"

def isRoot (logger : Text) : Bool := logger.isEmpty || logger == root

/-- Cuts a name, given last code point first, at its last dot. The first code point of the name is
no place to cut. -/
def cutAtDot : Text → Option Text
  | [] => none
  | [_] => none
  | point :: rest => if point = dot then some rest else cutAtDot rest

/-- The names above a name, nearest first, each given last code point first. A dot right in front
of a cut is passed over. -/
def namesAbove : Nat → Text → List Text
  | 0, _ => []
  | fuel + 1, reversed =>
      match cutAtDot reversed with
      | none => []
      | some above => above :: (match above with
          | [] => []
          | _ :: _ => namesAbove fuel (if above.head? = some dot then above.drop 1 else above))

/-- The nearest logger above, out of those asked for so far. -/
def parent? (log : Log) (logger : Text) : Option Text :=
  ((namesAbove logger.length logger.reverse).map List.reverse).find? fun name =>
    name == package || name == parser || log.loggers.contains name

/-- A logger with those above it, but for the root. -/
def lineage (log : Log) : Nat → Text → List Text
  | 0, _ => []
  | fuel + 1, logger =>
      logger :: (match log.parent? logger with
        | some above => lineage log fuel above
        | none => [])

def lineageOf (log : Log) (logger : Text) : List Text :=
  if isRoot logger then [] else log.lineage (logger.length + 1) logger

def ownLevel? (log : Log) (logger : Text) : Option LogLevel :=
  if logger = package then log.packageLevel
  else if logger = parser then log.parserLevel
  else none

/-- The level of the nearest logger that has one; the root has the level of a warning. -/
def threshold (log : Log) (logger : Text) : LogLevel :=
  ((log.lineageOf logger).findSome? log.ownLevel?).getD .warning

/-- Only the package has handlers of its own. -/
def ownHandlers (log : Log) (logger : Text) : List LogHandler :=
  if logger = package then log.handlers else []

/-- The handlers of a logger and of those above it. -/
def handlersFor (log : Log) (logger : Text) : List LogHandler :=
  (log.lineageOf logger).flatMap log.ownHandlers

def answer? (log : Log) (record : LogRecord) : Option Bool :=
  log.answers.lookup (record.logger, record.level)

/-- Whether the logger of a record takes it: as it answered before, or else by its level. -/
def takes (log : Log) (record : LogRecord) : Bool :=
  (log.answer? record).getD (decide ((log.threshold record.logger).rank ≤ record.level.rank))

/-- A line as a handler writes it; detailed lines begin with the time. -/
def render (detailed : Bool) (time : Text) (record : LogRecord) : Text :=
  if detailed then
    time ++ " " ++ record.logger ++ " [" ++ record.level.name ++ "] " ++ record.message ++ "\n"
  else record.logger ++ ": " ++ record.message ++ "\n"

/-- The line that a handler writes for a record, unless it passes over it. -/
def handled? (time : Text) (record : LogRecord) (handler : LogHandler) : Option LogLine :=
  if record.level.rank < handler.level.rank then none
  else some ⟨handler.target, render handler.detailed time record⟩

/-- Where no handler is found, a warning is written without anything around it. -/
def bareLines (record : LogRecord) : List LogLine :=
  if LogLevel.warning.rank ≤ record.level.rank then [⟨.errors, record.message ++ "\n"⟩] else []

/-- The lines that a record leaves. -/
def linesFor (log : Log) (time : Text) (record : LogRecord) : List LogLine :=
  if log.takes record then
    match log.handlersFor record.logger with
    | [] => bareLines record
    | handlers => handlers.filterMap (handled? time record)
  else []

/-- Asking for a logger makes it known. -/
def know (log : Log) (logger : Text) : Log :=
  if isRoot logger || log.loggers.contains logger then log
  else { log with loggers := log.loggers ++ [logger] }

/-- A logger keeps to the answer that it gives for a record. -/
def keepAnswer (log : Log) (record : LogRecord) : Log :=
  { log with answers := ((record.logger, record.level), log.takes record) :: log.answers }

def emit (log : Log) (time : Text) (record : LogRecord) : Log × List LogLine :=
  let log := log.know record.logger
  (log.keepAnswer record, log.linesFor time record)

def levelFor (debug : Bool) : LogLevel := if debug then .debug else .warning

/-- Setting a level makes all loggers forget their answers. -/
def setPackageLevel (log : Log) (level : LogLevel) : Log :=
  { log with packageLevel := some level, answers := [] }

def setParserLevel (log : Log) (level : LogLevel) : Log :=
  { log with parserLevel := some level, answers := [] }

def clearHandlers (log : Log) : Log := { log with handlers := [] }

def addHandler (log : Log) (handler : LogHandler) : Log :=
  { log with handlers := log.handlers ++ [handler] }

def configured (log : Log) (debug : Bool) (target : LogTarget) : Log :=
  let log := (log.setPackageLevel (levelFor debug)).clearHandlers
  (log.addHandler ⟨target, levelFor debug, debug⟩).setParserLevel .warning

/-- Configures the log and says so in a record. -/
def configure (log : Log) (time : Text) (debug : Bool) (target : LogTarget) :
    Log × List LogLine :=
  (log.configured debug target).emit time
    ⟨package, .debug, "Logging configured: level=" ++ (levelFor debug).name⟩

end Log

end ScriptFormat
