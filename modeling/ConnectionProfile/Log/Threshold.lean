import ConnectionProfile.Log
import ConnectionProfile.Value

/-!
# Thresholds of the log

A threshold is named by what the log calls it. The log has other named parts as well, and none of
these is a threshold but its switches.
-/

namespace ConnectionProfile

/-- Records below it are dropped. -/
inductive Threshold where
  /-- Keeps all records. -/
  | all
  /-- A switch that is on counts as one, which is below every level. -/
  | switch
  | level (l : Level)
  deriving DecidableEq

namespace Threshold

/-- Every name of a threshold. -/
def names : List (Text × Threshold) :=
  [("DEBUG", .level .debug), ("INFO", .level .info), ("WARNING", .level .warning),
    ("WARN", .level .warning), ("ERROR", .level .error), ("CRITICAL", .level .critical),
    ("FATAL", .level .critical), ("NOTSET", .all), ("logMultiprocessing", .switch),
    ("logProcesses", .switch), ("logThreads", .switch), ("raiseExceptions", .switch)]

inductive NameError where
  /-- No part of the log has a name that is no text. -/
  | notName
  | unknown
  /-- The name of a text. -/
  | text
  /-- The name of another part of the log. -/
  | part

def texts : List Text :=
  ["BASIC_FORMAT", "__author__", "__cached__", "__date__", "__doc__", "__file__", "__name__",
    "__package__", "__status__", "__version__"]

def actions : List Text :=
  ["debug", "info", "warning", "warn", "error", "critical", "fatal", "exception", "log",
    "addLevelName", "basicConfig", "captureWarnings", "currentframe", "disable", "getLevelName",
    "getLevelNamesMapping", "getLogRecordFactory", "getLogger", "getLoggerClass",
    "makeLogRecord", "setLogRecordFactory", "setLoggerClass", "shutdown"]

def kinds : List Text :=
  ["BufferingFormatter", "FileHandler", "Filter", "Filterer", "Formatter", "GenericAlias",
    "Handler", "LogRecord", "Logger", "LoggerAdapter", "Manager", "NullHandler", "PercentStyle",
    "PlaceHolder", "RootLogger", "StrFormatStyle", "StreamHandler", "StringTemplateStyle",
    "Template"]

def objects : List Text :=
  ["lastResort", "root", "atexit", "collections", "io", "os", "re", "sys", "threading", "time",
    "traceback", "warnings", "weakref", "__all__", "__builtins__", "__class__", "__dict__",
    "__loader__", "__path__", "__spec__"]

/-- The threshold with a name, or what the name means instead. -/
def named (name : Text) : Except NameError Threshold :=
  match names.lookup name with
  | some threshold => .ok threshold
  | none =>
    if texts.elem name then .error .text
    else if actions.elem name || kinds.elem name || objects.elem name then .error .part
    else .error .unknown

def ofValue : Value → Except NameError Threshold
  | .text name => named name
  | _ => .error .notName

def name : Threshold → Text
  | .all => "NOTSET"
  | .switch => "Level True"
  | .level l => l.name

def keeps (t : Threshold) (r : Record) : Bool :=
  match t with
  | .all | .switch => true
  | .level l => l.rank ≤ r.level.rank

end Threshold

end ConnectionProfile
