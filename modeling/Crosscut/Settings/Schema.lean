import Crosscut.Advice.Policy

/-! What can be configured: how the engine logs, and how aspects are recognized and woven. Every
setting has a default. -/
namespace Crosscut

/-- A type whose values are chosen by a word. -/
class Choice (α : Type) where
  all : List α
  word : α → String

namespace Choice

variable {α : Type} [Choice α]

def ofWord? (written : String) : Option α :=
  all.find? (word · == written)

/-- The word of a value with a capital first letter. -/
def title (a : α) : String :=
  (word a).capitalize

end Choice

/-- How much is logged. -/
inductive LogLevel where
  | trace | debug | info | warn | error
deriving DecidableEq, Repr

/-- How a log line is laid out. -/
inductive LogFormat where
  | compact | full | pretty | json
deriving DecidableEq, Repr

/-- Where the log goes. -/
inductive LogOutput where
  | stdout | stderr | file
deriving DecidableEq, Repr

/-- How often a log file is replaced. -/
inductive LogRotation where
  | never | minutely | hourly | daily
deriving DecidableEq, Repr

instance : Choice LogLevel where
  all := [.trace, .debug, .info, .warn, .error]
  word
    | .trace => "trace"
    | .debug => "debug"
    | .info => "info"
    | .warn => "warn"
    | .error => "error"

instance : Choice LogFormat where
  all := [.compact, .full, .pretty, .json]
  word
    | .compact => "compact"
    | .full => "full"
    | .pretty => "pretty"
    | .json => "json"

instance : Choice LogOutput where
  all := [.stdout, .stderr, .file]
  word
    | .stdout => "stdout"
    | .stderr => "stderr"
    | .file => "file"

instance : Choice LogRotation where
  all := [.never, .minutely, .hourly, .daily]
  word
    | .never => "never"
    | .minutely => "minutely"
    | .hourly => "hourly"
    | .daily => "daily"

theorem LogLevel.ofWord?_word (a : LogLevel) : Choice.ofWord? (Choice.word a) = some a := by
  cases a <;> decide

theorem LogFormat.ofWord?_word (a : LogFormat) : Choice.ofWord? (Choice.word a) = some a := by
  cases a <;> decide

theorem LogOutput.ofWord?_word (a : LogOutput) : Choice.ofWord? (Choice.word a) = some a := by
  cases a <;> decide

theorem LogRotation.ofWord?_word (a : LogRotation) : Choice.ofWord? (Choice.word a) = some a := by
  cases a <;> decide

def LogLevel.capitals (level : LogLevel) : String :=
  (Choice.word level).map Char.toUpper

/-- Which events in the life of a span are logged. -/
structure SpanEvents where
  new : Bool := false
  enter : Bool := false
  exit : Bool := false
  close : Bool := false
deriving DecidableEq, Repr

namespace SpanEvents

def none : SpanEvents := {}

def lifecycle : SpanEvents := { new := true, close := true }

def full : SpanEvents := ⟨true, true, true, true⟩

def active : SpanEvents := { enter := true, exit := true }

/-- The set of events that a word stands for. -/
def ofWord? : String → Option SpanEvents
  | "NONE" => some none
  | "LIFECYCLE" => some lifecycle
  | "FULL" => some full
  | "ACTIVE" => some active
  | _ => .none

end SpanEvents

/-- How the engine logs. -/
structure LogSettings where
  level : LogLevel := .info
  format : LogFormat := .compact
  output : LogOutput := .stdout
  spanEvents : SpanEvents := {}
  threadIds : Bool := false
  fileLocation : Bool := false
  filePath : Option String := none
  rotation : LogRotation := .never
  filters : List (String × LogLevel) := []
deriving DecidableEq, Repr

namespace Vocabulary

/-- The fields in declared order, with the name that each holds. -/
def named (v : Vocabulary) : List (String × String) :=
  [("aspect", v.aspect), ("pointcut", v.pointcut), ("before", v.before), ("after", v.after),
    ("after_returning", v.afterReturning), ("after_throwing", v.afterThrowing),
    ("around", v.around), ("order", v.order), ("join_point", v.joinPoint),
    ("proceeding_join_point", v.proceedingJoinPoint)]

end Vocabulary

/-- The whole configuration. -/
structure Settings where
  logging : LogSettings := {}
  weaving : AspectPolicy := {}
deriving DecidableEq, Repr

end Crosscut
