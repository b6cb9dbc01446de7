import Crosscut.Settings.Schema
import Crosscut.Text.Quoted

/-! The plan of the engine's log, as a program sets it up step by step or takes it from the settings.
A plan can be shown as one line of text. -/
namespace Crosscut

/-- How a log is to be set up. -/
structure LogPlan where
  directives : List String := []
  level : Option LogLevel := none
  spanEvents : SpanEvents := {}
  format : LogFormat := .compact
  output : LogOutput := .stdout
  withTarget : Bool := true
  withThreadIds : Bool := false
  withFile : Bool := false
  withLineNumber : Bool := false
  filePath : Option String := none
  rotation : LogRotation := .never
deriving DecidableEq, Repr

namespace LogPlan

/-- The plan that settings describe. Every filter becomes a directive. -/
def ofSettings (s : LogSettings) : LogPlan where
  directives := s.filters.map fun (name, level) => name ++ "=" ++ Choice.word level
  level := some s.level
  spanEvents := s.spanEvents
  format := s.format
  output := s.output
  withThreadIds := s.threadIds
  withFile := s.fileLocation
  withLineNumber := s.fileLocation
  filePath := s.filePath
  rotation := s.rotation

def addDirective (p : LogPlan) (directive : String) : LogPlan :=
  { p with directives := p.directives ++ [directive] }

end LogPlan

/-! ### Text -/

def truthWord (b : Bool) : String :=
  if b then "true" else "false"

/-- A record as text: its name and its fields. -/
def recordText (name : String) (fields : List (String × String)) : String :=
  name ++ " \x7b " ++ ", ".intercalate (fields.map fun (field, text) => field ++ ": " ++ text) ++ " \x7d"

def optionText (present : Option String) : String :=
  match present with
  | some text => "Some(" ++ text ++ ")"
  | none => "None"

def SpanEvents.text (s : SpanEvents) : String :=
  recordText "SpanEvents"
    [("new", truthWord s.new), ("enter", truthWord s.enter), ("exit", truthWord s.exit),
      ("close", truthWord s.close)]

def LogPlan.text (p : LogPlan) : String :=
  recordText "LoggingBuilder"
    [("directives", "[" ++ ", ".intercalate (p.directives.map Text.quoted) ++ "]"),
      ("level", optionText (p.level.map fun level => "Level(" ++ Choice.title level ++ ")")),
      ("span_events", p.spanEvents.text),
      ("format", Choice.title p.format),
      ("output", Choice.title p.output),
      ("with_target", truthWord p.withTarget),
      ("with_thread_ids", truthWord p.withThreadIds),
      ("with_file", truthWord p.withFile),
      ("with_line_number", truthWord p.withLineNumber),
      ("file_path", optionText (p.filePath.map Text.quoted)),
      ("rotation", Choice.title p.rotation)]

end Crosscut
