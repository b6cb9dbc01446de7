import Crosscut.Settings.StandIn.Decode

/-! Settings written as a document, with every field given. -/
namespace Crosscut

def Choice.encode {α : Type} [Choice α] (a : α) : Literal :=
  .text (Choice.word a)

def SpanEvents.encode (s : SpanEvents) : Literal :=
  .table [("new", .bool s.new), ("enter", .bool s.enter), ("exit", .bool s.exit),
    ("close", .bool s.close)]

def LogSettings.encode (s : LogSettings) : Literal :=
  .table [("level", Choice.encode s.level), ("format", Choice.encode s.format),
    ("output", Choice.encode s.output), ("span_events", s.spanEvents.encode),
    ("thread_ids", .bool s.threadIds), ("file_location", .bool s.fileLocation),
    ("file_path", (s.filePath.map Literal.text).getD .null),
    ("rotation", Choice.encode s.rotation),
    ("filters", .table (s.filters.map fun (name, level) => (name, Choice.encode level)))]

def Vocabulary.encode (v : Vocabulary) : Literal :=
  .table (v.named.map fun (field, name) => (field, .text name))

def AspectPolicy.encode (p : AspectPolicy) : Literal :=
  .table [("strict", .bool p.strict), ("advise_aspects", .bool p.adviseAspects),
    ("annotations", p.vocabulary.encode)]

def Settings.encode (s : Settings) : Literal :=
  .table [("logging", s.logging.encode), ("weaving", s.weaving.encode)]

end Crosscut
