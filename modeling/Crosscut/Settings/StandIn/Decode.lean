import Crosscut.Collect
import Crosscut.Settings.Error

/-! Reading settings from a document. A section of the document is a table of fields, or a list of
the values of its fields in their declared order. Fields that are not declared are ignored, and
fields that are missing keep their defaults. The first value that does not fit decides the error,
where the fields of a table are read in the order of their names. -/
namespace Crosscut

/-- What a reader of documents tolerates: whether a list may be longer than the section that it
stands for. -/
structure DecodeRules where
  surplusItems : Bool
deriving DecidableEq, Repr

namespace DecodeRules

/-- The rules for a section that stands alone. -/
def exact : DecodeRules := ⟨false⟩

/-- The rules for a document that layers were merged into. -/
def layered : DecodeRules := ⟨true⟩

end DecodeRules

/-- Reads a value at the end of the keys that lead to it. -/
abbrev Decoder (α : Type) := (keys : List String) → Literal → Except SettingsError α

namespace Decoder

def bool : Decoder Bool
  | _, .bool value => .ok value
  | keys, _ => .error (.misfit keys)

def text : Decoder String
  | _, .text value => .ok value
  | keys, _ => .error (.misfit keys)

def text? : Decoder (Option String)
  | _, .null => .ok none
  | keys, value => (text keys value).map some

/-- Reads a choice: its word, or a table with the word as its only key and without a value. -/
def choice {α : Type} [Choice α] : Decoder α
  | keys, .text written =>
    match Choice.ofWord? written with
    | some a => .ok a
    | none => .error (.misfit keys)
  | keys, .table fields =>
    match fields.mergeSort (fun a b => a.1 ≤ b.1) with
    | (written, value) :: more =>
      match Choice.ofWord? written, value, more with
      | some a, .null, [] => .ok a
      | _, _, _ => .error (.misfit (keys ++ [written]))
    | [] => .error (.misfit keys)
  | keys, _ => .error (.misfit keys)

/-- Reads a table of choices, in the order of its keys. -/
def choices {α : Type} [Choice α] : Decoder (List (String × α))
  | keys, .table fields =>
    collect (fun (name, value) => (choice (keys ++ [name]) value).map (name, ·))
      (fields.mergeSort (fun a b => a.1 ≤ b.1))
  | keys, _ => .error (.misfit keys)

/-- The fields that a section gives: the name of each, the key that leads to it, and its value. -/
def fields (rules : DecodeRules) (declared : List String) :
    Decoder (List (String × String × Literal))
  | _, .table fields =>
    .ok ((fields.mergeSort (fun a b => a.1 ≤ b.1)).map fun (name, value) => (name, name, value))
  | keys, .list items =>
    if items.length ≤ declared.length ∨ rules.surplusItems = true then
      .ok (declared.zip (items.zipIdx.map fun (value, position) => (toString position, value)))
    else .error (.misfit keys)
  | keys, _ => .error (.misfit keys)

def setAll {α : Type} (set : α → String → Decoder α) (keys : List String) (current : α) :
    List (String × String × Literal) → Except SettingsError α
  | [] => .ok current
  | (name, key, value) :: rest =>
    match set current name (keys ++ [key]) value with
    | .error e => .error e
    | .ok next => setAll set keys next rest

/-- Reads a section: its fields replace the defaults one after the other. -/
def record {α : Type} (rules : DecodeRules) (declared : List String) (defaults : α)
    (set : α → String → Decoder α) : Decoder α := fun keys value =>
  match fields rules declared keys value with
  | .error e => .error e
  | .ok given => setAll set keys defaults given

end Decoder

namespace SpanEvents

def setField (s : SpanEvents) (name : String) : Decoder SpanEvents := fun keys value =>
  match name with
  | "new" => (Decoder.bool keys value).map fun new => { s with new }
  | "enter" => (Decoder.bool keys value).map fun enter => { s with enter }
  | "exit" => (Decoder.bool keys value).map fun exit => { s with exit }
  | "close" => (Decoder.bool keys value).map fun close => { s with close }
  | _ => .ok s

def decode (rules : DecodeRules) : Decoder SpanEvents :=
  Decoder.record rules ["new", "enter", "exit", "close"] {} setField

end SpanEvents

namespace LogSettings

def setField (rules : DecodeRules) (s : LogSettings) (name : String) : Decoder LogSettings :=
  fun keys value =>
  match name with
  | "level" => (Decoder.choice keys value).map fun level => { s with level }
  | "format" => (Decoder.choice keys value).map fun format => { s with format }
  | "output" => (Decoder.choice keys value).map fun output => { s with output }
  | "span_events" =>
    (SpanEvents.decode rules keys value).map fun spanEvents => { s with spanEvents }
  | "thread_ids" => (Decoder.bool keys value).map fun threadIds => { s with threadIds }
  | "file_location" => (Decoder.bool keys value).map fun fileLocation => { s with fileLocation }
  | "file_path" => (Decoder.text? keys value).map fun filePath => { s with filePath }
  | "rotation" => (Decoder.choice keys value).map fun rotation => { s with rotation }
  | "filters" => (Decoder.choices keys value).map fun filters => { s with filters }
  | _ => .ok s

def decode (rules : DecodeRules) : Decoder LogSettings :=
  Decoder.record rules
    ["level", "format", "output", "span_events", "thread_ids", "file_location", "file_path",
      "rotation", "filters"]
    {} (setField rules)

end LogSettings

namespace Vocabulary

def setField (v : Vocabulary) (name : String) : Decoder Vocabulary := fun keys value =>
  match name with
  | "aspect" => (Decoder.text keys value).map fun aspect => { v with aspect }
  | "pointcut" => (Decoder.text keys value).map fun pointcut => { v with pointcut }
  | "before" => (Decoder.text keys value).map fun before => { v with before }
  | "after" => (Decoder.text keys value).map fun after => { v with after }
  | "after_returning" =>
    (Decoder.text keys value).map fun afterReturning => { v with afterReturning }
  | "after_throwing" => (Decoder.text keys value).map fun afterThrowing => { v with afterThrowing }
  | "around" => (Decoder.text keys value).map fun around => { v with around }
  | "order" => (Decoder.text keys value).map fun order => { v with order }
  | "join_point" => (Decoder.text keys value).map fun joinPoint => { v with joinPoint }
  | "proceeding_join_point" =>
    (Decoder.text keys value).map fun proceedingJoinPoint => { v with proceedingJoinPoint }
  | _ => .ok v

def decode (rules : DecodeRules) : Decoder Vocabulary :=
  Decoder.record rules
    ["aspect", "pointcut", "before", "after", "after_returning", "after_throwing", "around",
      "order", "join_point", "proceeding_join_point"]
    {} setField

end Vocabulary

namespace AspectPolicy

def setField (rules : DecodeRules) (p : AspectPolicy) (name : String) : Decoder AspectPolicy :=
  fun keys value =>
  match name with
  | "strict" => (Decoder.bool keys value).map fun strict => { p with strict }
  | "advise_aspects" => (Decoder.bool keys value).map fun adviseAspects => { p with adviseAspects }
  | "annotations" =>
    (Vocabulary.decode rules keys value).map fun vocabulary => { p with vocabulary }
  | _ => .ok p

def decode (rules : DecodeRules) : Decoder AspectPolicy :=
  Decoder.record rules ["strict", "advise_aspects", "annotations"] {} (setField rules)

end AspectPolicy

namespace Settings

def setField (rules : DecodeRules) (s : Settings) (name : String) : Decoder Settings :=
  fun keys value =>
  match name with
  | "logging" => (LogSettings.decode rules keys value).map fun logging => { s with logging }
  | "weaving" => (AspectPolicy.decode rules keys value).map fun weaving => { s with weaving }
  | _ => .ok s

def decode (rules : DecodeRules) : Decoder Settings :=
  Decoder.record rules ["logging", "weaving"] {} (setField rules)

end Settings
end Crosscut
