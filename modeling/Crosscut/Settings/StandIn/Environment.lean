import Crosscut.Settings.Environment
import Crosscut.Settings.StandIn.Inline
import Crosscut.Settings.StandIn.Layer

/-! The document that variables give. A variable counts when its name starts with the marker. What
follows leads to the field: the separator or a dot stands between the keys. Upper and lower case do not
matter, and neither does white space around the name or around what follows the marker. -/
namespace Crosscut.Variables

def lowered (text : String) : List Char :=
  text.toList.map Char.toLower

/-- A text with every separator in it as a dot. The number counts what is left of one. -/
def dotted (separator : List Char) : Nat → List Char → List Char
  | _, [] => []
  | left + 1, _ :: rest => dotted separator left rest
  | 0, c :: rest =>
    if separator.isPrefixOf (c :: rest) then '.' :: dotted separator (separator.length - 1) rest
    else c :: dotted separator 0 rest

/-- The keys that the name of a variable leads to, if it starts with the marker. -/
def keys? (marker separator name : String) : Option (List String) :=
  ((lowered marker).isPrefixOf? (Text.trimChars (lowered name))).bind fun behind =>
    let written := Text.trimChars (dotted (lowered separator) 0 behind)
    let keys := (Text.parts (· == '.') written).map String.ofList
    if keys.any String.isEmpty then none else some keys

/-- The document of one variable, if it counts. -/
def nested? (marker separator : String) (var : String × String) : Option Literal :=
  (keys? marker separator var.1).map (Literal.nest (Inline.literal var.2))

/-- The document of all variables, each over those before. -/
def layer (marker separator : String) (vars : Variables) : Literal :=
  (vars.filterMap (nested? marker separator)).foldl Literal.lay (.table [])

end Crosscut.Variables
