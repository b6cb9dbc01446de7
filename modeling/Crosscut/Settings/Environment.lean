/-! The variables of the environment. The names of those that give settings start with the engine's
word, and two underscores stand between the keys that they lead to. -/
namespace Crosscut

/-- The variables in the order in which the process has them. -/
abbrev Variables := List (String × String)

namespace Variables

/-- What the names of the engine's variables start with. -/
def marker : String := "WEFT_"

/-- What stands between the keys in the name of a variable. -/
def separator : String := "__"

def profileName : String := "WEFT_PROFILE"

def value? (vars : Variables) (name : String) : Option String :=
  (vars.find? (·.1 == name)).map (·.2)

end Variables
end Crosscut
