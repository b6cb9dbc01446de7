import Crosscut.Pointcut.Clause
import Crosscut.Text.Alphanumeric
import Crosscut.Text.Lowercase

/-! Names and type texts inside a clause. A lower-case simple word that is no primitive type can
only be the name of a parameter, so it has to be in scope. Everything else names a type when the
scope does not know it. -/
namespace Crosscut

namespace Pointcut

/-- The names of the primitive types, the only lower-case simple type names. -/
def primitives : List String :=
  ["boolean", "byte", "char", "short", "int", "long", "float", "double", "void"]

/-- Whether a text can only be the name of a parameter. -/
def isParameterName (text : String) : Bool :=
  match text.toList with
  | [] => false
  | c :: rest =>
    (Text.isLowercase c || c == '_') &&
      rest.all (fun d => Text.isAlphanumeric d || d == '_' || d == '$') &&
      !primitives.contains text

/-- The characters of type patterns. -/
def isTypeChar (c : Char) : Bool :=
  Text.isAlphanumeric c || ['_', '$', '.', '*', '+', '[', ']'].contains c

/-- Whether a text can be a type pattern. -/
def isTypeText (cs : List Char) : Bool :=
  !cs.isEmpty && cs.all isTypeChar

end Pointcut

/-- What a name in scope stands for: a declared parameter, or a type text that the reference to
a named pointcut passed for it. -/
inductive Meaning where
  | parameter (binding : Binding)
  | type (text : String)

/-- The names in scope. Of two meanings for one name the later one counts. -/
abbrev Scope := List (String × Meaning)

namespace Scope

def ofParameters (parameters : List Binding) : Scope :=
  parameters.map fun b => (b.name, .parameter b)

def meaning? (scope : Scope) (name : String) : Option Meaning :=
  (scope.reverse.find? (·.1 == name)).map (·.2)

/-- What a text stands for, or nothing if it is to be read as a type. The result is an error
for a name of a parameter that is not in scope. -/
def lookup (scope : Scope) (text : String) : Except String (Option Meaning) :=
  match scope.meaning? text with
  | some meaning => .ok (some meaning)
  | none => if Pointcut.isParameterName text then .error text else .ok none

end Scope
end Crosscut
