/-! Literal values: what the attributes of an annotation hold and what configuration documents
are made of. A decimal keeps the text it was written with, so it is never rounded. -/
namespace Crosscut

/-- A literal value. -/
inductive Literal where
  | null
  | bool (value : Bool)
  | integer (value : Int)
  | decimal (written : String)
  | text (value : String)
  | list (items : List Literal)
  | table (fields : List (String × Literal))
deriving Inhabited, Repr

namespace Literal

def text? : Literal → Option String
  | .text value => some value
  | _ => none

/-- The value of an integer literal that fits in 64 bits with a sign. -/
def int64? : Literal → Option Int
  | .integer value =>
    if -9223372036854775808 ≤ value ∧ value ≤ 9223372036854775807 then some value else none
  | _ => none

end Literal
end Crosscut
