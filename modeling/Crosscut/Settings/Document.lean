import Crosscut.Literal

/-! Configuration documents. A document is a table, and tables in it are sections: a chain of keys leads
to a value. -/
namespace Crosscut
namespace Literal

/-- The value of a field among the fields of a table. -/
def fieldIn? (name : String) (fields : List (String × Literal)) : Option Literal :=
  (fields.find? (·.1 == name)).map (·.2)

/-- The value that a document gives for a chain of keys. -/
def at? : Literal → List String → Option Literal
  | value, [] => some value
  | .table fields, key :: keys =>
    match fieldIn? key fields with
    | some value => value.at? keys
    | none => none
  | _, _ :: _ => none

/-- The document that gives a value for a chain of keys and nothing else. -/
def nest (value : Literal) (keys : List String) : Literal :=
  keys.foldr (fun key inner => .table [(key, inner)]) value

/-- A nested value is found at its keys. -/
theorem at?_nest (value : Literal) (keys : List String) : (nest value keys).at? keys = some value := by
  induction keys with
  | nil => simp [nest, at?]
  | cons key rest ih => simpa [nest, at?, fieldIn?] using ih

end Literal
end Crosscut
