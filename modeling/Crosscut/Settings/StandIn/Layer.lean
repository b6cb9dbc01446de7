import Crosscut.Settings.Document

/-! Merging documents. A document over another one keeps what the upper one does not give: where both
give a table, their entries are combined key by key, and everywhere else the upper value stands. -/
namespace Crosscut
namespace Literal

/-- Gives a field a value, in place or at the end. -/
def setField (name : String) (value : Literal) :
    List (String × Literal) → List (String × Literal)
  | [] => [(name, value)]
  | field :: rest =>
    if field.1 = name then (name, value) :: rest else field :: setField name value rest

mutual
def lay (lower : Literal) : Literal → Literal
  | .table fields =>
    match lower with
    | .table base => .table (layFields base fields)
    | _ => .table fields
  | upper => upper
def layFields (base : List (String × Literal)) :
    List (String × Literal) → List (String × Literal)
  | [] => base
  | (name, value) :: rest =>
    layFields
      (setField name
        (match fieldIn? name base with
          | some lower => lower.lay value
          | none => value)
        base)
      rest
end

theorem fieldIn?_setField (name probe : String) (value : Literal)
    (fields : List (String × Literal)) :
    fieldIn? probe (setField name value fields) =
      if probe = name then some value else fieldIn? probe fields := by
  induction fields with
  | nil =>
    by_cases same : probe = name
    · simp [fieldIn?, setField, same]
    · simp [fieldIn?, setField, same, Ne.symm same]
  | cons field rest ih =>
    by_cases here : field.1 = name
    · by_cases same : probe = name
      · simp [fieldIn?, setField, here, same]
      · simp [fieldIn?, setField, here, same, Ne.symm same]
    · by_cases found : field.1 = probe
      · have other : probe ≠ name := fun equal => here (found.trans equal)
        simp [fieldIn?, setField, found, other]
      · simpa [fieldIn?, setField, here, found] using ih

end Literal
end Crosscut
