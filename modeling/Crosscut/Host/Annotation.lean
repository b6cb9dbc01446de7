import Crosscut.Literal
import Crosscut.Text.Split

/-! Annotations on host types, methods and parameters. An annotation is known by the name of its
type. Hosts may write that name in full or as its last segment alone, so names are compared in
full only when both are qualified. -/
namespace Crosscut

/-- An annotation: the name of its type and its attributes. -/
structure Annotation where
  typeName : String
  attributes : List (String × Literal) := []
deriving Repr

namespace Annotation

/-- Whether two annotation names may mean the same type: they are equal, or one of them is
unqualified and their last segments are equal. -/
def sameName (name other : String) : Bool :=
  name == other ||
    ((!Text.isQualified name || !Text.isQualified other) &&
      Text.simpleName name == Text.simpleName other)

/-- Whether the annotation is of the named type. -/
def isNamed (a : Annotation) (name : String) : Bool :=
  sameName a.typeName name

def attribute? (a : Annotation) (key : String) : Option Literal :=
  (a.attributes.find? (·.1 == key)).map (·.2)

/-- The attribute under a key, if it is a text. -/
def text? (a : Annotation) (key : String) : Option String :=
  (a.attribute? key).bind Literal.text?

/-- The attribute under a key, if it is an integer of 64 bits. -/
def int64? (a : Annotation) (key : String) : Option Int :=
  (a.attribute? key).bind Literal.int64?

def first? (annotations : List Annotation) (name : String) : Option Annotation :=
  annotations.find? (·.isNamed name)

/-- Whether one of the annotations is of the named type. -/
def anyNamed (annotations : List Annotation) (name : String) : Bool :=
  annotations.any (·.isNamed name)

theorem sameName_iff {name other : String} :
    sameName name other = true ↔ name = other ∨
      (Text.isQualified name = false ∨ Text.isQualified other = false) ∧
        Text.simpleName name = Text.simpleName other := by
  simp [sameName]

@[simp] theorem sameName_self (name : String) : sameName name name = true := by
  simp [sameName]

theorem isNamed_of_first? {annotations : List Annotation} {name : String} {a : Annotation}
    (found : first? annotations name = some a) : a.isNamed name = true := by
  unfold first? at found
  have passed := List.find?_some found
  exact passed

theorem first?_isSome (annotations : List Annotation) (name : String) :
    (first? annotations name).isSome = anyNamed annotations name := by
  rw [Bool.eq_iff_iff]
  simp [first?, anyNamed]

end Annotation
end Crosscut
