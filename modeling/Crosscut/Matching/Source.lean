import Crosscut.Pointcut.Clause

/-! Where the value of a bound parameter comes from at a call. -/
namespace Crosscut

/-- The source of a bound value: an argument by position, one of the two objects of the call, or
an annotation of a named type at a place. -/
inductive BindingSource where
  | argument (index : Nat)
  | object (role : ObjectRole)
  | annotated (site : AnnotationSite) (name : String)
deriving DecidableEq, Repr

namespace BindingSource

/-- The text of a source, in the words of the clause that binds from it. -/
def text : BindingSource → String
  | .argument index => s!"args[{index}]"
  | .object role => role.keyword
  | .annotated site name => s!"{site.keyword}({name})"

def index? : BindingSource → Option Nat
  | .argument index => some index
  | _ => none

end BindingSource

/-- Sources by the name of the parameter that they are bound to. -/
abbrev Sources := List (String × BindingSource)

/-- The first source of a parameter. -/
def Sources.of? (sources : Sources) (parameter : String) : Option BindingSource :=
  (sources.find? (·.1 == parameter)).map (·.2)

namespace Sources

/-- A parameter has a source exactly when it is listed. -/
theorem isSome_of? {sources : Sources} {parameter : String} :
    (sources.of? parameter).isSome = true ↔ parameter ∈ sources.map (·.1) := by
  simp [of?]

theorem mem_of_of? {sources : Sources} {parameter : String} {source : BindingSource}
    (found : sources.of? parameter = some source) : (parameter, source) ∈ sources := by
  obtain ⟨⟨name, known⟩, first, rfl⟩ := Option.map_eq_some_iff.mp found
  have same : name = parameter := by simpa using List.find?_some first
  exact same ▸ List.mem_of_find?_eq_some first

end Sources
end Crosscut
