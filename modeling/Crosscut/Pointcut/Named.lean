import Crosscut.Host.Type

/-! Named pointcuts. A method of an aspect that carries the pointcut annotation names the
expression in its annotation. A reference without a dot is looked up on the aspect itself; one
with a dot is looked up on the first type of the aspect's hierarchy whose full name or last
segment is what stands before the last dot. -/
namespace Crosscut

/-- A method that names a pointcut, and the annotation that makes it one. -/
structure NamedPointcut where
  method : Method
  marker : Annotation

namespace NamedPointcut

/-- The named pointcut that a method is under an annotation name. -/
def ofMethod? (annotationName : String) (m : Method) : Option NamedPointcut :=
  (m.annotation? annotationName).map (⟨m, ·⟩)

/-- The identity of a method as a named pointcut: its declaring type and its name. -/
def keyOf (m : Method) : String :=
  m.declaringName ++ "." ++ m.name

def key (p : NamedPointcut) : String :=
  keyOf p.method

def expression? (p : NamedPointcut) : Option String :=
  (p.marker.text? "value").or (p.marker.text? "pointcut")

/-- The names of the parameters: those the annotation lists, or those of the method. -/
def parameterNames (p : NamedPointcut) : List String :=
  match p.marker.text? "argNames" with
  | some names => (Text.items names.toList).map String.ofList
  | none => p.method.parameters.map (·.name)

/-- The first pointcut of a name that can be reached on a type. -/
def onType? (annotationName : String) (t : HostType) (name : String) : Option NamedPointcut :=
  (t.methods.filter (·.name == name)).findSome? (ofMethod? annotationName)

/-- The first type in a hierarchy with the full name or the last segment given. -/
def ownerIn? (aspect : HostType) (typeName : String) : Option HostType :=
  aspect.find? fun t => t.name == typeName || t.simpleName == typeName

/-- The pointcut that a reference on an aspect denotes. -/
def find? (annotationName : String) (aspect : HostType) (reference : String) :
    Option NamedPointcut :=
  match Text.cutLast '.' reference.toList with
  | none => onType? annotationName aspect reference
  | some (typeName, name) =>
    match ownerIn? aspect (String.ofList typeName) with
    | none => none
    | some owner => onType? annotationName owner (String.ofList name)

/-- The identities of all methods that can be reached on a type of the hierarchy. -/
def keysOf (aspect : HostType) : List String :=
  aspect.hierarchy.flatMap fun t => t.methods.map keyOf

/-- The named pointcuts that can be reached on a type of the hierarchy. -/
def listed (annotationName : String) (aspect : HostType) : List NamedPointcut :=
  aspect.hierarchy.flatMap fun t => t.methods.filterMap (ofMethod? annotationName)

private theorem onType?_listed {annotationName : String} {t : HostType} {name : String}
    {p : NamedPointcut} (found : onType? annotationName t name = some p) :
    p ∈ t.methods.filterMap (ofMethod? annotationName) := by
  obtain ⟨m, named, made⟩ := List.exists_of_findSome?_eq_some found
  exact List.mem_filterMap.mpr ⟨m, (List.mem_filter.mp named).1, made⟩

/-- Every reference denotes a named pointcut of the hierarchy. -/
theorem mem_listed {annotationName : String} {aspect : HostType} {reference : String}
    {p : NamedPointcut} (found : find? annotationName aspect reference = some p) :
    p ∈ listed annotationName aspect := by
  unfold find? at found
  split at found
  · exact List.mem_flatMap.mpr ⟨aspect, aspect.self_mem_hierarchy, onType?_listed found⟩
  · split at found
    · cases found
    · rename_i owner located
      rw [ownerIn?, HostType.find?_eq] at located
      exact List.mem_flatMap.mpr ⟨owner, List.mem_of_find?_eq_some located, onType?_listed found⟩

/-- Every reference denotes a method of the hierarchy. -/
theorem key_mem_keysOf {annotationName : String} {aspect : HostType} {reference : String}
    {p : NamedPointcut} (found : find? annotationName aspect reference = some p) :
    p.key ∈ keysOf aspect := by
  obtain ⟨t, inside, reached⟩ := List.mem_flatMap.mp (mem_listed found)
  obtain ⟨m, member, made⟩ := List.mem_filterMap.mp reached
  obtain ⟨a, -, rfl⟩ := Option.map_eq_some_iff.mp made
  exact List.mem_flatMap.mpr ⟨t, inside, List.mem_map_of_mem member⟩

end NamedPointcut
end Crosscut
