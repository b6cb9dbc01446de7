import Crosscut.Host.Annotation

/-! Types and methods of the host program.

A host type is a finite tree: it carries its direct supertypes and the methods it declares, whose
parameter and return types are host types again. Its hierarchy is the type itself followed by the
hierarchies of its supertypes, depth first in the order written; every question about supertypes
is a question about this list. A type that can be reached in several ways is listed once for each,
so the list may be much longer than the types are many, and a search does not write it down: it
walks the tree and ends at the first answer.

A type can be called on the methods it declares and on those it inherits. Inherited methods are
collected in the order of the supertypes; one whose name and parameter types are already listed
is overridden and left out. An inherited method keeps the type that declares it.

A name may be defined more than once, and older types keep to the definition that they were made
with. The serial number of a type says which definition it comes from. -/
namespace Crosscut

/-- Method modifiers. -/
inductive Modifier where
  | isPublic | isProtected | isPrivate | isStatic | isFinal | isAbstract | isSynchronized
deriving DecidableEq, Repr

namespace Modifier

def all : List Modifier :=
  [.isPublic, .isProtected, .isPrivate, .isStatic, .isFinal, .isAbstract, .isSynchronized]

def keyword : Modifier → String
  | .isPublic => "public"
  | .isProtected => "protected"
  | .isPrivate => "private"
  | .isStatic => "static"
  | .isFinal => "final"
  | .isAbstract => "abstract"
  | .isSynchronized => "synchronized"

def ofKeyword? (word : String) : Option Modifier :=
  all.find? (·.keyword == word)

theorem ofKeyword?_keyword (m : Modifier) : ofKeyword? m.keyword = some m := by
  cases m <;> decide

end Modifier

/-- A declared parameter; `τ` stands for types. -/
structure Parameter (τ : Type) where
  name : String
  type : τ
  annotations : List Annotation

namespace Parameter

/-- The annotation of the named type on the parameter. -/
def annotation? {τ : Type} (p : Parameter τ) (name : String) : Option Annotation :=
  Annotation.first? p.annotations name

/-- Whether the parameter has an annotation of the named type. -/
def isAnnotatedWith {τ : Type} (p : Parameter τ) (name : String) : Bool :=
  Annotation.anyNamed p.annotations name

end Parameter

/-- A method as a type declares it; `τ` stands for types. -/
structure Declaration (τ : Type) where
  name : String
  returns : τ
  parameters : List (Parameter τ)
  modifiers : List Modifier
  annotations : List Annotation

/-- A type of the host program. The serial number is that of its definition, and zero without
one. -/
inductive HostType where
  | mk (name : String) (serial : Nat) (annotations : List Annotation) (supertypes : List HostType)
      (declared : List (Declaration HostType))

/-- A declared method together with the type that declares it. The declaring type is absent once
the host has unloaded it. -/
structure Method where
  declaring : Option HostType
  declaration : Declaration HostType

namespace HostType

def name : HostType → String
  | .mk name _ _ _ _ => name

/-- The number of the definition that the type comes from. -/
def serial : HostType → Nat
  | .mk _ serial _ _ _ => serial

def annotations : HostType → List Annotation
  | .mk _ _ annotations _ _ => annotations

def supertypes : HostType → List HostType
  | .mk _ _ _ supertypes _ => supertypes

def declarations : HostType → List (Declaration HostType)
  | .mk _ _ _ _ declared => declared

/-- A type of which nothing but the name is known. -/
def bare (name : String) : HostType :=
  .mk name 0 [] [] []

/-- The type as it comes from the definition of that number. -/
def numbered (serial : Nat) : HostType → HostType
  | .mk name _ annotations supertypes declared => .mk name serial annotations supertypes declared

instance : Inhabited HostType := ⟨bare ""⟩

def simpleName (t : HostType) : String :=
  Text.simpleName t.name

mutual
/-- The type and its supertypes, depth first in the order written. -/
def hierarchy : HostType → List HostType
  | .mk name serial annotations supertypes declared =>
    .mk name serial annotations supertypes declared :: hierarchies supertypes
/-- The hierarchies of several types, one after the other. -/
def hierarchies : List HostType → List HostType
  | [] => []
  | t :: rest => hierarchy t ++ hierarchies rest
end

theorem hierarchies_eq_flatMap (types : List HostType) :
    hierarchies types = types.flatMap hierarchy := by
  induction types with
  | nil => rfl
  | cons t rest ih => simp [hierarchies, ih]

/-- The hierarchy starts with the type itself. -/
theorem hierarchy_eq (t : HostType) : t.hierarchy = t :: t.supertypes.flatMap hierarchy := by
  obtain ⟨name, serial, annotations, supertypes, declared⟩ := t
  rw [hierarchy, hierarchies_eq_flatMap]
  rfl

@[simp] theorem self_mem_hierarchy (t : HostType) : t ∈ t.hierarchy := by
  rw [hierarchy_eq]
  exact List.mem_cons_self

mutual
/-- The first answer that a question gets in the hierarchy. Nothing behind it is asked. -/
def findSome? {α : Type} (question : HostType → Option α) : HostType → Option α
  | .mk name serial annotations supertypes declared =>
    match question (.mk name serial annotations supertypes declared) with
    | some answer => some answer
    | none => findSomeOf? question supertypes
/-- The first answer that a question gets in the hierarchies of several types. -/
def findSomeOf? {α : Type} (question : HostType → Option α) : List HostType → Option α
  | [] => none
  | t :: rest =>
    match findSome? question t with
    | some answer => some answer
    | none => findSomeOf? question rest
end

mutual
/-- The search gives the first answer in the list that the hierarchy is. -/
theorem findSome?_eq {α : Type} (question : HostType → Option α) :
    (t : HostType) → t.findSome? question = t.hierarchy.findSome? question
  | .mk name serial annotations supertypes declared => by
    rw [findSome?, hierarchy, List.findSome?_cons, findSomeOf?_eq question supertypes]
    cases question (.mk name serial annotations supertypes declared) <;> rfl
theorem findSomeOf?_eq {α : Type} (question : HostType → Option α) :
    (types : List HostType) → findSomeOf? question types = (hierarchies types).findSome? question
  | [] => rfl
  | t :: rest => by
    rw [findSomeOf?, hierarchies, List.findSome?_append, findSome?_eq question t,
      findSomeOf?_eq question rest]
    cases t.hierarchy.findSome? question <;> rfl
end

/-- The first type in the hierarchy that passes a test. -/
def find? (t : HostType) (test : HostType → Bool) : Option HostType :=
  t.findSome? (Option.guard test)

theorem find?_eq (t : HostType) (test : HostType → Bool) :
    t.find? test = t.hierarchy.find? test := by
  rw [find?, findSome?_eq, List.findSome?_guard]

/-- Whether some name in the hierarchy passes a test. -/
def anyName (t : HostType) (test : String → Bool) : Bool :=
  (t.find? (test ·.name)).isSome

theorem anyName_eq (t : HostType) (test : String → Bool) :
    t.anyName test = t.hierarchy.any (test ·.name) := by
  rw [anyName, find?_eq]
  exact List.isSome_find?

/-- Whether the type or one of its supertypes has the name. -/
def isSubtypeOf (t : HostType) (name : String) : Bool :=
  t.anyName (· == name)

/-- The annotation of the named type written on the type itself. -/
def annotation? (t : HostType) (name : String) : Option Annotation :=
  Annotation.first? t.annotations name

/-- Whether an annotation of the named type is written on the type itself. -/
def isAnnotatedWith (t : HostType) (name : String) : Bool :=
  Annotation.anyNamed t.annotations name

/-- The first annotation of the named type in the hierarchy. -/
def findAnnotation? (t : HostType) (name : String) : Option Annotation :=
  t.findSome? (·.annotation? name)

/-- Whether an annotation of the named type occurs in the hierarchy. -/
def carries (t : HostType) (name : String) : Bool :=
  (t.findAnnotation? name).isSome

end HostType

/-- The identity of a method in text form: declaring type, name and parameter types. -/
structure MethodKey where
  text : String
deriving DecidableEq, Repr

namespace Method

def name (m : Method) : String := m.declaration.name

def parameters (m : Method) : List (Parameter HostType) := m.declaration.parameters

def returns (m : Method) : HostType := m.declaration.returns

def modifiers (m : Method) : List Modifier := m.declaration.modifiers

def annotations (m : Method) : List Annotation := m.declaration.annotations

/-- The name of the declaring type, empty when the type is unloaded. -/
def declaringName (m : Method) : String :=
  (m.declaring.map HostType.name).getD ""

def parameterTypes (m : Method) : List String :=
  m.parameters.map (·.type.name)

/-- The annotation of the named type on the method. -/
def annotation? (m : Method) (name : String) : Option Annotation :=
  Annotation.first? m.annotations name

/-- Whether the method has an annotation of the named type. -/
def isAnnotatedWith (m : Method) (name : String) : Bool :=
  Annotation.anyNamed m.annotations name

/-- What overriding compares: the name and the names of the parameter types. -/
def signature (m : Method) : String × List String :=
  (m.name, m.parameterTypes)

def key (m : Method) : MethodKey :=
  ⟨m.declaringName ++ "." ++ m.name ++ "(" ++ ",".intercalate m.parameterTypes ++ ")"⟩

/-- The method after its declaring type has been unloaded. -/
def orphaned (m : Method) : Method :=
  { m with declaring := none }

/-- Whether one of two methods overrides the other where both are listed. -/
def sameSignature (a b : Method) : Bool :=
  a.name == b.name && a.parameterTypes == b.parameterTypes

theorem sameSignature_iff {a b : Method} : a.sameSignature b = true ↔ a.signature = b.signature := by
  simp [sameSignature, signature]

/-- The inherited methods that no listed method overrides, and no inherited one before them. -/
def newcomers (listed : List Method) : (inherited : List Method) → List Method
  | [] => []
  | m :: rest =>
    if listed.any m.sameSignature then newcomers listed rest
    else m :: newcomers (m :: listed) rest

/-- Adds inherited methods in order, each unless a listed one overrides it. -/
def inheritAll (listed inherited : List Method) : List Method :=
  listed ++ newcomers listed inherited

end Method

namespace HostType

def declared (t : HostType) : List Method :=
  t.declarations.map (⟨some t, ·⟩)

mutual
/-- The methods that can be called on the type: declared ones, then inherited ones. -/
def methods : HostType → List Method
  | .mk name serial annotations supertypes declared =>
    Method.inheritAll (declared.map (⟨some (.mk name serial annotations supertypes declared), ·⟩))
      (methodsOfAll supertypes)
/-- The methods of several types, one type after the other. -/
def methodsOfAll : List HostType → List Method
  | [] => []
  | t :: rest => methods t ++ methodsOfAll rest
end

theorem methodsOfAll_eq_flatMap (types : List HostType) :
    methodsOfAll types = types.flatMap methods := by
  induction types with
  | nil => rfl
  | cons t rest ih => simp [methodsOfAll, ih]

theorem methods_eq (t : HostType) :
    t.methods = Method.inheritAll t.declared (t.supertypes.flatMap methods) := by
  obtain ⟨name, serial, annotations, supertypes, declared⟩ := t
  rw [methods, methodsOfAll_eq_flatMap]
  rfl

end HostType
end Crosscut
