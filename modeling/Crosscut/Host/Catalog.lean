import Crosscut.Host.Type
import Crosscut.Table

/-! The types that a host has made known by name. A name that the catalog does not hold denotes a
bare type. The host may unload a type: its name then denotes a bare type as well, but the methods
that could be called on it can still be reached.

A method loses its declaring type when that type is gone. A type stays while its name is loaded, and
while a type that stays, or a method that can be reached, refers to it. Since a definition refers
only to earlier ones, one pass from the latest definition to the first finds the types that stay. -/
namespace Crosscut

/-- The types of a host by name, those it has unloaded, and all its definitions from the latest to
the first. -/
structure Catalog where
  loaded : Table String HostType
  unloaded : Table String HostType
  history : List HostType

/-- The definitions that a declared method refers to. -/
def Declaration.references (d : Declaration HostType) : List Nat :=
  d.returns.serial :: d.parameters.map (·.type.serial)

/-- The method as it is reached while some definitions stay: without its declaring type if that is
gone. -/
def Method.whileStaying (m : Method) (staying : List Nat) : Method :=
  if m.declaring.any (staying.contains ·.serial) then m else m.orphaned

/-- The definitions that a type refers to. -/
def HostType.references (t : HostType) : List Nat :=
  t.supertypes.map HostType.serial ++ t.declarations.flatMap Declaration.references

namespace Catalog

def empty : Catalog := ⟨.empty, .empty, []⟩

def resolve (c : Catalog) (name : String) : HostType :=
  (c.loaded.get? name).getD (.bare name)

/-- Makes a type known, in place of an earlier one of the same name. -/
def define (c : Catalog) (t : HostType) : Catalog :=
  let defined := t.numbered (c.history.length + 1)
  { c with loaded := c.loaded.insert t.name defined, history := defined :: c.history }

def unload (c : Catalog) (name : String) : Catalog :=
  match c.loaded.get? name with
  | some t => { c with loaded := c.loaded.erase name, unloaded := c.unloaded.insert name t }
  | none => c

/-- The known types in the order in which their names were first defined. -/
def types (c : Catalog) : List HostType :=
  c.loaded.values

/-- The definitions that are loaded or that a method of an unloaded type refers to. -/
def roots (c : Catalog) : List Nat :=
  c.types.map HostType.serial ++
    (c.unloaded.values.flatMap HostType.methods).flatMap (·.declaration.references)

/-- Marks what a type refers to if the type is marked itself. -/
def mark (marked : List Nat) (t : HostType) : List Nat :=
  if t.serial ∈ marked then t.references ++ marked else marked

/-- The definitions whose types stay. -/
def staying (c : Catalog) : List Nat :=
  c.history.foldl mark c.roots

/-- The methods that can be reached through a type name. -/
def methods (c : Catalog) (name : String) : List Method :=
  match c.unloaded.get? name with
  | some t =>
    let staying := c.staying
    t.methods.map (·.whileStaying staying)
  | none => (c.resolve name).methods

/-- The methods that a named type declares itself. -/
def declaredMethods (c : Catalog) (name : String) : List Method :=
  match c.unloaded.get? name with
  | some t =>
    let staying := c.staying
    t.declared.map (·.whileStaying staying)
  | none => (c.resolve name).declared

/-- The method of that name at a position among those of the same name. -/
def method? (c : Catalog) (typeName name : String) (position : Nat) : Option Method :=
  ((c.methods typeName).filter (·.name == name))[position]?

/-- The first method of that name that the type declares itself. -/
def declaredMethod? (c : Catalog) (typeName name : String) : Option Method :=
  (c.declaredMethods typeName).find? (·.name == name)

end Catalog
end Crosscut
