import Crosscut.Pattern.Wildcard
import Crosscut.Host.Type

/-! Patterns for method names and for types. A type pattern may end with a plus sign, which also
admits subtypes. Without a dot it is compared with the last segment of a type name only. -/
namespace Crosscut

/-- A wildcard pattern for the name of a method. -/
structure NamePattern where
  text : String
deriving DecidableEq, Repr

namespace NamePattern

/-- The pattern that fits every name without a dot. -/
def any : NamePattern := ⟨"*"⟩

def fits (p : NamePattern) (name : String) : Bool :=
  Wildcard.fits p.text name

end NamePattern

/-- A test of type names: the elements that they are compared with, in full or by their last
segments only. -/
structure NameTest where
  elements : List Wildcard.Element
  qualified : Bool
deriving DecidableEq, Repr

def NameTest.passes (test : NameTest) (name : String) : Bool :=
  Wildcard.accepts test.elements
    (if test.qualified then name.toList else Text.afterLast '.' name.toList)

/-- A wildcard pattern for types. -/
structure TypePattern where
  text : String
deriving DecidableEq, Repr

namespace TypePattern

def any : TypePattern := ⟨"*"⟩

/-- The pattern of a named type and its subtypes. -/
def subtypesOf (name : String) : TypePattern := ⟨name ++ "+"⟩

/-- Whether the pattern ends with a plus sign. -/
def admitsSubtypes (p : TypePattern) : Bool :=
  p.text.toList.getLast? == some '+'

def body (p : TypePattern) : List Char :=
  if p.admitsSubtypes then p.text.toList.dropLast else p.text.toList

/-- Whether the pattern is compared with full names. -/
def isQualified (p : TypePattern) : Bool :=
  p.body.contains '.'

def isAny (p : TypePattern) : Bool :=
  p.body == ['*']

/-- The test that the pattern puts to type names, its final plus sign aside. -/
def nameTest (p : TypePattern) : NameTest :=
  ⟨Wildcard.elements p.body, p.isQualified⟩

/-- Whether a type name fits the pattern, its final plus sign aside. -/
def fitsName (p : TypePattern) (name : String) : Bool :=
  p.nameTest.passes name

/-- Whether some name in the hierarchy of a type fits. -/
def fitsHierarchy (p : TypePattern) (t : HostType) : Bool :=
  t.anyName p.nameTest.passes

/-- Whether a type fits; with a final plus sign a supertype may fit in its place. -/
def fits (p : TypePattern) (t : HostType) : Bool :=
  if p.admitsSubtypes then p.fitsHierarchy t else p.fitsName t.name

/-- A type that fits has a fitting name in its hierarchy. -/
theorem fitsHierarchy_of_fits {p : TypePattern} {t : HostType} (fit : p.fits t = true) :
    p.fitsHierarchy t = true := by
  unfold fits at fit
  split at fit
  · exact fit
  · rw [fitsHierarchy, HostType.anyName_eq]
    exact List.any_eq_true.mpr ⟨t, t.self_mem_hierarchy, fit⟩

/-- A lone star fits every type. -/
theorem any_fitsHierarchy (t : HostType) : any.fitsHierarchy t = true := by
  have passes : any.nameTest.passes t.name = true :=
    Wildcard.afterRun_iff.mpr
      ⟨Text.afterLast '.' t.name.toList, [], (List.append_nil _).symm, Text.not_mem_afterLast _ _, rfl⟩
  rw [fitsHierarchy, HostType.anyName_eq]
  exact List.any_eq_true.mpr ⟨t, t.self_mem_hierarchy, passes⟩

end TypePattern
end Crosscut
