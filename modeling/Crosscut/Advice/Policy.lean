import Crosscut.Advice.Kind

/-! How aspects are recognized and woven: the names that mark them, whether one bad aspect spoils
the container it is found in, and whether aspects may be advised themselves. -/
namespace Crosscut

/-- How aspects are recognized and woven. -/
structure AspectPolicy where
  vocabulary : Vocabulary := {}
  strict : Bool := false
  adviseAspects : Bool := false
deriving DecidableEq, Repr

namespace AspectPolicy

def isAspect (p : AspectPolicy) (t : HostType) : Bool :=
  t.isAnnotatedWith p.vocabulary.aspect

/-- Whether a type is left alone because it is an aspect itself. -/
def skips (p : AspectPolicy) (t : HostType) : Bool :=
  !p.adviseAspects && p.isAspect t

end AspectPolicy
end Crosscut
