import Crosscut.Pointcut.Clause
import Crosscut.Pointcut.Error
import Crosscut.Pointcut.Formula

/-! The binding rule. Every declared parameter is bound at exactly one place, and that place
decides the match: it lies under no negation and in no branch of a disjunction. Places are
visited from left to right and the first violation counts; parameters that stay unbound are
looked for last. -/
namespace Crosscut

/-- How the binding rule is violated. -/
inductive BindingFault where
  | underNegation (name : String)
  | underDisjunction (name : String)
  | ambiguous (name : String)
  | unbound (name : String)
deriving DecidableEq, Repr

/-- The error for an expression that violates the binding rule. -/
def BindingFault.toError (expression : String) : BindingFault → ParseError
  | .underNegation name => .bindingUnderNegation expression name
  | .underDisjunction name => .bindingUnderDisjunction expression name
  | .ambiguous name => .ambiguousBinding expression name
  | .unbound name => .unboundParameter expression name

/-- What stands above a place in a formula. -/
structure Surroundings where
  negated : Bool
  disjunct : Bool
deriving DecidableEq, Repr

namespace Surroundings

def top : Surroundings := ⟨false, false⟩

/-- Binds names in order at one place, adding them to those already bound. -/
def bindNames (above : Surroundings) (bound : List String) :
    List String → Except BindingFault (List String)
  | [] => .ok bound
  | name :: rest =>
    if above.negated then .error (.underNegation name)
    else if above.disjunct then .error (.underDisjunction name)
    else if bound.contains name then .error (.ambiguous name)
    else bindNames above (bound ++ [name]) rest

end Surroundings

namespace Formula

/-- Visits the binding places of a formula: the names bound after it, given those before it. -/
def bindPlaces (above : Surroundings) (bound : List String) :
    Formula Clause → Except BindingFault (List String)
  | .leaf clause => above.bindNames bound clause.boundNames
  | .not inner => inner.bindPlaces { above with negated := true } bound
  | .and left right =>
    match left.bindPlaces above bound with
    | .error fault => .error fault
    | .ok after => right.bindPlaces above after
  | .or left right =>
    match left.bindPlaces { above with disjunct := true } bound with
    | .error fault => .error fault
    | .ok after => right.bindPlaces { above with disjunct := true } after
  | .reference _ body => body.bindPlaces above bound

/-- Checks the binding rule for the declared parameters. -/
def checkBindings (f : Formula Clause) (parameters : List Binding) : Except BindingFault Unit :=
  match f.bindPlaces .top [] with
  | .error fault => .error fault
  | .ok bound =>
    match parameters.find? (!bound.contains ·.name) with
    | some parameter => .error (.unbound parameter.name)
    | none => .ok ()

end Formula
end Crosscut
