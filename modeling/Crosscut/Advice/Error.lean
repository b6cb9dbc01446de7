import Crosscut.Advice.Kind
import Crosscut.Pointcut.Error

/-! Why an advice method is rejected. -/
namespace Crosscut

/-- Why an advice method is rejected. -/
inductive AdviceError where
  | missingPointcut (kind : AdviceKind) (method : MethodKey)
  | missingProceedingJoinPoint (method : MethodKey)
  | proceedingJoinPointNotAllowed (kind : AdviceKind) (method : MethodKey)
  | argNamesMismatch (method : MethodKey) (expected found : Nat)
  | unknownReservedName (method : MethodKey) (role : OutcomeRole) (name : String)
  | parse (error : ParseError)
deriving DecidableEq, Repr

def AdviceError.message : AdviceError → String
  | .missingPointcut kind method => s!"{kind.label} advice '{method.text}' has no pointcut expression"
  | .missingProceedingJoinPoint method =>
    s!"around advice '{method.text}' must declare a proceeding join point as its first parameter"
  | .proceedingJoinPointNotAllowed kind method =>
    s!"{kind.label} advice '{method.text}' cannot take a proceeding join point"
  | .argNamesMismatch method expected found =>
    s!"advice '{method.text}' declares {expected} bindable parameter(s) but argNames lists {found}"
  | .unknownReservedName method role name =>
    s!"advice '{method.text}' names '{name}' as its {role.word} parameter but declares no such parameter"
  | .parse error => error.message

end Crosscut
