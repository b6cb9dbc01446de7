import Crosscut.Host.Type

/-! Objects of the host program and the calls made on them. The engine sees an object through its
runtime type; the label stands for the object's identity. -/
namespace Crosscut

/-- An object together with its runtime type. -/
structure Instance where
  type : HostType
  label : String

/-- A named object that a container holds. -/
structure Bean where
  name : String
  object : Instance

def Bean.type (b : Bean) : HostType := b.object.type

/-- One call of a method: the arguments, the proxy that the caller holds and the object behind
it. -/
structure JoinPoint where
  method : Method
  args : List Instance
  proxy : Instance
  target : Instance

/-- How a call ended: it returned, possibly without a value, or it threw. -/
inductive Outcome where
  | returned (value : Option Instance)
  | thrown (error : Instance)

/-- The two ways in which a call ends. -/
inductive OutcomeRole where
  | returning | throwing
deriving DecidableEq, Repr

/-- The word for a way in which a call ends. -/
def OutcomeRole.word : OutcomeRole → String
  | .returning => "returning"
  | .throwing => "throwing"

/-- A value bound to a pointcut parameter. -/
inductive BoundValue where
  | object (value : Instance)
  | annotated (value : Annotation)

/-- One argument of an advice call. -/
inductive AdviceArgument where
  | joinPoint
  | bound (value : BoundValue)
  | returned (value : Option Instance)
  | thrown (error : Instance)

/-- Why the host could not complete a call. -/
inductive InvocationError where
  | thrown (error : Instance)
  | failed (reason : String)

def InvocationError.message : InvocationError → String
  | .thrown error => "invocation threw an instance of '" ++ error.type.name ++ "'"
  | .failed reason => "invocation failed: " ++ reason

end Crosscut
