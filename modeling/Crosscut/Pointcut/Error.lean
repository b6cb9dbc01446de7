/-! Why a pointcut expression is rejected. Each error says what is wrong and where; the wording
is in `message` alone. Offsets count bytes of UTF-8. -/
namespace Crosscut

/-- What the grammar admits at a place. -/
inductive Expectation where
  | parenthesis
  | operand
  | connective
deriving DecidableEq, Repr

def Expectation.describe : Expectation → String
  | .parenthesis => "'(' after clause name"
  | .operand => "a clause, '!' or '('"
  | .connective => "'&&', '||' or end of expression"

/-- What is wrong with the body of a clause. -/
inductive PatternFault where
  | missing
  | several
  | argument
  | noParameterList
  | noReturnOrName
  | unknownModifier (word : String)
  | returnType (text : String)
  | methodName (text : String)
  | parameterType (text : String)
  | noExpression
  | passedArgument (text : String)
deriving DecidableEq, Repr

/-- The text for a fault of a clause body. -/
def PatternFault.describe : PatternFault → String
  | .missing => "expected a type pattern or parameter name"
  | .several => "expected a single type pattern or parameter name"
  | .argument => "malformed argument pattern"
  | .noParameterList => "expected a parameter list"
  | .noReturnOrName => "expected a return type and a method name"
  | .unknownModifier word => s!"unknown modifier '{word}'"
  | .returnType text => s!"malformed return type '{text}'"
  | .methodName text => s!"malformed method name '{text}'"
  | .parameterType text => s!"malformed parameter type '{text}'"
  | .noExpression => "named pointcut has no expression"
  | .passedArgument text => s!"'{text}' is not a parameter name or type pattern"

/-- Why a pointcut expression is rejected. -/
inductive ParseError where
  | empty
  | unexpectedCharacter (expression : String) (offset : Nat) (found : Char)
  | unbalancedParentheses (expression : String) (offset : Nat)
  | unknownClause (expression : String) (offset : Nat) (keyword : String)
  | unexpectedToken (expression : String) (offset : Nat) (found : String) (expected : Expectation)
  | invalidPattern (expression clause : String) (fault : PatternFault)
  | unknownPointcut (expression name : String)
  | pointcutArity (expression name : String) (expected found : Nat)
  | referenceCycle (chain : List String)
  | bindingUnderNegation (expression name : String)
  | bindingUnderDisjunction (expression name : String)
  | ambiguousBinding (expression name : String)
  | unboundParameter (expression name : String)
  | undeclaredBinding (expression name : String)
deriving DecidableEq, Repr

def ParseError.message : ParseError → String
  | .empty => "empty pointcut expression"
  | .unexpectedCharacter expression offset found =>
    s!"unexpected character '{found}' at offset {offset} in '{expression}'"
  | .unbalancedParentheses expression offset =>
    s!"unbalanced parentheses at offset {offset} in '{expression}'"
  | .unknownClause expression offset keyword =>
    s!"unknown clause '{keyword}' at offset {offset} in '{expression}'"
  | .unexpectedToken expression offset found expected =>
    s!"expected {expected.describe} but found '{found}' at offset {offset} in '{expression}'"
  | .invalidPattern expression clause fault =>
    s!"invalid pattern in '{clause}' of '{expression}': {fault.describe}"
  | .unknownPointcut expression name =>
    s!"unknown pointcut '{name}' referenced in '{expression}'"
  | .pointcutArity expression name expected found =>
    s!"pointcut '{name}' takes {expected} argument(s) but {found} given in '{expression}'"
  | .referenceCycle chain =>
    "pointcut reference cycle: " ++ " -> ".intercalate chain
  | .bindingUnderNegation expression name =>
    s!"parameter '{name}' cannot be bound under negation in '{expression}'"
  | .bindingUnderDisjunction expression name =>
    s!"parameter '{name}' cannot be bound inside '||' in '{expression}'"
  | .ambiguousBinding expression name =>
    s!"parameter '{name}' is bound more than once in '{expression}'"
  | .unboundParameter expression name =>
    s!"parameter '{name}' is declared but never bound in '{expression}'"
  | .undeclaredBinding expression name =>
    s!"'{name}' in '{expression}' is not a declared pointcut parameter"

end Crosscut
