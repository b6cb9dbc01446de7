import Crosscut.Host.Instance

/-! The kinds of advice and the names by which a host marks them. A vocabulary lists the names of
the annotations that the engine looks for, and of the two types that give an advice a handle on
the call it is run for. -/
namespace Crosscut

/-- The kinds of advice. -/
inductive AdviceKind where
  | around | before | after | afterReturning | afterThrowing
deriving DecidableEq, Repr

namespace AdviceKind

/-- Every kind, in the order in which advice annotations are looked up. -/
def all : List AdviceKind :=
  [.around, .before, .after, .afterReturning, .afterThrowing]

theorem mem_all (k : AdviceKind) : k ∈ all := by
  cases k <;> decide

def label : AdviceKind → String
  | .around => "around"
  | .before => "before"
  | .after => "after"
  | .afterReturning => "after-returning"
  | .afterThrowing => "after-throwing"

/-- The part of the outcome that a kind of advice can receive as an argument. -/
def role? : AdviceKind → Option OutcomeRole
  | .afterReturning => some .returning
  | .afterThrowing => some .throwing
  | _ => none

end AdviceKind

/-- The names that the engine recognizes. -/
structure Vocabulary where
  aspect : String := "Aspect"
  pointcut : String := "Pointcut"
  before : String := "Before"
  after : String := "After"
  afterReturning : String := "AfterReturning"
  afterThrowing : String := "AfterThrowing"
  around : String := "Around"
  order : String := "Order"
  joinPoint : String := "JoinPoint"
  proceedingJoinPoint : String := "ProceedingJoinPoint"
deriving DecidableEq, Repr

namespace Vocabulary

/-- The name of the annotation that marks a kind of advice. -/
def adviceName (v : Vocabulary) : AdviceKind → String
  | .around => v.around
  | .before => v.before
  | .after => v.after
  | .afterReturning => v.afterReturning
  | .afterThrowing => v.afterThrowing

/-- The first kind of advice that an annotation marks. -/
def adviceKind? (v : Vocabulary) (a : Annotation) : Option AdviceKind :=
  AdviceKind.all.find? fun kind => a.isNamed (v.adviceName kind)

/-- The position that a type asks for among aspects. -/
def order? (v : Vocabulary) (t : HostType) : Option Int :=
  (t.findAnnotation? v.order).bind (·.int64? "value")

end Vocabulary

/-- Whether a type or one of its supertypes goes by a name. An unqualified name also stands for
every type of that simple name. -/
def HostType.goesBy (t : HostType) (name : String) : Bool :=
  t.anyName fun full => full == name || (!Text.isQualified name && Text.simpleName full == name)

end Crosscut
