import Crosscut.Pointcut.Signature

/-! The bodies of clauses. Which names a body may use depends on the scope: a name of a declared
parameter binds it, a name that stands for a type is read as that type, and any other text is a
type pattern of its own. `within` and `execution` take type texts only. -/
namespace Crosscut.ClauseSpec

/-- What is wrong with the body of a clause: its form, or a parameter that is not in scope. -/
inductive Fault where
  | malformed (fault : PatternFault)
  | undeclared (name : String)
deriving DecidableEq, Repr

/-- The error for a clause whose body is wrong. -/
def Fault.toError (expression clause : String) : Fault → ParseError
  | .malformed fault => .invalidPattern expression clause fault
  | .undeclared name => .undeclaredBinding expression name

/-- Checks a body that has to be one type text or one name. -/
def single (body : String) : Except Fault String :=
  if body.isEmpty then .error (.malformed .missing)
  else if Pointcut.isTypeText body.toList then .ok body
  else .error (.malformed .several)

def meaning (scope : Scope) (text : String) : Except Fault (Option Meaning) :=
  (scope.lookup text).mapError .undeclared

def readSubject (scope : Scope) (text : String) : Except Fault Subject :=
  (meaning scope text).map fun
    | some (.parameter b) => .bound b
    | some (.type passed) => .type ⟨passed⟩
    | none => .type ⟨text⟩

/-- Reads the annotation type of an annotation clause. The name of a parameter stands for its
declared type, and the parameter receives the annotation. -/
def readAnnotated (scope : Scope) (text : String) : Except Fault AnnotationPattern :=
  (meaning scope text).map fun
    | some (.parameter b) => ⟨b.declaredType.name, some b.name⟩
    | some (.type passed) => ⟨passed, none⟩
    | none => ⟨text, none⟩

def readArg (scope : Scope) (item : List Char) : Except Fault ArgPattern :=
  if item == ['.', '.'] then .ok .rest
  else if item == ['*'] then .ok .any
  else
    match meaning scope (String.ofList item) with
    | .error fault => .error fault
    | .ok (some (.parameter b)) => .ok (.bound b)
    | .ok (some (.type passed)) => .ok (.type ⟨passed⟩)
    | .ok none =>
      if Pointcut.isTypeText item then .ok (.type ⟨String.ofList item⟩)
      else .error (.malformed .argument)

def readArgs (scope : Scope) : List (List Char) → Except Fault (List ArgPattern)
  | [] => .ok []
  | item :: rest =>
    match readArg scope item with
    | .error fault => .error fault
    | .ok arg => (readArgs scope rest).map (arg :: ·)

def read (scope : Scope) (body : String) : Designator → Except Fault ClauseSpec
  | .execution => ((SignaturePattern.read body.toList).mapError .malformed).map .execution
  | .within => (single body).map (.within ⟨·⟩)
  | .object role =>
    match single body with
    | .error fault => .error fault
    | .ok text => (readSubject scope text).map (.object role)
  | .args => (readArgs scope (Text.items body.toList)).map .args
  | .annotated site =>
    match single body with
    | .error fault => .error fault
    | .ok text => (readAnnotated scope text).map (.annotated site)

end Crosscut.ClauseSpec
