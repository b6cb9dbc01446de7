import Crosscut.Advice.Signature
import Crosscut.Matcher

/-! An interceptor is an advice method of an aspect object, ready to be run: its signature is
checked and its pointcut parsed. At an intercepted call it tells whether it accepts the outcome,
assembles the arguments of the advice method, and runs the method through the host. -/
namespace Crosscut

/-- A checked advice method together with the object it is run on. -/
structure Interceptor where
  aspect : String
  owner : Instance
  advice : Method
  signature : AdviceSignature
  matcher : Matcher
  order : Option Int

/-- A call of an advice method, as the host is asked to make it. -/
structure AdviceCall where
  owner : Instance
  advice : Method
  joinPoint : JoinPoint
  args : List AdviceArgument

/-- Why an advice was not completed at a call. -/
inductive InterceptError where
  | joinPoint (error : JoinPointError)
  | invocation (error : InvocationError)

def InterceptError.message : InterceptError → String
  | .joinPoint error => error.message
  | .invocation error => error.message

namespace Interceptor

/-- Checks an advice method of an aspect object and parses its pointcut. Named pointcuts are looked
up on the type of the object. -/
def build (v : Vocabulary) (aspect : String) (owner : Instance) (advice : Method)
    (kind : AdviceKind) (marker : Annotation) : Except AdviceError Interceptor :=
  match AdviceSignature.derive v kind marker advice with
  | .error e => .error e
  | .ok signature =>
    let ctx : PointcutContext :=
      { aspect := some owner.type, parameters := signature.parameters,
        pointcutAnnotation := v.pointcut }
    match Matcher.parse ctx signature.pointcut with
    | .error e => .error (.parse e)
    | .ok matcher =>
      .ok { aspect, owner, advice, signature, matcher, order := v.order? owner.type }

def kind (i : Interceptor) : AdviceKind := i.signature.kind

/-- Whether an object may be handed to the parameter reserved for the outcome. -/
def admits (i : Interceptor) (value : Instance) : Bool :=
  i.signature.outcomeType?.all (value.type.isSubtypeOf ·.name)

/-- Whether the advice runs for an outcome; no outcome means that the call has not completed. -/
def accepts (i : Interceptor) (outcome : Option Outcome) : Bool :=
  match i.kind, outcome with
  | .before, none | .around, none => true
  | .after, some _ => true
  | .afterReturning, some (.returned value) => value.all i.admits
  | .afterThrowing, some (.thrown error) => i.admits error
  | _, _ => false

def argument (i : Interceptor) (call : JoinPoint) (outcome : Option Outcome)
    (bound : List BoundParameter) : Slot → Except JoinPointError AdviceArgument
  | .joinPoint => .ok .joinPoint
  | .pointcut index =>
    match bound[index]? with
    | some parameter => .ok (.bound parameter.value)
    | none =>
      .error (.unboundParameter call.method.key
        ((i.signature.parameters[index]?.map (·.name)).getD ""))
  | .outcome .returning =>
    match outcome with
    | some (.returned value) => .ok (.returned value)
    | _ => .error (.missingOutcome call.method.key .returning)
  | .outcome .throwing =>
    match outcome with
    | some (.thrown error) => .ok (.thrown error)
    | _ => .error (.missingOutcome call.method.key .throwing)

/-- The arguments of the advice method at a call. The first slot that receives nothing decides the
error. -/
def arguments (i : Interceptor) (call : JoinPoint) (outcome : Option Outcome) :
    Except JoinPointError (List AdviceArgument) :=
  match i.matcher.bind call with
  | .error e => .error e
  | .ok bound => collect (i.argument call outcome bound) i.signature.slots

/-- Runs the advice at a call. The host makes the call of the advice method; it is asked only when
the arguments can be assembled. -/
def invoke {m : Type → Type} [Monad m] (i : Interceptor)
    (host : AdviceCall → m (Except InvocationError (Option Instance))) (call : JoinPoint)
    (outcome : Option Outcome) : m (Except InterceptError (Option Instance)) :=
  match i.arguments call outcome with
  | .error e => pure (.error (.joinPoint e))
  | .ok args => do
    match ← host ⟨i.owner, i.advice, call, args⟩ with
    | .error e => pure (.error (.invocation e))
    | .ok value => pure (.ok value)

/-- Commits the matches among some methods on a type. -/
def commit (i : Interceptor) (t : HostType) (methods : List Method) : Interceptor :=
  { i with
    matcher := methods.foldl (fun matcher m => matcher.choose m (matcher.matchOn t m)) i.matcher }

/-- Whether one of some methods matches on a type. -/
def matchesAny (i : Interceptor) (t : HostType) (methods : List Method) : Bool :=
  methods.any fun m => (i.matcher.matchOn t m).matched

/-- Whether the advice applies to objects of a type. The coarse question comes first, so that the
methods need not be looked at where it says no. -/
def appliesTo (i : Interceptor) (t : HostType) : Bool :=
  i.matcher.couldMatch t && i.matchesAny t t.methods

/-- The interceptor after weaving on a type: every match is committed where the advice applies. -/
def weave (i : Interceptor) (t : HostType) : Interceptor :=
  if i.appliesTo t then i.commit t t.methods else i

/-- An accepted advice method has a checked signature and a pointcut that was parsed for the
parameters of the signature. -/
theorem parts_of_build {v : Vocabulary} {aspect : String} {owner : Instance} {advice : Method}
    {kind : AdviceKind} {marker : Annotation} {i : Interceptor}
    (built : build v aspect owner advice kind marker = .ok i) :
    AdviceSignature.derive v kind marker advice = .ok i.signature ∧
      Matcher.parse ⟨some owner.type, i.signature.parameters, v.pointcut⟩ i.signature.pointcut =
        .ok i.matcher := by
  unfold build at built
  split at built
  · cases built
  · rename_i signature derived
    dsimp only at built
    split at built
    · cases built
    · rename_i matcher parsed
      cases built
      exact ⟨derived, parsed⟩

/-- An interceptor keeps the object and the method that it was built for. -/
theorem advice_of_build {v : Vocabulary} {aspect : String} {owner : Instance} {advice : Method}
    {kind : AdviceKind} {marker : Annotation} {i : Interceptor}
    (built : build v aspect owner advice kind marker = .ok i) : i.owner = owner ∧ i.advice = advice := by
  unfold build at built
  split at built
  · cases built
  · dsimp only at built
    split at built
    · cases built
    · cases built
      exact ⟨rfl, rfl⟩

/-- A new interceptor has committed nothing. -/
theorem shadows_of_build {v : Vocabulary} {aspect : String} {owner : Instance} {advice : Method}
    {kind : AdviceKind} {marker : Annotation} {i : Interceptor}
    (built : build v aspect owner advice kind marker = .ok i) : i.matcher.shadows = .empty := by
  obtain ⟨-, parsed⟩ := parts_of_build built
  exact (Matcher.parts_of_parse parsed).2.2

end Interceptor
end Crosscut
