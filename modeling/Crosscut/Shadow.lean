import Crosscut.Collect
import Crosscut.Host.Instance
import Crosscut.Matching.Source
import Crosscut.Pointcut.Clause

/-! A shadow is what a match leaves behind for one method: where every pointcut parameter takes its
value from. It is made once, when the method is woven, and read at every call. A call may fail to
provide a value that the shadow promises; each way of failing is an error of its own. -/
namespace Crosscut

/-- The sources that a match recorded for one method. -/
structure Shadow where
  method : MethodKey
  bindings : Sources
deriving DecidableEq, Repr

/-- Why the parameters of an advice cannot be given values at a call. -/
inductive JoinPointError where
  | missingShadow (method : MethodKey)
  | argumentOutOfRange (method : MethodKey) (index count : Nat)
  | annotationNotFound (method : MethodKey) (parameter wanted : String)
  | missingTypeInformation (method : MethodKey)
  | unboundParameter (method : MethodKey) (parameter : String)
  | missingOutcome (method : MethodKey) (role : OutcomeRole)
deriving DecidableEq, Repr

def JoinPointError.message : JoinPointError → String
  | .missingShadow method => s!"missing shadow match for method '{method.text}'"
  | .argumentOutOfRange method index count =>
    s!"argument index {index} out of range for '{method.text}' called with {count} argument(s)"
  | .annotationNotFound method parameter wanted =>
    s!"annotation '{wanted}' required by parameter '{parameter}' not found for '{method.text}'"
  | .missingTypeInformation method => s!"declaring type of '{method.text}' is unavailable"
  | .unboundParameter method parameter =>
    s!"shadow match for '{method.text}' does not bind parameter '{parameter}'"
  | .missingOutcome method role =>
    s!"advice for '{method.text}' needs a {role.word} value but the call produced none"

/-- A pointcut parameter together with its value at a call. -/
structure BoundParameter where
  binding : Binding
  value : BoundValue

/-- The annotation of the named type that a call carries at a place. The runtime types of the
arguments come before the declared types of the parameters. -/
def JoinPoint.annotation? (call : JoinPoint) (site : AnnotationSite) (name : String) :
    Option Annotation :=
  match site with
  | .target => call.target.type.findAnnotation? name
  | .within => call.method.declaring.bind (·.annotation? name)
  | .method => call.method.annotation? name
  | .args =>
    (call.args.map (·.type) ++ call.method.parameters.map (·.type)).findSome?
      (·.findAnnotation? name)
  | .params => call.method.parameters.findSome? (·.annotation? name)

/-- The object of a call that has a role. -/
def JoinPoint.object (call : JoinPoint) : ObjectRole → Instance
  | .target => call.target
  | .this => call.proxy

namespace Shadow

/-- The parameters bound to arguments, with the positions of these. -/
def positional (s : Shadow) : List (String × Nat) :=
  s.bindings.filterMap fun (name, source) => source.index?.map (name, ·)

/-- The parameters that are bound to no argument. -/
def nonPositional (s : Shadow) : Sources :=
  s.bindings.filter (·.2.index?.isNone)

/-- The value that a source has at a call. -/
def valueOf (s : Shadow) (call : JoinPoint) (parameter : String) (source : BindingSource) :
    Except JoinPointError BoundValue :=
  match source with
  | .argument index =>
    match call.args[index]? with
    | some value => .ok (.object value)
    | none => .error (.argumentOutOfRange s.method index call.args.length)
  | .object role => .ok (.object (call.object role))
  | .annotated site name =>
    if site = .within ∧ call.method.declaring.isNone then
      .error (.missingTypeInformation s.method)
    else
      match call.annotation? site name with
      | some found => .ok (.annotated found)
      | none => .error (.annotationNotFound s.method parameter name)

/-- One parameter with its value at a call. -/
def bindOne (s : Shadow) (call : JoinPoint) (b : Binding) : Except JoinPointError BoundParameter :=
  match s.bindings.of? b.name with
  | some source => (s.valueOf call b.name source).map (⟨b, ·⟩)
  | none => .error (.unboundParameter s.method b.name)

/-- Parameters with their values at a call. The first one without a value decides the error. -/
def bind (s : Shadow) (call : JoinPoint) (parameters : List Binding) :
    Except JoinPointError (List BoundParameter) :=
  collect (s.bindOne call) parameters

theorem binding_of_bindOne {s : Shadow} {call : JoinPoint} {b : Binding} {bound : BoundParameter}
    (succeeded : s.bindOne call b = .ok bound) : bound.binding = b := by
  simp only [bindOne] at succeeded
  split at succeeded
  · rename_i source _
    obtain ⟨value, -, rfl⟩ := map_eq_ok.mp succeeded
    rfl
  · cases succeeded

/-- Binding keeps the parameters and their order. -/
theorem bindings_of_bind {s : Shadow} {call : JoinPoint} {parameters : List Binding}
    {bound : List BoundParameter} (succeeded : s.bind call parameters = .ok bound) :
    bound.map (·.binding) = parameters := by
  have each := collect_eq_ok.mp succeeded
  clear succeeded
  induction parameters generalizing bound with
  | nil => cases bound <;> simp_all
  | cons b rest ih =>
    cases bound with
    | nil => simp at each
    | cons first others =>
      simp only [List.map_cons, List.cons.injEq] at each ⊢
      exact ⟨binding_of_bindOne each.1, ih each.2⟩

/-- A source without a value at a call: an argument that is not there, or an annotation that is not
found or could not be looked for. -/
theorem error_of_valueOf {s : Shadow} {call : JoinPoint} {parameter : String} {source : BindingSource}
    {e : JoinPointError} (failed : s.valueOf call parameter source = .error e) :
    (∃ index, e = .argumentOutOfRange s.method index call.args.length) ∨
      (∃ wanted, e = .annotationNotFound s.method parameter wanted) ∨
      e = .missingTypeInformation s.method := by
  cases source with
  | argument index =>
    simp only [valueOf] at failed
    split at failed
    · cases failed
    · cases failed
      exact .inl ⟨index, rfl⟩
  | object role => cases failed
  | annotated site name =>
    simp only [valueOf] at failed
    split at failed
    · cases failed
      exact .inr (.inr rfl)
    · split at failed
      · cases failed
      · cases failed
        exact .inr (.inl ⟨name, rfl⟩)

/-- Binding from a shadow fails at a parameter that has no source, or whose source has no value. -/
theorem error_of_bind {s : Shadow} {call : JoinPoint} {parameters : List Binding} {e : JoinPointError}
    (failed : s.bind call parameters = .error e) :
    (∃ index, e = .argumentOutOfRange s.method index call.args.length) ∨
      (∃ parameter wanted, e = .annotationNotFound s.method parameter wanted) ∨
      e = .missingTypeInformation s.method ∨ ∃ parameter, e = .unboundParameter s.method parameter := by
  obtain ⟨-, b, -, -, refused, -⟩ := collect_eq_error.mp failed
  simp only [bindOne] at refused
  split at refused
  · rcases error_of_valueOf (map_eq_error.mp refused) with range | ⟨wanted, absent⟩ | untyped
    · exact .inl range
    · exact .inr (.inl ⟨b.name, wanted, absent⟩)
    · exact .inr (.inr (.inl untyped))
  · cases refused
    exact .inr (.inr (.inr ⟨b.name, rfl⟩))

end Shadow
end Crosscut
