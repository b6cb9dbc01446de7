import Crosscut.Advice.Error
import Crosscut.Pointcut.Clause

/-! The signature of an advice method says what each of its parameters receives. The first may be a
handle on the call; one may be reserved for the outcome of the call; the others are the parameters
of the pointcut, in order. Reading a signature checks the rules of its kind of advice. -/
namespace Crosscut

/-- What a parameter of an advice method receives. -/
inductive Slot where
  | joinPoint
  | pointcut (index : Nat)
  | outcome (role : OutcomeRole)
deriving DecidableEq, Repr

/-- The parameter of an advice method that is reserved for the outcome of the call. -/
structure Reservation where
  role : OutcomeRole
  name : String
deriving DecidableEq, Repr

/-- Whether a listed parameter is the reserved one. -/
def Reservation.takes (r : Option Reservation) (b : Binding) : Bool :=
  r.any (·.name == b.name)

/-- Gives each listed parameter its slot; `next` is the number of the next pointcut parameter. -/
def Slot.layout (reserved : Option Reservation) (next : Nat) : List Binding → List Slot
  | [] => []
  | b :: rest =>
    match reserved with
    | some r =>
      if r.name == b.name then .outcome r.role :: layout reserved next rest
      else .pointcut next :: layout reserved (next + 1) rest
    | none => .pointcut next :: layout reserved (next + 1) rest

/-- A checked advice method. -/
structure AdviceSignature where
  kind : AdviceKind
  pointcut : String
  parameters : List Binding
  slots : List Slot
  received : Option (OutcomeRole × Binding)

namespace AdviceSignature

/-- The pointcut expression of an advice annotation: its attribute `pointcut`, or `value` where
that is blank. -/
def pointcutText? (a : Annotation) : Option String :=
  ((((a.text? "pointcut").filter (!Text.isBlankText ·)).or (a.text? "value")).map Text.trim).filter
    (!·.isEmpty)

/-- The parameter names that an advice annotation lists. -/
def argNames? (a : Annotation) : Option (List String) :=
  ((a.text? "argNames").filter (!Text.isBlankText ·)).map fun list =>
    (Text.parts (· == ',') list.toList).map (String.ofList <| Text.trimChars ·)

/-- The name that an advice annotation reserves for an outcome. -/
def reservedName? (a : Annotation) (role : OutcomeRole) : Option String :=
  ((a.text? role.word).map Text.trim).filter (!·.isEmpty)

/-- Whether the first parameter of a method goes by a type name. -/
def startsWith (m : Method) (name : String) : Bool :=
  m.parameters.head?.any (·.type.goesBy name)

/-- Whether an advice method has a slot for the handle on the call. Around advice must take the
handle that lets the call proceed, and no other advice may. -/
def takesJoinPoint (v : Vocabulary) (kind : AdviceKind) (m : Method) : Except AdviceError Bool :=
  let proceeding := startsWith m v.proceedingJoinPoint
  if kind = .around then
    if proceeding then .ok true else .error (.missingProceedingJoinPoint m.key)
  else if proceeding then .error (.proceedingJoinPointNotAllowed kind m.key)
  else .ok (startsWith m v.joinPoint)

/-- The parameters after the handle on the call, under their listed names. -/
def listed (a : Annotation) (m : Method) (bindable : List (Parameter HostType)) :
    Except AdviceError (List Binding) :=
  let names := (argNames? a).getD (bindable.map (·.name))
  if names.length = bindable.length then
    .ok (List.zipWith (fun name p => ⟨name, p.type⟩) names bindable)
  else .error (.argNamesMismatch m.key bindable.length names.length)

/-- The parameter reserved for the outcome, which must be among the listed ones. -/
def reservation (a : Annotation) (kind : AdviceKind) (m : Method) (bindings : List Binding) :
    Except AdviceError (Option Reservation) :=
  match kind.role? with
  | none => .ok none
  | some role =>
    match reservedName? a role with
    | none => .ok none
    | some name =>
      if bindings.any (·.name == name) then .ok (some ⟨role, name⟩)
      else .error (.unknownReservedName m.key role name)

/-- Reads the signature of a method as advice of a kind, declared by an annotation. -/
def derive (v : Vocabulary) (kind : AdviceKind) (a : Annotation) (m : Method) :
    Except AdviceError AdviceSignature :=
  match pointcutText? a with
  | none => .error (.missingPointcut kind m.key)
  | some pointcut =>
    match takesJoinPoint v kind m with
    | .error e => .error e
    | .ok handle =>
      match listed a m (m.parameters.drop handle.toNat) with
      | .error e => .error e
      | .ok bindings =>
        match reservation a kind m bindings with
        | .error e => .error e
        | .ok reserved =>
          .ok {
            kind
            pointcut
            parameters := bindings.filter (!Reservation.takes reserved ·)
            slots := List.replicate handle.toNat .joinPoint ++ Slot.layout reserved 0 bindings
            received := reserved.bind fun r =>
              ((bindings.filter (Reservation.takes reserved ·)).getLast?).map (r.role, ·) }

/-- The parameter that receives an outcome of a role. -/
def receiver? (s : AdviceSignature) (role : OutcomeRole) : Option Binding :=
  (s.received.filter (·.1 = role)).map (·.2)

/-- The type that the outcome must have for the advice to run. -/
def outcomeType? (s : AdviceSignature) : Option HostType :=
  s.received.map (·.2.declaredType)

end AdviceSignature
end Crosscut
