import Crosscut.Proofs.AdviceCalls

/-! The arguments of an advice method, told by its parameters. The slots are laid out when the method is
checked, and filled at a call from a list that the matcher has made. Here each parameter of the method is
followed from its place in the declaration to what it receives: the handle on the call, the outcome, or
the value bound to the pointcut parameter of its number. For an outcome that the advice accepts every
slot can be filled, so the only error that is left is the one of the matcher. -/
namespace Crosscut.ArgumentAssembly
open AdviceCalls Commits SlotLayout

/-- What a parameter that is reserved for the outcome of a call receives. -/
def handedOn : Outcome → AdviceArgument
  | .returned value => .returned value
  | .thrown error => .thrown error

/-- How many of the first listed names are those of pointcut parameters. -/
def pointcutsBefore (v : Vocabulary) (kind : AdviceKind) (marker : Annotation) (advice : Method)
    (j : Nat) : Nat :=
  ((listedNames v kind marker advice).take j).countP (some · ≠ outcomeName? kind marker)

/-- The arguments suit an advice method parameter by parameter. A handle on the call stands first where
the first parameter asks for it. Every other parameter goes by a listed name; it receives the outcome if
the name is the reserved one, and otherwise the value of the pointcut parameter of that name and type
behind as many others as are listed before it. -/
structure Assembled (v : Vocabulary) (kind : AdviceKind) (marker : Annotation) (advice : Method)
    (outcome : Option Outcome) (bound : List BoundParameter) (args : List AdviceArgument) : Prop where
  arity : args.length = advice.parameters.length
  handle : ∀ j : Nat, args[j]? = some .joinPoint ↔ j = 0 ∧ startsWithHandle v advice = true
  pointcuts : bound.map (·.binding.name) =
    (listedNames v kind marker advice).filter (some · ≠ outcomeName? kind marker)
  others : ∀ (j : Nat) p, advice.parameters[(startsWithHandle v advice).toNat + j]? = some p →
    ∃ name, (listedNames v kind marker advice)[j]? = some name ∧
      (outcomeName? kind marker = some name ∧
          args[(startsWithHandle v advice).toNat + j]? = outcome.map handedOn ∨
        outcomeName? kind marker ≠ some name ∧ ∃ value,
          bound[pointcutsBefore v kind marker advice j]? = some ⟨⟨name, p.type⟩, value⟩ ∧
          args[(startsWithHandle v advice).toNat + j]? = some (.bound value))

variable {v : Vocabulary} {aspect : String} {owner : Instance} {advice : Method} {kind : AdviceKind}
  {marker : Annotation} {i : Interceptor} {call : JoinPoint}
  {outcome : Option Outcome} {bound : List BoundParameter} {args : List AdviceArgument}
  {bindings : List Binding} {reserved : Option Reservation}

/-- A reserved parameter receives the outcome as it is. -/
theorem handedOn_of_argument {role : OutcomeRole} {arg : AdviceArgument}
    (given : i.argument call outcome bound (.outcome role) = .ok arg) :
    outcome.map handedOn = some arg := by
  rcases outcome with _ | (value | error) <;> cases role <;>
    simp_all [Interceptor.argument, handedOn]

/-- Only the slot of the handle on the call is filled with it. -/
theorem argument_eq_joinPoint {slot : Slot} :
    i.argument call outcome bound slot = .ok .joinPoint ↔ slot = .joinPoint := by
  cases slot with
  | joinPoint => simp [Interceptor.argument]
  | pointcut index =>
    simp only [Interceptor.argument, reduceCtorEq, iff_false]
    split <;> simp
  | outcome role =>
    rcases outcome with _ | (value | error) <;> cases role <;> simp [Interceptor.argument]

/-- A call that misses a value of the pointcut does not miss its outcome. -/
theorem bind_ne_missingOutcome (m : Matcher) (call : JoinPoint) (key : MethodKey) (role : OutcomeRole) :
    m.bind call ≠ .error (.missingOutcome key role) := by
  intro failed
  unfold Matcher.bind at failed
  split at failed
  · rcases Shadow.error_of_bind failed with ⟨_, other⟩ | ⟨_, _, other⟩ | other | ⟨_, other⟩ <;>
      cases other
  · cases failed

variable (d : DerivedFrom v kind marker advice i.signature bindings reserved)
include d

theorem free_eq (b : Binding) :
    (!Reservation.takes reserved b) = decide (some b.name ≠ outcomeName? kind marker) := by
  rw [Bool.eq_iff_iff, Bool.not_eq_true', ← Bool.not_eq_true, takes_iff d, decide_eq_true_eq]
  exact not_congr eq_comm

/-- The listed parameters that are not reserved are counted by their names. -/
theorem countP_listed (j : Nat) :
    (bindings.take j).countP (!Reservation.takes reserved ·) = pointcutsBefore v kind marker advice j := by
  rw [pointcutsBefore, ← d.names, ← List.map_take, List.countP_map]
  exact List.countP_congr fun b _ => by rw [free_eq d]; rfl

/-- The pointcut parameters have the listed names, except for the reserved one. -/
theorem names_of_parameters :
    i.signature.parameters.map (·.name) =
      (listedNames v kind marker advice).filter (some · ≠ outcomeName? kind marker) := by
  rw [d.parameters, ← d.names, List.filter_map]
  exact congrArg _ (List.filter_congr fun b _ => free_eq d b)

/-- Arguments that were made slot by slot are assembled parameter by parameter. -/
theorem assembled_of_collect (handle : handles v kind advice = (startsWithHandle v advice).toNat)
    (values : bound.map (·.binding) = i.signature.parameters)
    (made : collect (i.argument call outcome bound) i.signature.slots = .ok args) :
    Assembled v kind marker advice outcome bound args := by
  refine ⟨?arity, ?handle, ?pointcuts, ?others⟩
  case arity => rw [length_of_collect made, d.length_slots]
  case handle =>
    intro j
    have first : j < handles v kind advice ↔ j = 0 ∧ startsWithHandle v advice = true := by
      rw [handle]
      cases startsWithHandle v advice <;> simp
    rw [← first, ← slot_eq_joinPoint d]
    constructor
    · intro given
      obtain ⟨slot, laid, fills⟩ := getElem?_of_collect made given
      rw [laid, argument_eq_joinPoint.mp fills]
    · intro laid
      obtain ⟨arg, given, fills⟩ := getElem?_collect made laid
      cases fills
      exact given
  case pointcuts =>
    rw [← names_of_parameters d, ← values, List.map_map]
    rfl
  case others =>
    intro j p declared
    rw [← handle] at declared ⊢
    obtain ⟨name, named, listed⟩ := listed_of_parameter d declared
    refine ⟨name, named, ?_⟩
    rcases slot_of_listed listed 0 with ⟨r, chosen, same, laid⟩ | ⟨free, laid, kept⟩
    · left
      rw [← slot_behind d] at laid
      obtain ⟨arg, given, fills⟩ := getElem?_collect made laid
      refine ⟨?_, given.trans (handedOn_of_argument fills).symm⟩
      rw [← name_of_reservation d.fromName, chosen]
      exact congrArg some same
    · right
      rw [← slot_behind d, Nat.zero_add, countP_listed d] at laid
      rw [countP_listed d, ← d.parameters, ← values, List.getElem?_map] at kept
      obtain ⟨⟨binding, value⟩, there, rfl⟩ := Option.map_eq_some_iff.mp kept
      obtain ⟨arg, given, fills⟩ := getElem?_collect made laid
      simp only [Interceptor.argument, there, Except.ok.injEq] at fills
      subst fills
      refine ⟨?_, value, there, given⟩
      rw [Ne, ← takes_iff d ⟨name, p.type⟩]
      simp [free]

omit d

/-- Take an accepted advice method, any commits to its matcher, and an outcome that the advice accepts.
If the parameters of the pointcut have values at a call, every slot can be filled, and the arguments are
assembled parameter by parameter. Otherwise the error of the matcher is handed on, and no other error is
ever reported. -/
theorem arguments_are_assembled
    (built : Interceptor.build v aspect owner advice kind marker = .ok i) (commits : List Commit)
    (call : JoinPoint) (accepted : i.accepts outcome = true) :
    (∀ e, (committed i commits).arguments call outcome = .error e ↔
      (committed i commits).matcher.bind call = .error e) ∧
    (∀ key role, (committed i commits).arguments call outcome ≠ .error (.missingOutcome key role)) ∧
    ∀ bound, (committed i commits).matcher.bind call = .ok bound →
      (∀ slot ∈ i.signature.slots, ∃ arg,
        (committed i commits).argument call outcome bound slot = .ok arg) ∧
      ∃ args, (committed i commits).arguments call outcome = .ok args ∧
        Assembled v kind marker advice outcome bound args := by
  obtain ⟨derived, parsed⟩ := Interceptor.parts_of_build built
  obtain ⟨bindings, reserved, d⟩ := derivedFrom_of_derive derived
  have parameters : (committed i commits).matcher.parameters = i.signature.parameters := by
    rw [committed, parameters_commitAll]
    exact (Matcher.parts_of_parse parsed).2.1
  have total : ∀ bound, (committed i commits).matcher.bind call = .ok bound →
      ∃ args, (committed i commits).arguments call outcome = .ok args := by
    intro bound binds
    exact (arguments_iff (i := committed i commits) d parameters).mpr
      ⟨⟨bound, binds⟩, served_of_accepts d accepted⟩
  have refused : ∀ e, (committed i commits).arguments call outcome = .error e ↔
      (committed i commits).matcher.bind call = .error e := by
    intro e
    cases binds : (committed i commits).matcher.bind call with
    | error other => simp [Interceptor.arguments, binds]
    | ok bound =>
      obtain ⟨args, assembled⟩ := total bound binds
      simp [assembled]
  refine ⟨refused, fun key role => ?_, fun bound binds => ?_⟩
  · rw [Ne, refused]
    exact bind_ne_missingOutcome _ call key role
  · obtain ⟨args, assembled⟩ := total bound binds
    have made : collect ((committed i commits).argument call outcome bound) i.signature.slots =
        .ok args := by
      rw [Interceptor.arguments, binds] at assembled
      exact assembled
    have values : bound.map (·.binding) = i.signature.parameters := by
      rw [← parameters]
      unfold Matcher.bind at binds
      split at binds
      · exact Shadow.bindings_of_bind binds
      · cases binds
    constructor
    · intro slot member
      obtain ⟨j, laid⟩ := List.mem_iff_getElem?.mp member
      obtain ⟨arg, -, fills⟩ := getElem?_collect made laid
      exact ⟨arg, fills⟩
    · exact ⟨args, assembled,
        assembled_of_collect (i := committed i commits) d (handles_of_derive derived) values made⟩

/-- A shop that sells goods to a buyer. -/
def shop : HostType :=
  .mk "demo.Shop" 1 [] []
    [⟨"sell", .bare "demo.Receipt", [⟨"goods", .bare "demo.Goods", []⟩,
      ⟨"buyer", .bare "demo.Buyer", []⟩], [.isPublic], []⟩]

def sell : Method :=
  ⟨some shop, ⟨"sell", .bare "demo.Receipt", [⟨"goods", .bare "demo.Goods", []⟩,
    ⟨"buyer", .bare "demo.Buyer", []⟩], [.isPublic], []⟩⟩

/-- The aspect that books what is sold. -/
def books : Instance :=
  ⟨.mk "demo.Books" 2 [⟨"Aspect", []⟩] [] [], "books"⟩

/-- Takes a handle on the call, the buyer, the receipt that the call returned, and the goods. -/
def enter : Method :=
  ⟨some books.type, ⟨"enter", .bare "void", [⟨"call", .bare "JoinPoint", []⟩,
    ⟨"who", .bare "demo.Buyer", []⟩, ⟨"proof", .bare "demo.Receipt", []⟩,
    ⟨"what", .bare "demo.Goods", []⟩], [.isPublic], []⟩⟩

/-- The receipt is listed between the two pointcut parameters, which the pointcut binds in the other
order. -/
def afterSale : Annotation :=
  ⟨"AfterReturning", [("pointcut", .text "args(goods, buyer)"),
    ("argNames", .text "buyer, receipt, goods"), ("returning", .text "receipt")]⟩

def sale : JoinPoint :=
  ⟨sell, [⟨.bare "demo.Goods", "bread"⟩, ⟨.bare "demo.Buyer", "anna"⟩], ⟨shop, "proxy"⟩, ⟨shop, "shop"⟩⟩

def receipt : Outcome :=
  .returned (some ⟨.bare "demo.Receipt", "receipt"⟩)

/-- What an argument shows to a reader. -/
def shown : AdviceArgument → String
  | .joinPoint => "call"
  | .bound (.object value) | .returned (some value) | .thrown value => value.label
  | .bound (.annotated a) => a.typeName
  | .returned none => "nothing"

/-- Each parameter of the advice receives what it stands for, whatever the order of the pointcut. -/
theorem sale_is_entered :
    ∃ i, Interceptor.build {} "books" books enter .afterReturning afterSale = .ok i ∧
      i.accepts (some receipt) = true ∧
      ∃ bound args,
        (committed i [(sell, i.matcher.matchOwn sell)]).matcher.bind sale = .ok bound ∧
        (committed i [(sell, i.matcher.matchOwn sell)]).arguments sale (some receipt) = .ok args ∧
        args.map shown = ["call", "anna", "receipt", "bread"] ∧
        Assembled {} .afterReturning afterSale enter (some receipt) bound args := by
  have seen : (Interceptor.build {} "books" books enter .afterReturning afterSale).toOption.map
      (fun i => (i.accepts (some receipt),
        ((committed i [(sell, i.matcher.matchOwn sell)]).matcher.bind sale).toOption.isSome,
        ((committed i [(sell, i.matcher.matchOwn sell)]).arguments sale
          (some receipt)).toOption.map (·.map shown))) =
      some (true, true, some ["call", "anna", "receipt", "bread"]) := by
    decide +kernel
  obtain ⟨i, built, answered⟩ := exists_ok_of_map seen
  obtain ⟨accepted, rest⟩ := Prod.mk.inj answered
  obtain ⟨binds, described⟩ := Prod.mk.inj rest
  have assembled := arguments_are_assembled built [(sell, i.matcher.matchOwn sell)] sale accepted
  cases found : (committed i [(sell, i.matcher.matchOwn sell)]).matcher.bind sale with
  | error e =>
    rw [found] at binds
    cases binds
  | ok bound =>
    obtain ⟨-, args, made, suits⟩ := assembled.2.2 bound found
    rw [made] at described
    exact ⟨i, built, accepted, bound, args, found, made, Option.some.inj described, suits⟩

end Crosscut.ArgumentAssembly
