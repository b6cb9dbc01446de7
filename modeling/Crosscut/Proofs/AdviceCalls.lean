import Crosscut.Proofs.Commits
import Crosscut.Proofs.SlotLayout
import Crosscut.Interceptor

/-! What the host sees of an interceptor that is run. The host is watched by a list of the calls that it
is asked to make. Running an advice asks for one call at most, and for exactly the one that the advice
is declared for: on its aspect object, with the arguments that were assembled for the join point. What
decides is whether the arguments are there. Whether the advice accepts the outcome is not asked, so an
outcome that it does not accept stops it only where the reserved parameter would stay empty. -/
namespace Crosscut.AdviceCalls
open Commits SlotLayout

/-- A host that keeps the calls that it is asked to make, in order, beside its own state. -/
def recording {σ : Type} (host : AdviceCall → StateM σ (Except InvocationError (Option Instance))) :
    AdviceCall → StateM (List AdviceCall × σ) (Except InvocationError (Option Instance)) :=
  fun request (calls, state) =>
    let (answer, next) := host request state
    (answer, (calls ++ [request], next))

/-- An interceptor after commits to its matcher. -/
def committed (i : Interceptor) (commits : List Commit) : Interceptor :=
  { i with matcher := commitAll i.matcher commits }

/-- How a call ended. -/
def ending : Outcome → OutcomeRole
  | .returned _ => .returning
  | .thrown _ => .throwing

/-- The parameter that is reserved for the outcome, if there is one, has something to receive. -/
def Served (s : AdviceSignature) (outcome : Option Outcome) : Prop :=
  ∀ role b, s.received = some (role, b) → outcome.map ending = some role

variable {σ : Type} {v : Vocabulary} {aspect : String} {owner : Instance} {advice : Method}
  {kind : AdviceKind} {marker : Annotation} {s : AdviceSignature} {i : Interceptor} {call : JoinPoint}
  {outcome : Option Outcome} {bindings : List Binding} {reserved : Option Reservation}

/-- A recorded run: without arguments the host is not asked and its state stays; with arguments it is
asked once, and its answer is the result. -/
theorem invoke_recording (i : Interceptor)
    (host : AdviceCall → StateM σ (Except InvocationError (Option Instance))) (call : JoinPoint)
    (outcome : Option Outcome) (calls : List AdviceCall) (state : σ) :
    i.invoke (recording host) call outcome (calls, state) =
      match i.arguments call outcome with
      | .error e => (.error (.joinPoint e), (calls, state))
      | .ok args =>
        let request : AdviceCall := ⟨i.owner, i.advice, call, args⟩
        ((host request state).1.mapError .invocation, (calls ++ [request], (host request state).2)) := by
  unfold Interceptor.invoke
  cases i.arguments call outcome with
  | error e => rfl
  | ok args =>
    simp only [bind, StateT.bind, recording]
    rcases host ⟨i.owner, i.advice, call, args⟩ state with ⟨_ | _, next⟩ <;> rfl

/-- A reserved parameter is the last listed one of the reserved name, and it receives what the kind of
advice can receive. -/
theorem reserved_of_received (d : DerivedFrom v kind marker advice s bindings reserved)
    {role : OutcomeRole} {b : Binding} (known : s.received = some (role, b)) :
    ∃ r, reserved = some r ∧ r.role = role ∧ kind.role? = some role ∧
      b ∈ bindings ∧ Reservation.takes reserved b = true := by
  rw [d.received] at known
  obtain ⟨r, chosen, made⟩ := Option.bind_eq_some_iff.mp known
  obtain ⟨last, ends, same⟩ := Option.map_eq_some_iff.mp made
  cases same
  obtain ⟨listed, taken⟩ := List.mem_filter.mp (List.mem_of_getLast? ends)
  subst chosen
  exact ⟨r, rfl, rfl, role_of_reservation d.fromName, listed, taken⟩

/-- What a slot stands for: the handle on the call, a parameter of the pointcut, or the reserved
parameter. -/
theorem slot_cases (d : DerivedFrom v kind marker advice s bindings reserved) {slot : Slot}
    (member : slot ∈ s.slots) :
    slot = .joinPoint ∨ (∃ (k : Nat) (b : Binding), slot = .pointcut k ∧ s.parameters[k]? = some b) ∨
      ∃ role b, slot = .outcome role ∧ s.received = some (role, b) := by
  rw [d.slots] at member
  rcases List.mem_append.mp member with handle | laid
  · exact .inl (List.mem_replicate.mp handle).2
  · obtain ⟨j, at_j⟩ := List.mem_iff_getElem?.mp laid
    obtain ⟨b, listed, ⟨r, chosen, named, same⟩ | ⟨k, same, kept⟩⟩ := slot_of_layout at_j
    · have taken : b ∈ bindings.filter (Reservation.takes reserved ·) := by
        refine List.mem_filter.mpr ⟨List.mem_of_getElem? listed, ?_⟩
        simp [Reservation.takes, chosen, named]
      obtain ⟨last, ends⟩ : ∃ last, (bindings.filter (Reservation.takes reserved ·)).getLast? =
          some last :=
        ⟨_, List.getLast?_eq_some_getLast (List.ne_nil_of_mem taken)⟩
      refine .inr (.inr ⟨r.role, last, same, ?_⟩)
      rw [d.received, ends, chosen]
      rfl
    · refine .inr (.inl ⟨k, b, ?_, by rwa [d.parameters]⟩)
      rwa [Nat.zero_add] at same

/-- A reserved parameter has a slot for the outcome. -/
theorem slot_of_received (d : DerivedFrom v kind marker advice s bindings reserved)
    {role : OutcomeRole} {b : Binding} (known : s.received = some (role, b)) :
    .outcome role ∈ s.slots := by
  obtain ⟨r, chosen, same, -, listed, taken⟩ := reserved_of_received d known
  have counted : 0 < bindings.countP (Reservation.takes reserved ·) :=
    List.countP_pos_iff.mpr ⟨b, listed, taken⟩
  rw [d.slots]
  apply List.mem_append_right
  rw [← List.count_pos_iff, count_outcome_layout]
  simpa [chosen, same] using counted

/-- An outcome slot is filled by an outcome of its kind, whatever its type. -/
theorem argument_of_outcome {bound : List BoundParameter} {role : OutcomeRole} :
    (∃ arg, i.argument call outcome bound (.outcome role) = .ok arg) ↔
      outcome.map ending = some role := by
  rcases outcome with _ | (value | error) <;> cases role <;>
    simp [Interceptor.argument, ending]

/-- The arguments are there exactly if the parameters of the pointcut have values at the call and the
reserved parameter is served. -/
theorem arguments_iff (d : DerivedFrom v kind marker advice i.signature bindings reserved)
    (parameters : i.matcher.parameters = i.signature.parameters) :
    (∃ args, i.arguments call outcome = .ok args) ↔
      (∃ bound, i.matcher.bind call = .ok bound) ∧ Served i.signature outcome := by
  constructor
  · rintro ⟨args, assembled⟩
    unfold Interceptor.arguments at assembled
    split at assembled
    · cases assembled
    · rename_i bound binds
      refine ⟨⟨bound, binds⟩, ?_⟩
      intro role b known
      have slot := slot_of_received d known
      have given : i.argument call outcome bound (.outcome role) ∈
          args.map (Except.ok (ε := JoinPointError)) := by
        rw [← collect_eq_ok.mp assembled]
        exact List.mem_map_of_mem slot
      obtain ⟨arg, -, same⟩ := List.mem_map.mp given
      exact argument_of_outcome.mp ⟨arg, same.symm⟩
  · rintro ⟨⟨bound, binds⟩, served⟩
    have long : bound.length = i.signature.parameters.length := by
      unfold Matcher.bind at binds
      split at binds
      · rw [← parameters]
        exact length_of_collect binds
      · cases binds
    unfold Interceptor.arguments
    rw [binds]
    apply collect_succeeds
    intro slot member
    rcases slot_cases d member with rfl | ⟨k, b, rfl, known⟩ | ⟨role, b, rfl, known⟩
    · exact ⟨.joinPoint, rfl⟩
    · have within : k < bound.length := by
        rw [long]
        exact (List.getElem?_eq_some_iff.mp known).1
      exact ⟨.bound bound[k].value, by simp only [Interceptor.argument, List.getElem?_eq_getElem within]⟩
    · exact argument_of_outcome.mpr (served role b known)

/-- An outcome that the advice accepts serves its reserved parameter. -/
theorem served_of_accepts (d : DerivedFrom v kind marker advice i.signature bindings reserved)
    (accepted : i.accepts outcome = true) : Served i.signature outcome := by
  intro role b known
  obtain ⟨-, -, -, receives, -, -⟩ := reserved_of_received d known
  have ofKind : i.kind.role? = some role := by
    rw [Interceptor.kind, d.ofKind]
    exact receives
  unfold Interceptor.accepts at accepted
  split at accepted
  -- before, around and after advice reserve nothing
  · simp_all [AdviceKind.role?]
  · simp_all [AdviceKind.role?]
  · simp_all [AdviceKind.role?]
  -- the two others accept an outcome of the role that they reserve a parameter for
  · simp_all [AdviceKind.role?, ending]
  · simp_all [AdviceKind.role?, ending]
  · cases accepted

/-- Running an accepted advice method, after any commits to its matcher, asks the host for one call at
most, of the advice method on its aspect object with the arguments for the join point. The call is made
exactly if the parameters of the pointcut have values at the call and the reserved parameter is served.
For an outcome that the advice accepts the values alone decide. -/
theorem host_is_asked_iff_served
    (built : Interceptor.build v aspect owner advice kind marker = .ok i) (commits : List Commit)
    (host : AdviceCall → StateM σ (Except InvocationError (Option Instance))) (call : JoinPoint)
    (outcome : Option Outcome) (calls : List AdviceCall) (state : σ) :
    ∃ made,
      ((committed i commits).invoke (recording host) call outcome (calls, state)).2.1 =
        calls ++ made ∧
      made.length ≤ 1 ∧
      (∀ request ∈ made, ∃ args, (committed i commits).arguments call outcome = .ok args ∧
        request = ⟨owner, advice, call, args⟩) ∧
      (made ≠ [] ↔ (∃ bound, (committed i commits).matcher.bind call = .ok bound) ∧
        Served i.signature outcome) ∧
      (i.accepts outcome = true →
        (made ≠ [] ↔ ∃ bound, (committed i commits).matcher.bind call = .ok bound)) := by
  obtain ⟨derived, parsed⟩ := Interceptor.parts_of_build built
  obtain ⟨bindings, reserved, d⟩ := derivedFrom_of_derive derived
  obtain ⟨rfl, rfl⟩ := Interceptor.advice_of_build built
  have parameters : (committed i commits).matcher.parameters = i.signature.parameters := by
    rw [committed, parameters_commitAll]
    exact (Matcher.parts_of_parse parsed).2.1
  have available : (∃ args, (committed i commits).arguments call outcome = .ok args) ↔
      (∃ bound, (committed i commits).matcher.bind call = .ok bound) ∧ Served i.signature outcome :=
    arguments_iff (i := committed i commits) d parameters
  have accepts : i.accepts outcome = true → Served i.signature outcome := served_of_accepts d
  rw [invoke_recording]
  cases assembled : (committed i commits).arguments call outcome with
  | error e =>
    have unavailable : ¬ ((∃ bound, (committed i commits).matcher.bind call = .ok bound) ∧
        Served i.signature outcome) := by
      rw [← available, assembled]
      simp
    refine ⟨[], (List.append_nil calls).symm, Nat.zero_le 1, by simp, ?_, ?_⟩
    · simpa using unavailable
    · intro accepted
      have unbound := fun bound => unavailable ⟨bound, accepts accepted⟩
      simpa using unbound
  | ok args =>
    obtain ⟨bound, served⟩ := available.mp ⟨args, assembled⟩
    refine ⟨[⟨i.owner, i.advice, call, args⟩], rfl, Nat.le_refl 1, ?_, ?_, ?_⟩
    · intro request member
      exact ⟨args, rfl, List.mem_singleton.mp member⟩
    · exact ⟨fun _ => ⟨bound, served⟩, fun _ => List.cons_ne_nil _ _⟩
    · intro _
      exact ⟨fun _ => bound, fun _ => List.cons_ne_nil _ _⟩

/-- A service whose one method takes a text. -/
def service : HostType :=
  .mk "demo.Service" 1 [] []
    [⟨"greet", .bare "void", [⟨"s", .bare "java.lang.String", []⟩], [.isPublic], []⟩]

def greet : Method :=
  ⟨some service, ⟨"greet", .bare "void", [⟨"s", .bare "java.lang.String", []⟩], [.isPublic], []⟩⟩

/-- The aspect that the advice is run on. -/
def log : Instance :=
  ⟨.mk "demo.Log" 2 [⟨"Aspect", []⟩] [] [], "log"⟩

/-- Takes a text that a call returned. -/
def done : Method :=
  ⟨some log.type,
    ⟨"done", .bare "void", [⟨"result", .bare "java.lang.String", []⟩], [.isPublic], []⟩⟩

def afterGreeting : Annotation :=
  ⟨"AfterReturning", [("pointcut", .text "execution(* greet(..))"), ("returning", .text "result")]⟩

def greeting : JoinPoint :=
  ⟨greet, [⟨.bare "java.lang.String", "hello"⟩], ⟨service, "proxy"⟩, ⟨service, "service"⟩⟩

def returned (typeName : String) : Outcome :=
  .returned (some ⟨.bare typeName, "result"⟩)

/-- A host whose advice methods return nothing. -/
def silent : AdviceCall → StateM Unit (Except InvocationError (Option Instance)) :=
  fun _ => pure (.ok none)

/-- After a text was returned, the host is asked for the one call, which the text is handed to. -/
theorem text_is_handed_on :
    ∃ i, Interceptor.build {} "log" log done .afterReturning afterGreeting = .ok i ∧
      i.accepts (some (returned "java.lang.String")) = true ∧
      ((committed i [(greet, i.matcher.matchOwn greet)]).invoke (recording silent) greeting
        (some (returned "java.lang.String")) ([], ())).2.1.map (·.advice.name) = ["done"] ∧
      ∃ made,
        ((committed i [(greet, i.matcher.matchOwn greet)]).invoke (recording silent) greeting
          (some (returned "java.lang.String")) ([], ())).2.1 = [] ++ made ∧
        made.length ≤ 1 ∧
        (∀ request ∈ made, ∃ args,
          (committed i [(greet, i.matcher.matchOwn greet)]).arguments greeting
            (some (returned "java.lang.String")) = .ok args ∧
          request = ⟨log, done, greeting, args⟩) ∧
        (made ≠ [] ↔
          (∃ bound, (committed i [(greet, i.matcher.matchOwn greet)]).matcher.bind greeting =
            .ok bound) ∧ Served i.signature (some (returned "java.lang.String"))) ∧
        (i.accepts (some (returned "java.lang.String")) = true →
          (made ≠ [] ↔ ∃ bound,
            (committed i [(greet, i.matcher.matchOwn greet)]).matcher.bind greeting = .ok bound)) := by
  have seen : (Interceptor.build {} "log" log done .afterReturning afterGreeting).toOption.map
      (fun i => (i.accepts (some (returned "java.lang.String")),
        ((committed i [(greet, i.matcher.matchOwn greet)]).invoke (recording silent) greeting
          (some (returned "java.lang.String")) ([], ())).2.1.map (·.advice.name))) =
      some (true, ["done"]) := by
    decide +kernel
  obtain ⟨i, built, answered⟩ := exists_ok_of_map seen
  obtain ⟨accepted, asked⟩ := Prod.mk.inj answered
  exact ⟨i, built, accepted, asked, host_is_asked_iff_served built _ silent greeting _ [] ()⟩

/-- After a number was returned, which the advice does not accept, the host is asked for the call all
the same. -/
theorem refused_outcome_reaches_the_advice :
    ∃ i, Interceptor.build {} "log" log done .afterReturning afterGreeting = .ok i ∧
      i.accepts (some (returned "java.lang.Integer")) = false ∧
      ((committed i [(greet, i.matcher.matchOwn greet)]).invoke (recording silent) greeting
        (some (returned "java.lang.Integer")) ([], ())).2.1.map (·.advice.name) = ["done"] := by
  have seen : (Interceptor.build {} "log" log done .afterReturning afterGreeting).toOption.map
      (fun i => (i.accepts (some (returned "java.lang.Integer")),
        ((committed i [(greet, i.matcher.matchOwn greet)]).invoke (recording silent) greeting
          (some (returned "java.lang.Integer")) ([], ())).2.1.map (·.advice.name))) =
      some (false, ["done"]) := by
    decide +kernel
  obtain ⟨i, built, answered⟩ := exists_ok_of_map seen
  obtain ⟨refused, asked⟩ := Prod.mk.inj answered
  exact ⟨i, built, refused, asked⟩

end Crosscut.AdviceCalls
