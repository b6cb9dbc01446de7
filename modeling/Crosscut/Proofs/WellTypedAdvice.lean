import Crosscut.Interceptor
import Crosscut.Proofs.BindingCompleteness
import Crosscut.Proofs.Scoping
import Crosscut.Proofs.SlotLayout
import Crosscut.Proofs.StableShadows

/-! Advice methods receive values of the types that they declare. The types are tested when a method
is matched: an argument position by the declared type of the parameter of the method, the two objects
by the type that the method is matched on, an annotation by the name of its type. The values are
fetched at the call, from objects whose types lie below the tested ones, and they are handed on by the
position of a parameter in the signature. Since the outcome is handed on only if the advice accepts it,
its type has been tested by then as well. -/
namespace Crosscut.WellTypedAdvice
open BindingCompleteness BindingSources Commits Inheritance Scoping SlotLayout StableShadows

/-- What a match has tested of the value that a source will provide for the named type. -/
def Fits (c : Candidate) (typeName : String) : BindingSource → Prop
  | .argument index => ∃ p, c.method.parameters[index]? = some p ∧ p.type.isSubtypeOf typeName = true
  | .object _ => ∃ t, c.target = some t ∧ t.isSubtypeOf typeName = true
  | .annotated _ name => name = typeName

/-- Whatever a clause binds, it takes to be of some type and has tested it for this type. -/
theorem fits_of_clause {clause : Clause} {c : Candidate} {found : Sources}
    (matched : clause.match? c = some found) {name : String} {source : BindingSource}
    (member : (name, source) ∈ found) :
    ∃ typeName, Binds clause.spec name typeName ∧ Fits c typeName source := by
  unfold Clause.match? at matched
  cases spec : clause.spec with
  | execution signature | within pattern =>
    simp only [spec, Option.ite_none_right_eq_some, Option.some.injEq] at matched
    rw [← matched.2] at member
    cases member
  | object role subject =>
    simp only [spec, Option.ite_none_right_eq_some, Option.some.injEq] at matched
    obtain ⟨admitted, rfl⟩ := matched
    cases subject with
    | type pattern => cases member
    | bound b =>
      cases List.mem_singleton.mp member
      exact ⟨b.declaredType.name, .object role b, (Option.any_eq_true _ _).mp admitted⟩
  | args items =>
    simp only [spec] at matched
    obtain ⟨b, index, t, listed, same, known, fits⟩ := mem_sources_of_args matched member
    cases same
    rw [List.getElem?_map] at known
    obtain ⟨p, at_index, rfl⟩ := Option.map_eq_some_iff.mp known
    exact ⟨b.declaredType.name, .argument listed, p, at_index, fits⟩
  | annotated site pattern =>
    simp only [spec, Option.ite_none_right_eq_some, Option.some.injEq] at matched
    obtain ⟨-, rfl⟩ := matched
    obtain ⟨typeName, receiver⟩ := pattern
    cases receiver with
    | none => cases member
    | some receiver =>
      cases List.mem_singleton.mp member
      exact ⟨typeName, .annotated site typeName name, rfl⟩

/-- Under distinct names, what a match binds to a declared parameter has been tested for the declared
type of the parameter, in whatever scope the binding clause was read. -/
theorem fits_of_parameter {ctx : PointcutContext} {expression : String} {p : Pointcut}
    (accepted : Pointcut.parse ctx expression = .ok p)
    (distinct : (ctx.parameters.map (·.name)).Nodup) {c : Candidate} {found : Sources}
    (matched : p.match? c = some found) {b : Binding} (declared : b ∈ ctx.parameters)
    {source : BindingSource} (member : (b.name, source) ∈ found) :
    Fits c b.declaredType.name source := by
  obtain ⟨clause, listed, bound, onClause, inBound⟩ := clause_of_source matched member
  obtain ⟨typeName, binds, fits⟩ := fits_of_clause onClause inBound
  obtain ⟨other, otherDeclared, named, typed⟩ :=
    allRespect_of_parse accepted clause listed b.name typeName binds
  have same : other = b := eq_of_name distinct otherDeclared declared named
  rw [← same, typed]
  exact fits

/-- A type with a supertype that shows what another type shows. -/
def Below (s t : HostType) : Prop :=
  ∃ u ∈ s.hierarchy, Resembles u t

/-- A call that the host may make of a method that was matched on a type: the arguments are of the
types of the parameters, and the two objects are of the matched type. -/
structure Proper (call : JoinPoint) (t : HostType) : Prop where
  arity : call.args.length = call.method.parameters.length
  args : ∀ (index : Nat) arg p, call.args[index]? = some arg →
    call.method.parameters[index]? = some p → Below arg.type p.type
  target : Below call.target.type t
  proxy : Below call.proxy.type t

theorem isSubtypeOf_of_resembles {s t : HostType} (alike : Resembles s t) (name : String) :
    s.isSubtypeOf name = t.isSubtypeOf name := by
  have names : ∀ u : HostType, u.isSubtypeOf name =
      (u.hierarchy.map fun u => (u.name, u.annotations)).any (·.1 == name) := by
    intro u
    rw [HostType.isSubtypeOf, HostType.anyName_eq, List.any_map]
    rfl
  rw [names, names, alike]

theorem isSubtypeOf_of_below {s t : HostType} (below : Below s t) {name : String}
    (fits : t.isSubtypeOf name = true) : s.isSubtypeOf name = true := by
  obtain ⟨u, above, alike⟩ := below
  apply isSubtypeOf_inherited above
  rw [isSubtypeOf_of_resembles alike]
  exact fits

theorem isNamed_of_findAnnotation? {t : HostType} {name : String} {a : Annotation}
    (found : t.findAnnotation? name = some a) : a.isNamed name = true := by
  rw [HostType.findAnnotation?, HostType.findSome?_eq] at found
  obtain ⟨s, -, here⟩ := List.exists_of_findSome?_eq_some found
  exact Annotation.isNamed_of_first? here

/-- The annotation that is fetched at a call is of the type that was asked for. -/
theorem isNamed_of_annotation? {call : JoinPoint} {site : AnnotationSite} {name : String}
    {a : Annotation} (found : call.annotation? site name = some a) : a.isNamed name = true := by
  cases site with
  | target => exact isNamed_of_findAnnotation? found
  | within =>
    obtain ⟨s, -, here⟩ := Option.bind_eq_some_iff.mp found
    exact Annotation.isNamed_of_first? here
  | method => exact Annotation.isNamed_of_first? found
  | args =>
    obtain ⟨s, -, here⟩ := List.exists_of_findSome?_eq_some found
    exact isNamed_of_findAnnotation? here
  | params =>
    obtain ⟨p, -, here⟩ := List.exists_of_findSome?_eq_some found
    exact Annotation.isNamed_of_first? here

/-- An argument of an advice call suits a parameter of the named type: an object is of a type below
it, an annotation is of this type. The handle on the call and the absent value suit every type. -/
def Suits (typeName : String) : AdviceArgument → Prop
  | .joinPoint | .returned none => True
  | .bound (.object value) | .returned (some value) | .thrown value =>
    value.type.isSubtypeOf typeName = true
  | .bound (.annotated a) => a.isNamed typeName = true

variable {call : JoinPoint} {t : HostType}

/-- The value that a source has at a proper call suits the type that the source was tested for. -/
theorem value_suits (s : Shadow) {source : BindingSource} {typeName parameter : String}
    (fits : Fits (.on t call.method) typeName source) (proper : Proper call t) {value : BoundValue}
    (given : s.valueOf call parameter source = .ok value) : Suits typeName (.bound value) := by
  cases source with
  | argument index =>
    obtain ⟨p, known, fits⟩ := fits
    rw [Shadow.valueOf] at given
    split at given
    · rename_i arg here
      cases given
      exact isSubtypeOf_of_below (proper.args index arg p here known) fits
    · cases given
  | object role =>
    obtain ⟨s, same, fits⟩ := fits
    cases same
    cases given
    cases role with
    | target => exact isSubtypeOf_of_below proper.target fits
    | this => exact isSubtypeOf_of_below proper.proxy fits
  | annotated site name =>
    cases fits
    rw [Shadow.valueOf] at given
    split at given
    · cases given
    · split at given
      · rename_i a found
        cases given
        exact isNamed_of_annotation? found
      · cases given

/-- A shadow that a match has left gives, at a proper call, each declared parameter a value of its
declared type. -/
theorem bound_values_suit {ctx : PointcutContext} {expression : String} {p : Pointcut}
    (accepted : Pointcut.parse ctx expression = .ok p)
    (distinct : (ctx.parameters.map (·.name)).Nodup) {found : Sources}
    (matched : p.match? (.on t call.method) = some found) (proper : Proper call t)
    {key : MethodKey} {bound : List BoundParameter}
    (succeeded : Shadow.bind ⟨key, found.select ctx.parameters⟩ call ctx.parameters = .ok bound)
    {place : Nat} {b : Binding} (known : ctx.parameters[place]? = some b) :
    ∃ parameter, bound[place]? = some parameter ∧
      Suits b.declaredType.name (.bound parameter.value) := by
  have within : place < bound.length := by
    rw [length_of_collect succeeded]
    exact (List.getElem?_eq_some_iff.mp known).1
  have there : bound[place]? = some bound[place] := List.getElem?_eq_getElem within
  refine ⟨bound[place], there, ?_⟩
  obtain ⟨other, same, given⟩ := getElem?_of_collect succeeded there
  rw [known] at same
  cases same
  have declared : b ∈ ctx.parameters := List.mem_of_getElem? known
  rw [Shadow.bindOne] at given
  split at given
  · rename_i source selected
    obtain ⟨value, provided, made⟩ := map_eq_ok.mp given
    rw [← made]
    rw [Sources.of?_select found declared] at selected
    have fits : Fits (.on t call.method) b.declaredType.name source :=
      fits_of_parameter accepted distinct matched declared (Sources.mem_of_of? selected)
    exact value_suits _ fits proper provided
  · cases given

/-- Once a match has been committed, in a session with any commits before it and any answers about the
method after it, every proper call gives each declared parameter a value of its declared type. -/
theorem bound_after_commits {ctx : PointcutContext} {expression : String} {matcher : Matcher}
    (made : Matcher.parse ctx expression = .ok matcher)
    (distinct : (ctx.parameters.map (·.name)).Nodup)
    (matched : (matcher.matchOn t call.method).matched = true) (before : List Commit)
    {after : List Commit} (answers : AnswersFor matcher call.method after) (proper : Proper call t) :
    ∃ bound,
      (commitAll matcher (before ++ (call.method, matcher.matchOn t call.method) :: after)).bind call =
        .ok bound ∧
      ∀ (place : Nat) b, ctx.parameters[place]? = some b →
        ∃ parameter, bound[place]? = some parameter ∧
          Suits b.declaredType.name (.bound parameter.value) := by
  obtain ⟨parsed, parameters, -⟩ := Matcher.parts_of_parse made
  obtain ⟨found, shown, recorded⟩ := Matcher.shadow_of_matched matched
  rw [parameters] at recorded
  obtain ⟨bound, succeeded⟩ := bind_succeeds ⟨call.method.key, found.select ctx.parameters⟩
    (fun b declared => every_parameter_is_listed (BindingRule.parsed_obeys parsed) shown declared)
    proper.arity proper.target
  refine ⟨bound, ?_, ?_⟩
  · have standing := shadow?_of_answers made matched before answers
    rw [Matcher.bind, Matcher.matchOn, Candidate.on, standing, parameters_commitAll, parameters]
    exact (congrArg (Shadow.bind · call ctx.parameters) recorded).trans succeeded
  · intro place b known
    exact bound_values_suit parsed distinct shown proper succeeded known

variable {v : Vocabulary} {aspect : String} {owner : Instance} {advice : Method}
  {kind : AdviceKind} {marker : Annotation} {i : Interceptor} {outcome : Option Outcome}

/-- An accepted outcome is there for the parameter that is reserved for it, and it is of the type that
outcomes are checked for. -/
theorem outcome_suits (accepted : i.accepts outcome = true) {role : OutcomeRole}
    (receives : i.kind.role? = some role) {type : HostType}
    (checked : i.signature.outcomeType? = some type) (bound : List BoundParameter) :
    ∃ arg, i.argument call outcome bound (.outcome role) = .ok arg ∧ Suits type.name arg := by
  have admitted : ∀ value, i.admits value = true → value.type.isSubtypeOf type.name = true := by
    intro value admits
    rw [Interceptor.admits, checked] at admits
    exact admits
  unfold Interceptor.accepts at accepted
  split at accepted
  · simp_all [AdviceKind.role?]
  · simp_all [AdviceKind.role?]
  · simp_all [AdviceKind.role?]
  · rename_i value ofKind
    rw [ofKind] at receives
    cases receives
    refine ⟨.returned value, rfl, ?_⟩
    cases value with
    | none => trivial
    | some value => exact admitted value accepted
  · rename_i error ofKind
    rw [ofKind] at receives
    cases receives
    exact ⟨.thrown error, rfl, admitted error accepted⟩
  · cases accepted

/-- Whatever a parameter of an accepted advice method receives, it receives something that suits its
type. -/
theorem argument_suits {bindings : List Binding} {reserved : Option Reservation}
    (d : DerivedFrom v kind marker advice i.signature bindings reserved)
    (distinct : (listedNames v kind marker advice).Nodup) (accepted : i.accepts outcome = true)
    {bound : List BoundParameter}
    (values : ∀ (k : Nat) b, i.signature.parameters[k]? = some b →
      ∃ parameter, bound[k]? = some parameter ∧ Suits b.declaredType.name (.bound parameter.value))
    {j : Nat} {slot : Slot} (laid : i.signature.slots[j]? = some slot) :
    ∃ arg, i.argument call outcome bound slot = .ok arg ∧
      ∀ p, advice.parameters[j]? = some p → Suits p.type.name arg := by
  have within : j < advice.parameters.length := by
    rw [← d.length_slots]
    exact (List.getElem?_eq_some_iff.mp laid).1
  have declared : advice.parameters[j]? = some advice.parameters[j] := List.getElem?_eq_getElem within
  have received : ∃ arg, i.argument call outcome bound slot = .ok arg ∧
      Suits advice.parameters[j].type.name arg := by
    rcases d.serves laid declared with
      rfl | ⟨b, typed, ⟨k, rfl, known⟩ | ⟨role, rfl, receives, checked⟩⟩
    · exact ⟨.joinPoint, rfl, trivial⟩
    · obtain ⟨parameter, there, suits⟩ := values k b known
      rw [typed] at suits
      exact ⟨.bound parameter.value, by simp only [Interceptor.argument, there], suits⟩
    · have ofKind : i.kind.role? = some role := by
        rw [Interceptor.kind, d.ofKind]
        exact receives
      have expected : i.signature.outcomeType? = some advice.parameters[j].type := by
        rw [AdviceSignature.outcomeType?, checked distinct, ← typed]
        rfl
      exact outcome_suits accepted ofKind expected bound
  obtain ⟨arg, given, suits⟩ := received
  refine ⟨arg, given, ?_⟩
  intro p known
  cases declared.symm.trans known
  exact suits

/-- Take an accepted advice method whose parameters have distinct names, and a method that its pointcut
matches on a type. Once the match has been committed, in a session with any commits before it and any
answers about the method after it, every proper call with an accepted outcome gives the advice method
one argument for each of its parameters, and each of them suits the type of its parameter. -/
theorem arguments_suit_parameters
    (built : Interceptor.build v aspect owner advice kind marker = .ok i)
    (distinct : (listedNames v kind marker advice).Nodup) {t : HostType} {m : Method}
    (matched : (i.matcher.matchOn t m).matched = true) {before after : List Commit}
    (answers : AnswersFor i.matcher m after) {call : JoinPoint} (called : call.method = m)
    (proper : Proper call t) {outcome : Option Outcome} (accepted : i.accepts outcome = true) :
    ∃ args,
      { i with matcher := commitAll i.matcher (before ++ (m, i.matcher.matchOn t m) :: after) }.arguments
        call outcome = .ok args ∧
      args.length = advice.parameters.length ∧
      ∀ (j : Nat) arg p, args[j]? = some arg → advice.parameters[j]? = some p →
        Suits p.type.name arg := by
  subst called
  obtain ⟨derived, made⟩ := Interceptor.parts_of_build built
  obtain ⟨bindings, reserved, d⟩ := derivedFrom_of_derive derived
  have names : (i.signature.parameters.map (·.name)).Nodup := by
    rw [← d.names, nodup_names_iff, ← d.parameters] at distinct
    exact distinct.1
  obtain ⟨bound, binds, values⟩ := bound_after_commits made names matched before answers proper
  have each : ∀ (j : Nat) slot, i.signature.slots[j]? = some slot →
      ∃ arg, i.argument call outcome bound slot = .ok arg ∧
        ∀ p, advice.parameters[j]? = some p → Suits p.type.name arg := by
    intro j slot laid
    exact argument_suits d distinct accepted values laid
  obtain ⟨args, assembled⟩ : ∃ args,
      collect (i.argument call outcome bound) i.signature.slots = .ok args := by
    apply collect_succeeds
    intro slot listed
    obtain ⟨j, laid⟩ := List.mem_iff_getElem?.mp listed
    obtain ⟨arg, given, -⟩ := each j slot laid
    exact ⟨arg, given⟩
  refine ⟨args, ?_, ?_, ?_⟩
  · rw [Interceptor.arguments, binds]
    exact assembled
  · rw [length_of_collect assembled, d.length_slots]
  · intro j arg p here declared
    obtain ⟨slot, laid, given⟩ := getElem?_of_collect assembled here
    obtain ⟨same, provided, suits⟩ := each j slot laid
    rw [given] at provided
    cases provided
    exact suits p declared

/-- An item that is more than an item. -/
def signedItem : HostType :=
  .mk "demo.SignedItem" 4 [] [.bare "demo.Item"] []

def stamped : HostType :=
  .mk "demo.Stamped" 5 [] [.bare "demo.Receipt"] []

/-- An aspect whose named pointcut gives the item that is taken on record a name of its own. -/
def notary : HostType :=
  .mk "demo.Notary" 6 [⟨"Aspect", []⟩] []
    [⟨"recorded", .bare "void", [⟨"it", .bare "demo.Item", []⟩], [.isPublic],
      [⟨"Pointcut", [("value", .text "execution(* record(..)) && args(it)")]⟩]⟩]

/-- Takes the call, what it returned, which item was recorded where, and the mark of that place. -/
def attest : Method :=
  ⟨some notary, ⟨"attest", .bare "void",
    [⟨"call", .bare "JoinPoint", []⟩, ⟨"receipt", .bare "demo.Receipt", []⟩,
      ⟨"item", .bare "demo.Item", []⟩, ⟨"book", ledger, []⟩, ⟨"mark", .bare "Traced", []⟩],
    [.isPublic], []⟩⟩

def afterRecording : Annotation :=
  ⟨"AfterReturning", [("pointcut", .text "recorded(item) && target(book) && @target(mark)"),
    ("returning", .text "receipt")]⟩

def signing : JoinPoint :=
  ⟨record, [⟨signedItem, "item"⟩], ⟨archive, "proxy"⟩, ⟨archive, "archive"⟩⟩

def receipt : Outcome :=
  .returned (some ⟨stamped, "receipt"⟩)

/-- An advice method with five parameters, each with a source of its own, is called on an object below
the matched type, after the method has been matched on the type of the object as well. -/
theorem attestation_is_well_typed :
    ∃ i, Interceptor.build {} "notary" ⟨notary, "notary"⟩ attest .afterReturning afterRecording =
        .ok i ∧
      (listedNames {} .afterReturning afterRecording attest).Nodup ∧
      (i.matcher.matchOn ledger record).matched = true ∧ Proper signing ledger ∧
      i.accepts (some receipt) = true ∧
      ∃ args,
        { i with matcher := commitAll i.matcher ([] ++ (record, i.matcher.matchOn ledger record) ::
          [(record, i.matcher.matchOn archive record)]) }.arguments signing (some receipt) = .ok args ∧
        args.length = attest.parameters.length ∧
        ∀ (j : Nat) arg p, args[j]? = some arg → attest.parameters[j]? = some p →
          Suits p.type.name arg := by
  have seen : (Interceptor.build {} "notary" ⟨notary, "notary"⟩ attest .afterReturning
      afterRecording).toOption.map (fun i =>
        ((i.matcher.matchOn ledger record).matched, i.accepts (some receipt))) =
      some (true, true) := by
    decide +kernel
  obtain ⟨i, built, answered⟩ := exists_ok_of_map seen
  obtain ⟨matched, accepted⟩ := Prod.mk.inj answered
  have distinct : (listedNames {} .afterReturning afterRecording attest).Nodup := by decide +kernel
  have below : Below archive ledger := ⟨ledger, List.mem_cons_of_mem archive List.mem_cons_self, rfl⟩
  have proper : Proper signing ledger := by
    refine ⟨rfl, ?_, below, below⟩
    intro index arg p given declared
    cases index with
    | zero =>
      cases given
      cases declared
      exact ⟨.bare "demo.Item", List.mem_cons_of_mem signedItem List.mem_cons_self, rfl⟩
    | succ index => cases given
  have answers : AnswersFor i.matcher record [(record, i.matcher.matchOn archive record)] := by
    intro commit member _
    rw [List.mem_singleton.mp member]
    exact ⟨rfl, [], some archive, rfl⟩
  exact ⟨i, built, distinct, matched, proper, accepted,
    arguments_suit_parameters built distinct matched answers rfl proper accepted⟩

end Crosscut.WellTypedAdvice
