import Crosscut.Proofs.BindingSources
import Crosscut.Proofs.Commits
import Crosscut.Proofs.Inheritance

/-! Every declared parameter gets a value. The check of an expression, the match of a method and the
call of it happen at different times; what links them is that each source of a committed shadow is
backed by what the match has seen, and that a proper call still shows it: it passes as many arguments
as there are parameters, and its object is of a type that has the matched type above it. -/
namespace Crosscut.BindingCompleteness
open Annotation BindingRule BindingSources Commits Inheritance

/-- Two types that show the same names and annotations all the way up. They may come from different
definitions. -/
def Resembles (s t : HostType) : Prop :=
  s.hierarchy.map (fun u => (u.name, u.annotations)) =
    t.hierarchy.map (fun u => (u.name, u.annotations))

private theorem carries_eq_any (t : HostType) (name : String) :
    t.carries name =
      (t.hierarchy.map fun u => (u.name, u.annotations)).any (anyNamed ·.2 name) := by
  rw [Bool.eq_iff_iff, carries_iff, List.any_map, List.any_eq_true]
  rfl

theorem carries_of_resembles {s t : HostType} (alike : Resembles s t) (name : String) :
    s.carries name = t.carries name := by
  rw [carries_eq_any, carries_eq_any, alike]

variable {call : JoinPoint} {t : HostType}

/-- An annotation that a match has seen on a type is found at every call on an object below it. -/
theorem annotation_found {site : AnnotationSite} {name : String}
    (seen : site.holds name (.on t call.method) = true)
    (below : ∃ s ∈ call.target.type.hierarchy, Resembles s t) :
    ∃ a, call.annotation? site name = some a := by
  apply Option.isSome_iff_exists.mp
  cases site with
  | target =>
    obtain ⟨s, above, alike⟩ := below
    have carried : s.carries name = true := (carries_of_resembles alike name).trans seen
    exact carries_inherited above carried
  | within =>
    obtain ⟨s, known, marked⟩ := (Option.any_eq_true _ _).mp seen
    simp only [JoinPoint.annotation?, show call.method.declaring = some s from known,
      Option.bind_some]
    exact (first?_isSome _ _).trans marked
  | method => exact (first?_isSome _ _).trans seen
  | args =>
    obtain ⟨p, listed, carried⟩ := List.any_eq_true.mp seen
    apply List.findSome?_isSome_iff.mpr
    exact ⟨p.type, List.mem_append_right _ (List.mem_map_of_mem listed), carried⟩
  | params =>
    obtain ⟨p, listed, marked⟩ := List.any_eq_true.mp seen
    apply List.findSome?_isSome_iff.mpr
    exact ⟨p, listed, (first?_isSome _ _).trans marked⟩

/-- A source that a match has backed has a value at every proper call. -/
theorem valueOf_succeeds (s : Shadow) {source : BindingSource} (parameter : String)
    (backed : Backed (.on t call.method) source)
    (arity : call.args.length = call.method.parameters.length)
    (below : ∃ s ∈ call.target.type.hierarchy, Resembles s t) :
    ∃ value, s.valueOf call parameter source = .ok value := by
  cases source with
  | argument index =>
    have inRange : index < call.args.length := arity ▸ backed
    exact ⟨.object call.args[index], by simp [Shadow.valueOf, inRange]⟩
  | object role => exact ⟨_, rfl⟩
  | annotated site name =>
    obtain ⟨a, found⟩ := annotation_found backed below
    have known : ¬ (site = .within ∧ call.method.declaring.isNone) := by
      rintro ⟨rfl, orphan⟩
      simp [JoinPoint.annotation?, Option.isNone_iff_eq_none.mp orphan] at found
    exact ⟨.annotated a, by simp only [Shadow.valueOf, known, found, ↓reduceIte]⟩

/-- A shadow with a backed source for every parameter binds them all at every proper call. -/
theorem bind_succeeds (s : Shadow) {parameters : List Binding}
    (listed : ∀ b ∈ parameters, ∃ source, s.bindings.of? b.name = some source ∧
      Backed (.on t call.method) source)
    (arity : call.args.length = call.method.parameters.length)
    (below : ∃ s ∈ call.target.type.hierarchy, Resembles s t) :
    ∃ bound, s.bind call parameters = .ok bound := by
  refine collect_succeeds fun b declared => ?_
  obtain ⟨source, known, backed⟩ := listed b declared
  obtain ⟨value, provided⟩ := valueOf_succeeds s b.name backed arity below
  exact ⟨⟨b, value⟩, by simp [Shadow.bindOne, known, provided, Except.map]⟩

/-- A match lists a backed source for every parameter of a formula that obeys the binding rule. -/
theorem every_parameter_is_listed {f : Formula Clause} {parameters : List Binding}
    (obeyed : Obeyed f parameters) {c : Candidate} {found : Sources}
    (matched : f.match? c = some found) {b : Binding} (declared : b ∈ parameters) :
    ∃ source, (found.select parameters).of? b.name = some source ∧ Backed c source := by
  have named : b.name ∈ found.map (·.1) := by
    rw [names_of_formula obeyed.decided matched]
    exact obeyed.exhaustive b declared
  obtain ⟨source, first⟩ := Option.isSome_iff_exists.mp (Sources.isSome_of?.mpr named)
  refine ⟨source, (Sources.of?_select found declared).trans first, ?_⟩
  exact backed_of_formula matched _ (Sources.mem_of_of? first)

/-- Once a match of a method has been committed, in a session with any commits before it and any
commits for other methods after it, every proper call of the method gives a value to each declared
parameter, in the declared order. -/
theorem every_parameter_is_bound {ctx : PointcutContext} {expression : String} {matcher : Matcher}
    (accepted : Matcher.parse ctx expression = .ok matcher) {t : HostType} {m : Method}
    (matched : (matcher.matchOn t m).matched = true) {before after : List Commit}
    (others : ∀ commit ∈ after, commit.1.key ≠ m.key) {call : JoinPoint} (called : call.method = m)
    (arity : call.args.length = m.parameters.length)
    (below : ∃ s ∈ call.target.type.hierarchy, Resembles s t) :
    ∃ bound,
      (commitAll matcher (before ++ (m, matcher.matchOn t m) :: after)).bind call = .ok bound ∧
        bound.map (·.binding) = ctx.parameters := by
  subst called
  obtain ⟨parsed, parameters, -⟩ := Matcher.parts_of_parse accepted
  obtain ⟨found, shown⟩ : ∃ found, matcher.pointcut.match? (.on t call.method) = some found :=
    Option.isSome_iff_exists.mp ((Matcher.matched_evaluate _ _).symm.trans matched)
  have committed :
      (commitAll matcher (before ++ (call.method, matcher.matchOn t call.method) :: after)).shadow?
        call.method = some (matcher.matchOn t call.method).shadow :=
    shadow?_of_standing matched others
  have recorded : (matcher.matchOn t call.method).shadow =
      ⟨call.method.key, found.select ctx.parameters⟩ := by
    simp only [Matcher.matchOn, Matcher.evaluate, shown, parameters]
    rfl
  obtain ⟨bound, succeeded⟩ := bind_succeeds ⟨call.method.key, found.select ctx.parameters⟩
    (fun b declared => every_parameter_is_listed (parsed_obeys parsed) shown declared) arity below
  refine ⟨bound, ?_, Shadow.bindings_of_bind succeeded⟩
  rw [Matcher.bind, committed, recorded, parameters_commitAll, parameters]
  exact succeeded

/-- A ledger, marked as traced, that takes items on record. -/
def ledger : HostType :=
  .mk "demo.Ledger" 1 [⟨"demo.Traced", []⟩] []
    [⟨"record", .bare "void", [⟨"entry", .bare "demo.Item", []⟩], [.isPublic], []⟩]

def archive : HostType :=
  .mk "demo.Archive" 2 [] [ledger] []

/-- The method that takes an item on record. -/
def record : Method :=
  ⟨some ledger, ⟨"record", .bare "void", [⟨"entry", .bare "demo.Item", []⟩], [.isPublic], []⟩⟩

def close : Method :=
  ⟨some ledger, ⟨"close", .bare "void", [], [], []⟩⟩

/-- An aspect with a named pointcut that binds the item, and three parameters to bind. -/
def bookkeeping : PointcutContext where
  aspect := some (.mk "demo.Bookkeeping" 3 [] []
    [⟨"recorded", .bare "void", [⟨"it", .bare "demo.Item", []⟩], [],
      [⟨"Pointcut", [("value", .text "execution(* record(..)) && args(it)")]⟩]⟩])
  parameters := [⟨"book", ledger⟩, ⟨"mark", .bare "demo.Traced"⟩, ⟨"item", .bare "demo.Item"⟩]

def recording : JoinPoint :=
  ⟨record, [⟨.bare "demo.Receipt", "receipt"⟩], ⟨archive, "proxy"⟩, ⟨archive, "archive"⟩⟩

/-- An item, a ledger and an annotation are bound through a named pointcut and two clauses, at a call
on an object of a type below the matched one. -/
theorem recording_is_bound :
    ∃ matcher, Matcher.parse bookkeeping "recorded(item) && target(book) && @target(mark)" =
        .ok matcher ∧
      (matcher.matchOn ledger record).matched = true ∧ close.key ≠ record.key ∧
      recording.args.length = record.parameters.length ∧
      (∃ s ∈ recording.target.type.hierarchy, Resembles s ledger) ∧
      ∃ bound,
        (commitAll matcher ([] ++ (record, matcher.matchOn ledger record) ::
          [(close, matcher.matchOn ledger close)])).bind recording = .ok bound ∧
        bound.map (·.binding) = bookkeeping.parameters := by
  have seen : (Matcher.parse bookkeeping
      "recorded(item) && target(book) && @target(mark)").toOption.map
        (fun matcher => (matcher.matchOn ledger record).matched) = some true := by
    decide +kernel
  obtain ⟨matcher, accepted, matched⟩ := exists_ok_of_map seen
  have other : close.key ≠ record.key := by decide +kernel
  have below : ∃ s ∈ recording.target.type.hierarchy, Resembles s ledger :=
    ⟨ledger, List.mem_cons_of_mem archive List.mem_cons_self, rfl⟩
  refine ⟨matcher, accepted, matched, other, rfl, below, ?_⟩
  refine every_parameter_is_bound accepted matched ?_ rfl rfl below
  intro commit member
  rw [List.mem_singleton.mp member]
  exact other

end Crosscut.BindingCompleteness
