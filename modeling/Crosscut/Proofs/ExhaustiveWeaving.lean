import Crosscut.Proofs.AdviceCalls
import Crosscut.Proofs.ScanHistory
import Crosscut.Proofs.Weaving

/-! The coarse question saves work and decides nothing. Resolving a type asks it first and looks at the
methods only where the answer is yes, committing matches on the way. Next to this stands the plain rule:
try the pointcut of every interceptor on every method of the type, commit each match, and answer with the
interceptors that have one. Both give the same answer and leave the same shadows behind. -/
namespace Crosscut.ExhaustiveWeaving
open AdviceCalls Commits Weaving

/-- The matches of an interceptor on a type: the methods that its pointcut matches there, in order, each
with the result to commit. -/
def matchesOn (i : Interceptor) (t : HostType) : List Commit :=
  (t.methods.map fun m => (m, i.matcher.matchOn t m)).filter (·.2.matched)

/-- The interceptor after all of its matches on a type have been committed. -/
def exhaust (t : HostType) (i : Interceptor) : Interceptor :=
  committed i (matchesOn i t)

/-- The answer of the plain rule: the interceptors with a match, in order, their matches committed. -/
def exhaustively (t : HostType) (list : List Interceptor) : List Interceptor :=
  (list.filter (·.matchesAny t t.methods)).map (exhaust t)

variable {i : Interceptor} {t : HostType} {m : Method}

/-- Results that are no match are not committed. -/
theorem commitAll_filter (matcher : Matcher) (commits : List Commit) :
    commitAll matcher (commits.filter (·.2.matched)) = commitAll matcher commits := by
  unfold commitAll
  rw [List.foldl_filter]
  congr
  funext current commit
  unfold Matcher.choose
  split <;> rfl

/-- The coarse question never keeps an interceptor from a type on which it has a match. -/
theorem appliesTo_eq (i : Interceptor) (t : HostType) : i.appliesTo t = i.matchesAny t t.methods := by
  cases found : i.matchesAny t t.methods with
  | true =>
    obtain ⟨m, listed, matched⟩ := List.any_eq_true.mp found
    exact appliesTo_of_match listed matched
  | false => rw [Interceptor.appliesTo, found, Bool.and_false]

theorem matchesOn_eq_nil (apart : i.matchesAny t t.methods = false) : matchesOn i t = [] := by
  rw [matchesOn, List.filter_eq_nil_iff]
  intro commit member
  obtain ⟨m, listed, rfl⟩ := List.mem_map.mp member
  exact List.any_eq_false.mp apart m listed

/-- Without a match nothing is committed. -/
theorem exhaust_of_apart (apart : i.matchesAny t t.methods = false) : exhaust t i = i := by
  rw [exhaust, matchesOn_eq_nil apart]
  rfl

/-- Weaving commits every match on the type, and nothing else. -/
theorem weave_eq (i : Interceptor) (t : HostType) : i.weave t = exhaust t i := by
  cases applies : i.matchesAny t t.methods with
  | true =>
    have woven : i.weave t = { i with matcher := (i.commit t t.methods).matcher } := by
      rw [Interceptor.weave, appliesTo_eq, applies]
      rfl
    rw [woven, matcher_commit, ← commitAll_filter]
    rfl
  | false =>
    rw [exhaust_of_apart applies, Interceptor.weave, appliesTo_eq, applies]
    rfl

theorem woven_eq (t : HostType) (list : List Interceptor) :
    Interceptor.woven t list = exhaustively t list := by
  simp only [Interceptor.woven, exhaustively, appliesTo_eq, weave_eq]

/-- A match is found by later lookups, unless a method of the same identity matches behind it. -/
theorem shadow?_exhaust {before after : List Method} (listed : t.methods = before ++ m :: after)
    (matched : (i.matcher.matchOn t m).matched = true)
    (last : ∀ later ∈ after, (i.matcher.matchOn t later).matched = true → later.key ≠ m.key) :
    (exhaust t i).matcher.shadow? m = some (i.matcher.matchOn t m).shadow := by
  have cut : matchesOn i t =
      (before.map fun m => (m, i.matcher.matchOn t m)).filter (·.2.matched) ++
        (m, i.matcher.matchOn t m) ::
          (after.map fun m => (m, i.matcher.matchOn t m)).filter (·.2.matched) := by
    rw [matchesOn, listed, List.map_append, List.filter_append, List.map_cons,
      List.filter_cons_of_pos (by exact matched)]
  rw [exhaust, committed, cut]
  refine shadow?_of_standing matched fun commit member => ?_
  obtain ⟨behind, successful⟩ := List.mem_filter.mp member
  obtain ⟨later, listed, rfl⟩ := List.mem_map.mp behind
  exact last later listed successful

/-- Where no method matches under an identity, a lookup finds what it has found before. -/
theorem shadow?_exhaust_of_apart {probe : Method}
    (apart : ∀ m ∈ t.methods, (i.matcher.matchOn t m).matched = true → m.key ≠ probe.key) :
    (exhaust t i).matcher.shadow? probe = i.matcher.shadow? probe := by
  have nothing : last? (matchesOn i t) probe.key = none := by
    rw [last?_eq_none]
    intro commit member matched
    obtain ⟨m, inType, rfl⟩ := List.mem_map.mp (List.mem_of_mem_filter member)
    exact apart m inType matched
  rw [exhaust, committed, shadow?_commitAll, nothing, Option.none_or]

/-- What resolving a type does once the interceptors of a container are there, or have failed: it answers
by the plain rule, and commits all matches on the interceptors that are kept for the container. A failure
is handed on and leaves everything as it is. -/
structure Exhaustive (id : String) (t : HostType) (found : Except ResolveError (List Interceptor))
    (before : Resolver) (answer : Except ResolveError (List Interceptor)) (after : Resolver) :
    Prop where
  answer : answer = found.map (exhaustively t)
  kept : ∀ list, found = .ok list → ∀ probe, after.cache.get? probe =
    if probe = id then (before.cache.get? id).map (·.map (exhaust t)) else before.cache.get? probe
  failed : ∀ e, found = .error e → after = before

/-- Weaving follows the plain rule, if nothing is kept for a container that is no longer current. -/
theorem weave_exhaustive {r : Resolver} {id : String} (t : HostType) {current : Bool}
    (stale : current = false → r.cache.get? id = none)
    (found : Except ResolveError (List Interceptor)) :
    Exhaustive id t found r (r.weave id t current found).1 (r.weave id t current found).2 := by
  cases found with
  | error e => exact ⟨rfl, nofun, fun _ _ => rfl⟩
  | ok list =>
    refine ⟨congrArg Except.ok (woven_eq t list), fun _ _ probe => ?_, nofun⟩
    cases current with
    | true =>
      simp only [Resolver.weave, ↓reduceIte, ScanCache.get?_update, funext fun i => weave_eq i t]
    | false =>
      simp only [Resolver.weave, Bool.false_eq_true, ↓reduceIte, stale rfl, Option.map_none]
      split
      · rename_i same
        rw [same, stale rfl]
      · rfl

theorem get?_declaredStale {α : Type} {c : ScanCache α} {id : String} (unknown : c.get? id = none)
    (times : Nat) : (ScanHistory.declaredStale c id times).get? id = none := by
  induction times generalizing c with
  | zero => exact unknown
  | succ times ih =>
    rw [ScanHistory.declaredStale, List.replicate_succ, List.foldl_cons]
    exact ih (by rw [ScanCache.get?_invalidate, if_pos rfl])

/-- Nothing is kept of a container that was declared stale while it was scanned. -/
theorem not_kept_of_stale {s : ScanSession} {id : String}
    (stale : (ScanSession.interceptors id s).2.resolver.isCurrent s.resolver id = false) :
    (ScanSession.interceptors id s).2.resolver.cache.get? id = none := by
  unfold ScanSession.interceptors at stale ⊢
  cases known : s.resolver.cache.get? id with
  | some list => simp [known, Resolver.isCurrent] at stale
  | none =>
    obtain ⟨times, back⟩ := ScanHistory.cache_scanning s.resolver.policy id { s with
      resolver := { s.resolver with cache := (s.resolver.cache.begin id).2 } }
    simp only [known] at stale ⊢
    generalize s.resolver.policy.scanning (ScanSession.ask id) _ = outcome at stale back ⊢
    obtain ⟨scanned, after⟩ := outcome
    simp only [Resolver.isCurrent, Resolver.finish, ScanCache.generation_finish,
      beq_eq_false_iff_ne] at stale back ⊢
    rw [ScanCache.get?_finish, if_neg fun both => stale both.2, back]
    exact get?_declaredStale ((ScanCache.get?_begin _ _ _).trans known) times

/-- Resolving a type in a container of a session follows the plain rule, whether the container stays as
it is while it is scanned or changes. In the first case the list that is found is the kept one, and after a
failure everything that is kept is as it was. -/
structure FollowsPlainRule (s : ScanSession) (id : String) (t : HostType) : Prop where
  steady : ∀ beans,
    Exhaustive id t (s.resolver.interceptors id beans).1 (s.resolver.interceptors id beans).2
      (s.resolver.resolve id beans t).1 (s.resolver.resolve id beans t).2
  listed : ∀ beans list, (s.resolver.interceptors id beans).1 = .ok list →
    (s.resolver.interceptors id beans).2.cache.get? id = some list
  unharmed : ∀ beans e, (s.resolver.interceptors id beans).1 = .error e → ∀ probe,
    (s.resolver.resolve id beans t).2.cache.get? probe = s.resolver.cache.get? probe
  changing :
    Exhaustive id t (ScanSession.interceptors id s).1 (ScanSession.interceptors id s).2.resolver
      (ScanSession.resolve id t s).1 (ScanSession.resolve id t s).2.resolver

/-- What the plain rule leaves on an interceptor: nothing new without a match on the type; under the
identity of a method that matches the result of the last such match; elsewhere what was there before. -/
structure LeavesMatches (t : HostType) (i : Interceptor) : Prop where
  apart : i.matchesAny t t.methods = false → exhaust t i = i
  last : ∀ before m after, t.methods = before ++ m :: after →
    (i.matcher.matchOn t m).matched = true →
    (∀ later ∈ after, (i.matcher.matchOn t later).matched = true → later.key ≠ m.key) →
      (exhaust t i).matcher.shadow? m = some (i.matcher.matchOn t m).shadow
  elsewhere : ∀ probe : Method,
    (∀ m ∈ t.methods, (i.matcher.matchOn t m).matched = true → m.key ≠ probe.key) →
      (exhaust t i).matcher.shadow? probe = i.matcher.shadow? probe

/-- Resolving a type that is not left alone does what the plain rule does: it answers with the interceptors
that have a match on the type, in order, with all their matches committed, and changes nothing else. -/
theorem resolve_weaves_every_match (s : ScanSession) (id : String) {t : HostType}
    (woven : s.resolver.policy.skips t = false) :
    FollowsPlainRule s id t ∧ ∀ i, LeavesMatches t i := by
  refine ⟨⟨?steady, ?listed, ?unharmed, ?changing⟩, fun i => ⟨exhaust_of_apart, ?last, ?elsewhere⟩⟩
  case steady =>
    intro beans
    rw [Resolver.resolve_of_woven woven]
    exact weave_exhaustive t (fun stale : true = false => nomatch stale) _
  case listed =>
    intro beans list known
    rw [Resolver.kept_interceptors, if_pos rfl, known]
    rfl
  case unharmed =>
    intro beans e known probe
    rw [Resolver.kept_resolve woven, known]
    split
    · -- Only a scan fails, so nothing was kept before it.
      rename_i same
      subst same
      rw [Resolver.interceptors_answer] at known
      cases kept : s.resolver.cache.get? probe with
      | none => rfl
      | some list => simp [kept] at known
    · rfl
  case changing =>
    simp only [ScanSession.resolve, woven, Bool.false_eq_true, ↓reduceIte]
    exact weave_exhaustive t not_kept_of_stale _
  case last =>
    intro before m after listed matched last
    exact shadow?_exhaust listed matched last
  case elsewhere =>
    intro probe apart
    exact shadow?_exhaust_of_apart apart

/-- A desk that is opened and closed. -/
def desk : HostType :=
  .mk "demo.Desk" 1 [] []
    [⟨"open", .bare "void", [], [.isPublic], []⟩, ⟨"close", .bare "void", [], [.isPublic], []⟩]

/-- An aspect with a pointcut that matches one method of the desk, one that the coarse question refuses
there, and one that it lets pass although nothing matches. -/
def guard : HostType :=
  .mk "demo.Guard" 2 [⟨"Aspect", []⟩] []
    [⟨"opened", .bare "void", [], [.isPublic], [⟨"Before", [("value", .text "execution(* open(..))")]⟩]⟩,
      ⟨"sold", .bare "void", [], [.isPublic], [⟨"Before", [("value", .text "within(shop..*)")]⟩]⟩,
      ⟨"other", .bare "void", [], [.isPublic], [⟨"Before", [("value", .text "!execution(* *(..))")]⟩]⟩]

def guarded : BeanScope → List Bean
  | .plugin => [⟨"guard", ⟨guard, "guard"⟩⟩]
  | .global => []

/-- A session with a container that adds a bean while it is scanned. -/
def session : ScanSession :=
  ⟨.ofPolicy {}, Table.empty.insert "plugin"
    ⟨guarded .plugin, [], some ⟨"late", ⟨.bare "demo.Late", "late"⟩⟩⟩, []⟩

/-- The desk is answered for with the one interceptor that has a match. In a container that stays as it
is, the kept list has the shadow of the one method; of a container that changes, nothing is kept. -/
theorem desk_is_guarded :
    session.resolver.policy.skips desk = false ∧
      (session.resolver.resolve "plugin" guarded desk).1.toOption.map (·.map (·.advice.name)) =
        some ["opened"] ∧
      ((session.resolver.resolve "plugin" guarded desk).2.cache.get? "plugin").map
          (·.map fun i => desk.methods.map fun m => (i.matcher.shadow? m).isSome) =
        some [[true, false], [false, false], [false, false]] ∧
      (ScanSession.resolve "plugin" desk session).1.toOption.map (·.map (·.advice.name)) =
        some ["opened"] ∧
      ((ScanSession.resolve "plugin" desk session).2.resolver.cache.get? "plugin").isNone = true ∧
      FollowsPlainRule session "plugin" desk ∧ ∀ i, LeavesMatches desk i := by
  have woven : session.resolver.policy.skips desk = false := by decide +kernel
  refine ⟨woven, ?_, ?_, ?_, ?_, resolve_weaves_every_match session "plugin" woven⟩
  · decide +kernel
  · decide +kernel
  · decide +kernel
  · decide +kernel

end Crosscut.ExhaustiveWeaving
