import Crosscut.Host.Catalog
import Crosscut.Proofs.Commits
import Crosscut.Proofs.MethodIdentity

/-! Sessions in which types are lost. The identity of a method is put together anew whenever it is
asked for, and the name of a lost type is not in it any more. What was committed while the type was
there cannot be found afterwards, and the methods that have lost their types have the same identity
as soon as they agree in name and parameter types. -/
namespace Crosscut.DroppedTypes
open Commits MethodIdentity

/-- The definitions whose types are still there, and a matcher. -/
structure Session where
  staying : List Nat
  matcher : Matcher

/-- What changes a session: definitions are lost, or a result is committed for a method. A method is
named by how it was before any loss. Neither matching a method nor a call changes anything. -/
inductive Step where
  | drop (gone : List Nat)
  | choose (method : Method) (result : MatchResult)

/-- The definitions that are still there when others are lost. -/
def without (staying gone : List Nat) : List Nat :=
  staying.filter (· ∉ gone)

/-- The session after a step. A method is seen as it is at the time. -/
def Session.after (s : Session) : Step → Session
  | .drop gone => { s with staying := without s.staying gone }
  | .choose method result =>
    { s with matcher := s.matcher.choose (method.whileStaying s.staying) result }

def run (s : Session) (steps : List Step) : Session :=
  steps.foldl Session.after s

/-- The definitions that are still there after the steps. -/
def remaining (staying : List Nat) : List Step → List Nat
  | [] => staying
  | .drop gone :: rest => remaining (without staying gone) rest
  | .choose _ _ :: rest => remaining staying rest

/-- The commits of the steps, with the methods as they are at the time. -/
def seen (staying : List Nat) : List Step → List Commit
  | [] => []
  | .drop gone :: rest => seen (without staying gone) rest
  | .choose method result :: rest => (method.whileStaying staying, result) :: seen staying rest

/-- The commits of the steps, with the methods as they were before any loss. -/
def meant : List Step → List Commit
  | [] => []
  | .drop _ :: rest => meant rest
  | .choose method result :: rest => (method, result) :: meant rest

/-- The shadow of the last successful commit for a method that passes a test. -/
def lastOf (commits : List Commit) (test : Method → Bool) : Option Shadow :=
  (commits.reverse.find? fun commit => commit.2.matched && test commit.1).map (·.2.shadow)

/-- A call is answered from a shadow: the shadow decides what is bound, and is not missed. Without a
shadow it is missed. -/
def AnsweredFrom (matcher : Matcher) (call : JoinPoint) : Option Shadow → Prop
  | some shadow => matcher.bind call = shadow.bind call matcher.parameters ∧
      ∀ key, matcher.bind call ≠ .error (.missingShadow key)
  | none => matcher.bind call = .error (.missingShadow call.method.key)

/-- Methods of one host: their names are plain, they have declaring types, and a type name has one
definition. -/
structure OneHost (methods : List Method) : Prop where
  plain : ∀ m ∈ methods, Plain m
  declared : ∀ m ∈ methods, m.declaring.isSome = true
  defined : ∀ a ∈ methods, ∀ b ∈ methods, a.declaringName = b.declaringName →
    a.declaring.map HostType.serial = b.declaring.map HostType.serial

variable {staying : List Nat} {steps : List Step} {matcher : Matcher} {m : Method}

theorem staying_run (s : Session) : (run s steps).staying = remaining s.staying steps := by
  unfold run
  induction steps generalizing s with
  | nil => rfl
  | cons step rest ih => cases step <;> exact ih _

theorem matcher_run (s : Session) :
    (run s steps).matcher = commitAll s.matcher (seen s.staying steps) := by
  unfold run
  induction steps generalizing s with
  | nil => rfl
  | cons step rest ih => cases step <;> exact ih _

/-- What is lost does not come back. -/
theorem mem_of_remaining {serial : Nat} (there : serial ∈ remaining staying steps) :
    serial ∈ staying := by
  induction steps generalizing staying with
  | nil => exact there
  | cons step rest ih =>
    cases step with
    | drop gone => exact List.mem_of_mem_filter (ih there)
    | choose => exact ih there

theorem whileStaying_of_there (there : ∃ t, m.declaring = some t ∧ t.serial ∈ staying) :
    m.whileStaying staying = m := by
  obtain ⟨t, known, member⟩ := there
  simp [Method.whileStaying, known, member]

/-- A method that is seen with a declaring type is seen as it was. -/
theorem there_of_declaring (known : (m.whileStaying staying).declaring.isSome = true) :
    ∃ t, m.declaring = some t ∧ t.serial ∈ staying := by
  unfold Method.whileStaying at known
  split at known
  · rename_i there
    simpa [Option.any_eq_true] using there
  · simp [Method.orphaned] at known

/-- A method that is seen without a declaring type has nothing else changed. -/
theorem whileStaying_of_gone (gone : (m.whileStaying staying).declaring = none)
    (declared : m.declaring.isSome = true) : m.whileStaying staying = m.orphaned := by
  unfold Method.whileStaying at gone ⊢
  split
  · rename_i there
    rw [if_pos there] at gone
    simp [gone] at declared
  · rfl

theorem whileStaying_cases (m : Method) (staying : List Nat) :
    m.whileStaying staying = m ∨ m.whileStaying staying = m.orphaned := by
  unfold Method.whileStaying
  split
  · exact .inl rfl
  · exact .inr rfl

theorem plain_orphaned (plain : Plain m) : Plain m.orphaned :=
  ⟨by simp [Method.orphaned], plain.undotted, plain.unopened, plain.parameters⟩

theorem plain_whileStaying (plain : Plain m) : Plain (m.whileStaying staying) := by
  rcases whileStaying_cases m staying with same | orphaned
  · rw [same]
    exact plain
  · rw [orphaned]
    exact plain_orphaned plain

/-- While its type is there, a method shares its key with the methods of the same identity alone. -/
theorem key_of_there {methods : List Method} (host : OneHost methods) {a : Method}
    (memberA : a ∈ methods) (member : m ∈ methods)
    (there : ∃ t, m.declaring = some t ∧ t.serial ∈ staying) :
    (a.whileStaying staying).key = m.key ↔ identity a = identity m := by
  have plainA := host.plain a memberA
  have plain := host.plain m member
  obtain ⟨t, known, stays⟩ := there
  by_cases together : a.declaringName = m.declaringName
  · have same : a.whileStaying staying = a := by
      have serial := host.defined a memberA m member together
      rw [known, Option.map_some, Option.map_eq_some_iff] at serial
      obtain ⟨s, knownA, equal⟩ := serial
      exact whileStaying_of_there ⟨s, knownA, equal ▸ stays⟩
    rw [same, key_eq_iff plainA plain]
  · have different : identity a ≠ identity m := fun same => together (congrArg (·.1) same)
    refine iff_of_false (fun sameKey => ?_) different
    have seen := (key_eq_iff (plain_whileStaying plainA) plain).mp sameKey
    rcases whileStaying_cases a staying with same | orphaned
    · exact different (same ▸ seen)
    · -- What has lost its type has no name of one, and the method that is there has.
      rw [orphaned] at seen
      have unnamed : m.declaringName = "" := congrArg (·.1) seen.symm
      rw [plain.declaringName_eq_empty, known] at unnamed
      cases unnamed

/-- A method that has lost its type shares its key with the methods of the same signature that have
lost theirs. -/
theorem key_of_gone {a : Method} (plainA : Plain a) (plain : Plain m) :
    a.key = m.orphaned.key ↔ (a.declaring.isNone && a.sameSignature m) = true := by
  rw [key_eq_iff plainA (plain_orphaned plain), Bool.and_eq_true, Option.isNone_iff_eq_none,
    ← plainA.declaringName_eq_empty, Method.sameSignature_iff]
  simp only [identity, Method.signature, Prod.mk.injEq]
  rfl

/-- A lookup by key is a lookup by a test. -/
theorem last?_eq_lastOf (commits : List Commit) (key : MethodKey) :
    last? commits key = lastOf commits (·.key = key) := rfl

theorem lastOf_cons (commit : Commit) (rest : List Commit) (test : Method → Bool) :
    lastOf (commit :: rest) test =
      (lastOf rest test).or
        (if commit.2.matched && test commit.1 then some commit.2.shadow else none) := by
  simp only [lastOf, List.reverse_cons, List.find?_append, List.find?_singleton, Option.map_or]
  split <;> rfl

/-- Under tests that agree on the commits, the last one is the same. -/
theorem lastOf_congr {commits : List Commit} {test other : Method → Bool}
    (agree : ∀ commit ∈ commits, test commit.1 = other commit.1) :
    lastOf commits test = lastOf commits other := by
  induction commits with
  | nil => rfl
  | cons commit rest ih =>
    rw [lastOf_cons, lastOf_cons, agree commit List.mem_cons_self,
      ih fun later member => agree later (List.mem_cons_of_mem _ member)]

/-- What is found under the key of a method whose type is still there is the last commit that was
meant for its identity. -/
theorem last?_of_there {methods : List Method} (host : OneHost methods) (member : m ∈ methods)
    (known : ∀ commit ∈ meant steps, commit.1 ∈ methods)
    (there : ∃ t, m.declaring = some t ∧ t.serial ∈ remaining staying steps) :
    last? (seen staying steps) m.key = lastOf (meant steps) (identity · = identity m) := by
  rw [last?_eq_lastOf]
  induction steps generalizing staying with
  | nil => rfl
  | cons step rest ih =>
    cases step with
    | drop gone => exact ih known there
    | choose method result =>
      obtain ⟨listed, others⟩ := List.forall_mem_cons.mp known
      obtain ⟨t, declared, stays⟩ := there
      have now := key_of_there host listed member ⟨t, declared, mem_of_remaining stays⟩
      rw [seen, meant, lastOf_cons, lastOf_cons, ih others ⟨t, declared, stays⟩]
      simp only [now]

/-- The methods of a session are seen with plain names. -/
theorem plain_seen {methods : List Method} (host : OneHost methods)
    (known : ∀ commit ∈ meant steps, commit.1 ∈ methods) :
    ∀ commit ∈ seen staying steps, Plain commit.1 := by
  induction steps generalizing staying with
  | nil => simp [seen]
  | cons step rest ih =>
    cases step with
    | drop gone => exact ih known
    | choose method result =>
      obtain ⟨listed, others⟩ := List.forall_mem_cons.mp known
      exact List.forall_mem_cons.mpr ⟨plain_whileStaying (host.plain method listed), ih others⟩

/-- Binding from a shadow never misses a shadow. -/
theorem bind_ne_missing (shadow : Shadow) (call : JoinPoint) (parameters : List Binding)
    (key : MethodKey) : shadow.bind call parameters ≠ .error (.missingShadow key) := by
  intro missed
  rcases Shadow.error_of_bind missed with ⟨_, other⟩ | ⟨_, _, other⟩ | other | ⟨_, other⟩ <;>
    cases other

theorem answeredFrom_shadow? (matcher : Matcher) (call : JoinPoint) :
    AnsweredFrom matcher call (matcher.shadow? call.method) := by
  cases known : matcher.shadow? call.method with
  | none => simp [AnsweredFrom, Matcher.bind, known]
  | some shadow =>
    have bound : matcher.bind call = shadow.bind call matcher.parameters := by
      simp [Matcher.bind, known]
    exact ⟨bound, fun key => bound ▸ bind_ne_missing shadow call matcher.parameters key⟩

/-- After any session on a new matcher, a call is answered from the last successful commit under the
key that the method has at the time of the call. In one host, while the type of the method is still
there, this is the last successful commit that was meant for the method. Once the type is lost, it is
the last successful commit for any method of the same name and parameter types that had lost its type
when it was committed; what was committed before the loss does not count. -/
theorem answered_from_current_key {ctx : PointcutContext} {expression : String}
    (accepted : Matcher.parse ctx expression = .ok matcher) (staying : List Nat)
    (steps : List Step) (m : Method) (call : JoinPoint)
    (called : call.method = m.whileStaying (run ⟨staying, matcher⟩ steps).staying) :
    AnsweredFrom (run ⟨staying, matcher⟩ steps).matcher call
        (last? (seen staying steps) call.method.key) ∧
      ∀ methods, OneHost methods → m ∈ methods → (∀ commit ∈ meant steps, commit.1 ∈ methods) →
        (call.method.declaring.isSome = true →
          AnsweredFrom (run ⟨staying, matcher⟩ steps).matcher call
            (lastOf (meant steps) (identity · = identity m))) ∧
        (call.method.declaring = none →
          AnsweredFrom (run ⟨staying, matcher⟩ steps).matcher call
            (lastOf (seen staying steps) fun a => a.declaring.isNone && a.sameSignature m)) := by
  have found : (run ⟨staying, matcher⟩ steps).matcher.shadow? call.method =
      last? (seen staying steps) call.method.key := by
    obtain ⟨-, -, fresh⟩ := Matcher.parts_of_parse accepted
    rw [matcher_run, shadow?_commitAll, Matcher.shadow?, fresh, Table.get?_empty, Option.or_none]
  have answered := answeredFrom_shadow? (run ⟨staying, matcher⟩ steps).matcher call
  rw [found] at answered
  rw [staying_run] at called
  refine ⟨answered, fun methods host member known => ⟨fun declaring => ?_, fun gone => ?_⟩⟩
  · rw [called] at declaring
    have there := there_of_declaring declaring
    rw [called, whileStaying_of_there there, last?_of_there host member known there] at answered
    exact answered
  · rw [called] at gone
    have orphaned := whileStaying_of_gone gone (host.declared m member)
    have same : last? (seen staying steps) call.method.key =
        lastOf (seen staying steps) fun a => a.declaring.isNone && a.sameSignature m := by
      rw [last?_eq_lastOf]
      refine lastOf_congr fun commit listed => ?_
      rw [called, orphaned, Bool.eq_iff_iff, decide_eq_true_iff]
      exact key_of_gone (plain_seen host known commit listed) (host.plain m member)
    exact same ▸ answered

/-- An entry that is written without parameters. -/
def post : Declaration HostType :=
  ⟨"post", .bare "void", [], [.isPublic], []⟩

def ledger : HostType :=
  .mk "demo.Ledger" 1 [] [] [post]

def journal : HostType :=
  .mk "demo.Journal" 2 [] [] [post]

def ledgerPost : Method :=
  ⟨some ledger, post⟩

def journalPost : Method :=
  ⟨some journal, post⟩

def callOf (m : Method) : JoinPoint :=
  ⟨m, [], ⟨.bare "demo.Proxy", "proxy"⟩, ⟨.bare "demo.Book", "book"⟩⟩

/-- A session on a matcher while both types are there. -/
def sessionOf (matcher : Matcher) (steps : List Step) : Session :=
  run ⟨[2, 1], matcher⟩ steps

/-- A call in a session, of the method as it is at the time. -/
def answerIn (s : Session) (m : Method) : Except JoinPointError (List BoundParameter) :=
  s.matcher.bind (callOf (m.whileStaying s.staying))

/-- The match that was committed for one method is missed when the type of the method is lost. If it
is committed after the loss, a method of another type that is lost later is answered from it, although
nothing has been committed for that method. -/
theorem committed_match_is_missed_and_shared :
    ∃ matcher, Matcher.parse {} "execution(* post(..))" = .ok matcher ∧
      (matcher.matchOwn ledgerPost).matched = true ∧
      answerIn (sessionOf matcher
          [.choose ledgerPost (matcher.matchOwn ledgerPost), .drop [1]]) ledgerPost =
        .error (.missingShadow ⟨".post()"⟩) ∧
      ∃ bound, answerIn (sessionOf matcher
          [.drop [1], .choose ledgerPost (matcher.matchOwn ledgerPost), .drop [2]]) journalPost =
        .ok bound := by
  have seen : (Matcher.parse {} "execution(* post(..))").toOption.map (fun matcher =>
      ((matcher.matchOwn ledgerPost).matched,
        (answerIn (sessionOf matcher
          [.choose ledgerPost (matcher.matchOwn ledgerPost), .drop [1]]) ledgerPost).map List.length,
        (answerIn (sessionOf matcher [.drop [1], .choose ledgerPost (matcher.matchOwn ledgerPost),
          .drop [2]]) journalPost).map List.length)) =
      some (true, .error (.missingShadow ⟨".post()"⟩), .ok 0) := by
    decide +kernel
  obtain ⟨matcher, accepted, found⟩ := exists_ok_of_map seen
  obtain ⟨matched, rest⟩ := Prod.mk.inj found
  obtain ⟨missed, shared⟩ := Prod.mk.inj rest
  obtain ⟨bound, answered, -⟩ := map_eq_ok.mp shared
  exact ⟨matcher, accepted, matched, map_eq_error.mp missed, bound, answered⟩

theorem plain_post {t : HostType} (plain : PlainType t.name) : Plain ⟨some t, post⟩ where
  declaring := by
    rintro _ ⟨⟩
    exact plain
  undotted := show '.' ∉ post.name.toList by decide +kernel
  unopened := show '(' ∉ post.name.toList by decide +kernel
  parameters := by simp [Method.parameterTypes, Method.parameters, post]

theorem one_host : OneHost [ledgerPost, journalPost] where
  plain := by
    simp only [List.forall_mem_cons, List.not_mem_nil, false_implies, implies_true, and_true]
    exact ⟨plain_post ⟨by decide, by decide +kernel, by decide +kernel⟩,
      plain_post ⟨by decide, by decide +kernel, by decide +kernel⟩⟩
  declared := by simp [ledgerPost, journalPost]
  defined := by
    simp only [List.forall_mem_cons]
    decide +kernel

/-- Matches are committed for two methods of the same signature, and the type of the second one is
lost. A call of the first one is answered from its own match, and a call of the second one misses
its match. -/
theorem ledger_is_answered :
    ∃ matcher steps, Matcher.parse {} "execution(* post(..))" = .ok matcher ∧
      steps = [.choose ledgerPost (matcher.matchOwn ledgerPost),
        .choose journalPost (matcher.matchOwn journalPost), .drop [2]] ∧
      ledgerPost = ledgerPost.whileStaying (run ⟨[2, 1], matcher⟩ steps).staying ∧
      journalPost.orphaned = journalPost.whileStaying (run ⟨[2, 1], matcher⟩ steps).staying ∧
      AnsweredFrom (run ⟨[2, 1], matcher⟩ steps).matcher (callOf ledgerPost)
        (some ⟨⟨"demo.Ledger.post()"⟩, []⟩) ∧
      AnsweredFrom (run ⟨[2, 1], matcher⟩ steps).matcher (callOf journalPost.orphaned) none := by
  have matched : (Matcher.parse {} "execution(* post(..))").toOption.map (fun matcher =>
      (matcher.matchOwn ledgerPost, matcher.matchOwn journalPost)) =
      some (⟨true, ⟨"demo.Ledger.post()"⟩, []⟩, ⟨true, ⟨"demo.Journal.post()"⟩, []⟩) := by
    decide +kernel
  obtain ⟨matcher, accepted, found⟩ := exists_ok_of_map matched
  obtain ⟨first, second⟩ := Prod.mk.inj found
  let steps : List Step := [.choose ledgerPost (matcher.matchOwn ledgerPost),
    .choose journalPost (matcher.matchOwn journalPost), .drop [2]]
  have stays : ledgerPost = ledgerPost.whileStaying (run ⟨[2, 1], matcher⟩ steps).staying := by
    rw [staying_run]
    rfl
  have gone : journalPost.orphaned =
      journalPost.whileStaying (run ⟨[2, 1], matcher⟩ steps).staying := by
    rw [staying_run]
    rfl
  refine ⟨matcher, steps, accepted, rfl, stays, gone, ?_, ?_⟩
  · have answered := ((answered_from_current_key accepted [2, 1] steps ledgerPost
      (callOf ledgerPost) stays).2 _ one_host (by simp) (by simp [steps, meant])).1 rfl
    have last : lastOf (meant steps) (identity · = identity ledgerPost) =
        some ⟨⟨"demo.Ledger.post()"⟩, []⟩ := by
      simp only [steps, meant, first, second]
      decide +kernel
    exact last ▸ answered
  · have answered := ((answered_from_current_key accepted [2, 1] steps journalPost
      (callOf journalPost.orphaned) gone).2 _ one_host (by simp) (by simp [steps, meant])).2 rfl
    have last : lastOf (seen [2, 1] steps)
        (fun a => a.declaring.isNone && a.sameSignature journalPost) = none := by
      simp only [steps, seen, first, second]
      decide +kernel
    exact last ▸ answered

end Crosscut.DroppedTypes
