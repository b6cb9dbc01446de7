import Crosscut.Resolver.Reentry
import Mathlib.Data.List.Induction

/-! Histories of the interceptor cache. A container may call back into the resolver while it is scanned,
so between the beginning of a scan and its end other scans may begin and end, of this container or of
others, and containers may be declared stale, in any order. A history is a list of such events, and a
call is known by its position in it. -/
namespace Crosscut.ScanHistory

variable {ε α : Type}

/-- What happens to the cache: a call for the list of a container begins, the scan that a call has begun
ends with a result, or a container is declared stale. -/
inductive Event (ε α : Type) where
  | call (id : String)
  | finish (number : Nat) (scanned : Except ε α)
  | invalidate (id : String)

/-- A cache, the number of events so far, and by the number of their calls the scans under way with
what they remember of their beginning, and the answers that were given. -/
structure Course (ε α : Type) where
  cache : ScanCache α
  clock : Nat
  scans : Table Nat ScanTicket
  answers : Table Nat (Except ε α)

namespace Course

def start : Course ε α := ⟨.empty, 0, .empty, .empty⟩

/-- A call is answered at once with the list that is kept, or else begins a scan. The end of a scan
that is not under way means nothing. -/
def step (s : Course ε α) : Event ε α → Course ε α
  | .call id =>
    match s.cache.get? id with
    | some list => { s with clock := s.clock + 1, answers := s.answers.insert s.clock (.ok list) }
    | none =>
      { s with
        cache := (s.cache.begin id).2
        clock := s.clock + 1
        scans := s.scans.insert s.clock (s.cache.begin id).1 }
  | .finish number scanned =>
    match s.scans.get? number with
    | some ticket =>
      { cache := (s.cache.finish ticket scanned).2
        clock := s.clock + 1
        scans := s.scans.erase number
        answers := s.answers.insert number (s.cache.finish ticket scanned).1 }
    | none => { s with clock := s.clock + 1 }
  | .invalidate id => { s with cache := s.cache.invalidate id, clock := s.clock + 1 }

end Course

/-- What a history leads to. -/
def run (history : List (Event ε α)) : Course ε α :=
  history.foldl Course.step .start

/-- A call begins a scan: no list is kept when it is made. -/
def Begins (history : List (Event ε α)) (number : Nat) (id : String) : Prop :=
  history[number]? = some (.call id) ∧ (run (history.take number)).cache.get? id = none

/-- The scan of a call has begun and has not ended. -/
def InFlight (history : List (Event ε α)) (number : Nat) (id : String) : Prop :=
  Begins history number id ∧ ∀ scanned, .finish number scanned ∉ history.drop number

/-- The container has not been declared stale since a call. -/
def Untouched (history : List (Event ε α)) (number : Nat) (id : String) : Prop :=
  .invalidate id ∉ history.drop number

/-- A kept list comes from a scan that was begun after the container was last declared stale, and that
was under way when it ended with this list. -/
def Fresh (history : List (Event ε α)) (id : String) (list : α) : Prop :=
  ∃ number, Untouched history number id ∧
    ∃ place, history[place]? = some (.finish number (.ok list)) ∧
      InFlight (history.take place) number id

variable {s : Course ε α} {history : List (Event ε α)} {event : Event ε α} {number : Nat}
  {id probe : String}

section Steps

theorem step_call_of_kept {list : α} (known : s.cache.get? id = some list) :
    s.step (.call id) =
      { s with clock := s.clock + 1, answers := s.answers.insert s.clock (.ok list) } := by
  simp only [Course.step, known]

theorem step_call_of_unknown (unknown : s.cache.get? id = none) :
    s.step (.call id) =
      { s with
        cache := (s.cache.begin id).2
        clock := s.clock + 1
        scans := s.scans.insert s.clock (s.cache.begin id).1 } := by
  simp only [Course.step, unknown]

theorem step_finish_of_underWay {ticket : ScanTicket} (known : s.scans.get? number = some ticket)
    (scanned : Except ε α) :
    s.step (.finish number scanned) =
      { cache := (s.cache.finish ticket scanned).2
        clock := s.clock + 1
        scans := s.scans.erase number
        answers := s.answers.insert number (s.cache.finish ticket scanned).1 } := by
  simp only [Course.step, known]

theorem step_finish_of_ended (unknown : s.scans.get? number = none) (scanned : Except ε α) :
    s.step (.finish number scanned) = { s with clock := s.clock + 1 } := by
  simp only [Course.step, unknown]

@[simp] theorem clock_step (s : Course ε α) (event : Event ε α) :
    (s.step event).clock = s.clock + 1 := by
  cases event with
  | call id =>
    simp only [Course.step]
    split <;> rfl
  | finish number scanned =>
    simp only [Course.step]
    split <;> rfl
  | invalidate id => rfl

/-- A call keeps nothing by itself. -/
@[simp] theorem get?_step_call (s : Course ε α) (id probe : String) :
    (s.step (.call id)).cache.get? probe = s.cache.get? probe := by
  simp only [Course.step]
  split <;> rfl

@[simp] theorem generation_step_call (s : Course ε α) (id probe : String) :
    (s.step (.call id)).cache.generation probe = s.cache.generation probe := by
  simp only [Course.step]
  split <;> rfl

@[simp] theorem generation_step_finish (s : Course ε α) (number : Nat) (scanned : Except ε α)
    (probe : String) :
    (s.step (.finish number scanned)).cache.generation probe = s.cache.generation probe := by
  simp only [Course.step]
  split
  · exact ScanCache.generation_finish _ _ _ _
  · rfl

/-- A call for a list that is not kept has its scan under way, and the others are. -/
theorem get?_scans_step_call (s : Course ε α) (id : String) (number : Nat) :
    (s.step (.call id)).scans.get? number =
      if number = s.clock ∧ s.cache.get? id = none then some (s.cache.begin id).1
      else s.scans.get? number := by
  cases known : s.cache.get? id with
  | some list =>
    rw [step_call_of_kept known]
    simp
  | none =>
    rw [step_call_of_unknown known]
    simp [Table.get?_insert]

/-- A scan that ends is no longer under way, and the others are. -/
theorem get?_scans_step_finish (s : Course ε α) (ended number : Nat) (scanned : Except ε α) :
    (s.step (.finish ended scanned)).scans.get? number =
      if number = ended then none else s.scans.get? number := by
  cases known : s.scans.get? ended with
  | some ticket =>
    rw [step_finish_of_underWay known]
    exact Table.get?_erase _ _ _
  | none =>
    rw [step_finish_of_ended known]
    by_cases same : number = ended
    · simp [same, known]
    · simp [same]

end Steps

section Calls

/-- A call with its scan, during which the container is declared stale some times. -/
def visit (s : Course ε α) (id : String) (times : Nat) (scanned : Except ε α) : Course ε α :=
  (((List.replicate times (.invalidate id)).foldl Course.step (s.step (.call id))).step
    (.finish s.clock scanned))

/-- The cache after a container has been declared stale some times in a row. -/
def declaredStale (c : ScanCache α) (id : String) (times : Nat) : ScanCache α :=
  (List.replicate times id).foldl ScanCache.invalidate c

theorem declaredStale_add (c : ScanCache α) (id : String) (first second : Nat) :
    declaredStale (declaredStale c id first) id second = declaredStale c id (first + second) := by
  rw [declaredStale, declaredStale, ← List.foldl_append, List.replicate_append_replicate, declaredStale]

theorem run_declarations (s : Course ε α) (id : String) (times : Nat) :
    (List.replicate times (.invalidate id)).foldl Course.step s =
      { s with cache := declaredStale s.cache id times, clock := s.clock + times } := by
  induction times generalizing s with
  | zero => rfl
  | succ times ih =>
    rw [List.replicate_succ, List.foldl_cons, ih]
    simp only [Course.step, declaredStale, List.replicate_succ, List.foldl_cons, Nat.add_assoc,
      Nat.add_comm 1 times]

theorem visit_of_kept {list : α} (known : s.cache.get? id = some list)
    (idle : s.scans.get? s.clock = none) (scanned : Except ε α) :
    (visit s id 0 scanned).cache = s.cache ∧
      (visit s id 0 scanned).answers.get? s.clock = some (.ok list) := by
  have ended : (s.step (.call id)).scans.get? s.clock = none := by
    rw [step_call_of_kept known]
    exact idle
  have done : visit s id 0 scanned = { s.step (.call id) with clock := s.clock + 2 } := by
    rw [visit, List.replicate_zero, List.foldl_nil, step_finish_of_ended ended, clock_step]
  rw [done, step_call_of_kept known]
  exact ⟨rfl, Table.get?_insert_self _ _ _⟩

theorem visit_of_unknown (unknown : s.cache.get? id = none) (times : Nat) (scanned : Except ε α) :
    (visit s id times scanned).cache =
        ((declaredStale (s.cache.begin id).2 id times).finish (s.cache.begin id).1 scanned).2 ∧
      (visit s id times scanned).answers.get? s.clock =
        some ((declaredStale (s.cache.begin id).2 id times).finish (s.cache.begin id).1 scanned).1 := by
  unfold visit
  rw [run_declarations, step_call_of_unknown unknown, step_finish_of_underWay]
  · exact ⟨rfl, Table.get?_insert_self _ _ _⟩
  · exact Table.get?_insert_self _ _ _

/-- A call of the resolver that nothing interrupts is a beginning and an end. -/
theorem interceptors_eq_visit (r : Resolver) {s : Course ResolveError (List Interceptor)}
    (same : s.cache = r.cache) (idle : s.scans.get? s.clock = none) (id : String)
    (beans : BeanScope → List Bean) :
    (visit s id 0 (r.policy.scan beans)).cache = (r.interceptors id beans).2.cache ∧
      (visit s id 0 (r.policy.scan beans)).answers.get? s.clock =
        some (r.interceptors id beans).1 := by
  unfold Resolver.interceptors
  cases known : r.cache.get? id with
  | some list =>
    obtain ⟨cache, answer⟩ := visit_of_kept (same ▸ known) idle (r.policy.scan beans)
    exact ⟨cache.trans same, answer⟩
  | none =>
    obtain ⟨cache, answer⟩ := visit_of_unknown (same ▸ known) 0 (r.policy.scan beans)
    rw [same] at cache answer
    exact ⟨cache, answer⟩

theorem cache_ask (id : String) (scope : BeanScope) (session : ScanSession) :
    ∃ times, (ScanSession.ask id scope session).2.resolver.cache =
      declaredStale session.resolver.cache id times := by
  unfold ScanSession.ask
  cases (session.source id).heldBack with
  | none => exact ⟨0, rfl⟩
  | some bean => exact ⟨1, rfl⟩

/-- A container that is scanned calls back only to declare itself stale. -/
theorem cache_scanning (p : AspectPolicy) (id : String) (session : ScanSession) :
    ∃ times, (p.scanning (ScanSession.ask id) session).2.resolver.cache =
      declaredStale session.resolver.cache id times := by
  obtain ⟨first, own⟩ := cache_ask id .plugin session
  obtain ⟨second, shared⟩ := cache_ask id .global (ScanSession.ask id .plugin session).2
  rw [own, declaredStale_add] at shared
  rw [AspectPolicy.scanning_apply]
  split
  · exact ⟨first, own⟩
  · split
    · exact ⟨first + second, shared⟩
    · exact ⟨first + second, shared⟩

/-- A call of the resolver whose scan calls back into it is a beginning, declarations that the container
is stale, and an end. -/
theorem reentrant_interceptors_eq_visit (session : ScanSession)
    {s : Course ResolveError (List Interceptor)} (same : s.cache = session.resolver.cache)
    (idle : s.scans.get? s.clock = none) (id : String) :
    ∃ times scanned,
      (visit s id times scanned).cache = (ScanSession.interceptors id session).2.resolver.cache ∧
        (visit s id times scanned).answers.get? s.clock =
          some (ScanSession.interceptors id session).1 := by
  unfold ScanSession.interceptors
  cases known : session.resolver.cache.get? id with
  | some list =>
    obtain ⟨cache, answer⟩ := visit_of_kept (same ▸ known) idle (.ok list)
    exact ⟨0, .ok list, cache.trans same, answer⟩
  | none =>
    obtain ⟨times, back⟩ := cache_scanning session.resolver.policy id { session with
      resolver := { session.resolver with cache := (session.resolver.cache.begin id).2 } }
    obtain ⟨cache, answer⟩ := visit_of_unknown (same ▸ known) times
      (session.resolver.policy.scanning (ScanSession.ask id) { session with
        resolver := { session.resolver with cache := (session.resolver.cache.begin id).2 } }).1
    rw [same, ← back] at cache answer
    exact ⟨times, _, cache, answer⟩

end Calls

@[simp] theorem run_append (history : List (Event ε α)) (event : Event ε α) :
    run (history ++ [event]) = (run history).step event := by
  simp [run]

@[simp] theorem clock_run (history : List (Event ε α)) : (run history).clock = history.length := by
  induction history using List.reverseRecOn with
  | nil => rfl
  | append_singleton history event ih =>
    rw [run_append, clock_step, ih, List.length_append, List.length_singleton]

section Histories

theorem begins_append :
    Begins (history ++ [event]) number id ↔
      (number = history.length ∧ event = .call id ∧ (run history).cache.get? id = none) ∨
        Begins history number id := by
  unfold Begins
  rcases Nat.lt_trichotomy number history.length with inside | rfl | outside
  · rw [List.getElem?_append_left inside, List.take_append_of_le_length (Nat.le_of_lt inside)]
    constructor
    · exact .inr
    · rintro (⟨last, -⟩ | begun)
      · omega
      · exact begun
  · simp
  · have absent : history[number]? = none := List.getElem?_eq_none (Nat.le_of_lt outside)
    have still : (history ++ [event])[number]? = none := by
      apply List.getElem?_eq_none
      rw [List.length_append, List.length_singleton]
      exact outside
    rw [absent, still]
    constructor
    · rintro ⟨⟨⟩, -⟩
    · rintro (⟨last, -⟩ | ⟨⟨⟩, -⟩)
      omega

theorem lt_of_begins (begun : Begins history number id) : number < history.length :=
  (List.getElem?_eq_some_iff.mp begun.1).1

theorem untouched_append (within : number ≤ history.length) :
    Untouched (history ++ [event]) number id ↔
      Untouched history number id ∧ event ≠ .invalidate id := by
  unfold Untouched
  rw [List.drop_append_of_le_length within, List.mem_append, List.mem_singleton, not_or, ne_comm]

theorem inFlight_append :
    InFlight (history ++ [event]) number id ↔
      (number = history.length ∧ event = .call id ∧ (run history).cache.get? id = none) ∨
        (InFlight history number id ∧ ∀ scanned, event ≠ .finish number scanned) := by
  unfold InFlight
  rw [begins_append]
  constructor
  · rintro ⟨new | begun, going⟩
    · exact .inl new
    · have within : number ≤ history.length := Nat.le_of_lt (lt_of_begins begun)
      rw [List.drop_append_of_le_length within] at going
      refine .inr ⟨⟨begun, fun scanned member => ?_⟩, fun scanned same => ?_⟩
      · exact going scanned (List.mem_append_left _ member)
      · exact going scanned (List.mem_append_right _ (List.mem_singleton.mpr same.symm))
  · rintro (⟨rfl, rfl, unknown⟩ | ⟨⟨begun, going⟩, other⟩)
    · refine ⟨.inl ⟨rfl, rfl, unknown⟩, fun scanned member => ?_⟩
      rw [List.drop_left, List.mem_singleton] at member
      cases member
    · have within : number ≤ history.length := Nat.le_of_lt (lt_of_begins begun)
      refine ⟨.inr begun, fun scanned member => ?_⟩
      rw [List.drop_append_of_le_length within] at member
      rcases List.mem_append.mp member with earlier | last
      · exact going scanned earlier
      · exact other scanned (List.mem_singleton.mp last).symm

theorem inFlight_call :
    InFlight (history ++ [.call probe]) number id ↔
      (number = history.length ∧ probe = id ∧ (run history).cache.get? id = none) ∨
        InFlight history number id := by
  simp [inFlight_append]

theorem inFlight_finish (ended : Nat) (scanned : Except ε α) :
    InFlight (history ++ [.finish ended scanned]) number id ↔
      InFlight history number id ∧ number ≠ ended := by
  simp only [inFlight_append, reduceCtorEq, false_and, and_false, false_or, ne_eq,
    Event.finish.injEq, not_and]
  refine and_congr_right fun _ => ⟨fun other same => ?_, fun other result same => ?_⟩
  · exact other scanned same.symm rfl
  · exact absurd same.symm other

theorem inFlight_invalidate :
    InFlight (history ++ [.invalidate probe]) number id ↔ InFlight history number id := by
  simp [inFlight_append]

/-- A list stays fresh until the container is declared stale. -/
theorem fresh_append {list : α} (fresh : Fresh history id list) (other : event ≠ .invalidate id) :
    Fresh (history ++ [event]) id list := by
  obtain ⟨number, untouched, place, ended, inFlight⟩ := fresh
  have here : place < history.length := (List.getElem?_eq_some_iff.mp ended).1
  have earlier : number < (history.take place).length := lt_of_begins inFlight.1
  have within : number ≤ history.length := by
    rw [List.length_take] at earlier
    omega
  refine ⟨number, (untouched_append within).mpr ⟨untouched, other⟩, place, ?_, ?_⟩
  · rw [List.getElem?_append_left here]
    exact ended
  · rw [List.take_append_of_le_length (Nat.le_of_lt here)]
    exact inFlight

end Histories

end Crosscut.ScanHistory
