import Crosscut.Proofs.ScanHistory

/-! What the interceptor cache promises when scans overlap. A scan remembers the generation of the
container that it began with, and since every declaration that the container is stale raises the
generation, the two still agree at its end exactly if the container was left untouched. So a kept list
is fresh, and because the first list that is published stays, all calls since the last declaration are
answered with it. Errors and lists that come too late leave the cache as well, which counts every scan
out at its end. -/
namespace Crosscut.OverlappingScans
open ScanHistory

variable {ε α : Type} {history : List (Event ε α)} {number : Nat} {id : String}

section Invariants

/-- The scans that are recorded as under way are those in flight. -/
theorem recorded_iff_inFlight :
    (∃ ticket, (run history).scans.get? number = some ticket ∧ ticket.id = id) ↔
      InFlight history number id := by
  induction history using List.reverseRecOn generalizing number id with
  | nil =>
    constructor
    · rintro ⟨_, ⟨⟩, -⟩
    · rintro ⟨⟨⟨⟩, -⟩, -⟩
  | append_singleton history event ih =>
    -- A call that is yet to come has no scan.
    have ahead : (run history).scans.get? history.length = none := by
      cases known : (run history).scans.get? history.length with
      | none => rfl
      | some ticket =>
        have begun : InFlight history history.length ticket.id := ih.mp ⟨ticket, known, rfl⟩
        exact absurd (lt_of_begins begun.1) (Nat.lt_irrefl _)
    rw [run_append]
    cases event with
    | call probe =>
      rw [get?_scans_step_call, clock_run, inFlight_call, ← ih]
      by_cases new : number = history.length ∧ (run history).cache.get? probe = none
      · rw [if_pos new]
        obtain ⟨rfl, unknown⟩ := new
        rw [ahead]
        constructor
        · rintro ⟨ticket, same, rfl⟩
          cases same
          exact .inl ⟨rfl, rfl, unknown⟩
        · rintro (⟨-, rfl, -⟩ | ⟨_, ⟨⟩, -⟩)
          exact ⟨_, rfl, rfl⟩
      · rw [if_neg new]
        constructor
        · exact .inr
        · rintro (⟨last, rfl, unknown⟩ | recorded)
          · exact absurd ⟨last, unknown⟩ new
          · exact recorded
    | finish ended scanned =>
      rw [get?_scans_step_finish, inFlight_finish, ← ih]
      by_cases same : number = ended
      · simp [same]
      · simp [same]
    | invalidate probe =>
      rw [inFlight_invalidate]
      exact ih

theorem inFlight_of_recorded {ticket : ScanTicket}
    (known : (run history).scans.get? number = some ticket) : InFlight history number ticket.id :=
  recorded_iff_inFlight.mp ⟨ticket, known, rfl⟩

theorem lt_of_recorded {ticket : ScanTicket}
    (known : (run history).scans.get? number = some ticket) : number < history.length :=
  lt_of_begins (inFlight_of_recorded known).1

/-- A call that is yet to come has no scan. -/
theorem scans_next (history : List (Event ε α)) :
    (run history).scans.get? (run history).clock = none := by
  rw [clock_run]
  cases known : (run history).scans.get? history.length with
  | none => rfl
  | some ticket => exact absurd (lt_of_recorded known) (Nat.lt_irrefl _)

/-- The generation that a scan under way remembers is the present one exactly when the container has
not been declared stale since its call. -/
theorem current_iff_untouched {ticket : ScanTicket}
    (known : (run history).scans.get? number = some ticket) :
    ticket.generation ≤ (run history).cache.generation ticket.id ∧
      ((run history).cache.generation ticket.id = ticket.generation ↔
        Untouched history number ticket.id) := by
  induction history using List.reverseRecOn generalizing number ticket with
  | nil => cases known
  | append_singleton history event ih =>
    rw [run_append] at known ⊢
    cases event with
    | call probe =>
      rw [generation_step_call]
      rw [get?_scans_step_call, clock_run] at known
      split at known
      · rename_i new
        obtain ⟨rfl, -⟩ := new
        cases known
        have untouched : Untouched (history ++ [.call probe]) history.length probe := by
          intro member
          rw [List.drop_left, List.mem_singleton] at member
          cases member
        exact ⟨Nat.le_refl _, fun _ => untouched, fun _ => rfl⟩
      · rw [untouched_append (Nat.le_of_lt (lt_of_recorded known))]
        simpa using ih known
    | finish ended scanned =>
      rw [generation_step_finish]
      have before : (run history).scans.get? number = some ticket := by
        rw [get?_scans_step_finish] at known
        split at known
        · cases known
        · exact known
      rw [untouched_append (Nat.le_of_lt (lt_of_recorded before))]
      simpa using ih before
    | invalidate probe =>
      have before : (run history).scans.get? number = some ticket := known
      obtain ⟨past, current⟩ := ih before
      rw [untouched_append (Nat.le_of_lt (lt_of_recorded before))]
      simp only [Course.step, ScanCache.generation_invalidate]
      by_cases same : ticket.id = probe
      · subst same
        rw [if_pos rfl]
        refine ⟨by omega, ?_, ?_⟩
        · intro equal
          omega
        · rintro ⟨-, other⟩
          exact absurd rfl other
      · rw [if_neg same]
        refine ⟨past, current.trans ⟨fun untouched => ⟨untouched, ?_⟩, And.left⟩⟩
        rintro ⟨⟩
        exact same rfl

/-- Every kept list is fresh. -/
theorem fresh_of_kept {list : α} (kept : (run history).cache.get? id = some list) :
    Fresh history id list := by
  induction history using List.reverseRecOn generalizing list with
  | nil => cases kept
  | append_singleton history event ih =>
    rw [run_append] at kept
    cases event with
    | call probe =>
      rw [get?_step_call] at kept
      exact fresh_append (ih kept) nofun
    | finish number scanned =>
      cases known : (run history).scans.get? number with
      | none =>
        rw [step_finish_of_ended known] at kept
        exact fresh_append (ih kept) nofun
      | some ticket =>
        rw [step_finish_of_underWay known] at kept
        rcases ScanCache.kept_before_finish kept with earlier | ⟨rfl, current, rfl⟩
        · exact fresh_append (ih earlier) nofun
        · -- The list is the one that the scan has ended with just now.
          have within : number ≤ history.length := Nat.le_of_lt (lt_of_recorded known)
          have untouched : Untouched history number ticket.id :=
            (current_iff_untouched known).2.mp current
          refine ⟨number, (untouched_append within).mpr ⟨untouched, nofun⟩, history.length, ?_, ?_⟩
          · exact List.getElem?_concat_length
          · rw [List.take_left]
            exact inFlight_of_recorded known
    | invalidate probe =>
      simp only [Course.step, ScanCache.get?_invalidate] at kept
      split at kept
      · cases kept
      · rename_i other
        refine fresh_append (ih kept) ?_
        rintro ⟨⟩
        exact other rfl

theorem lt_of_answered {result : Except ε α}
    (answered : (run history).answers.get? number = some result) : number < history.length := by
  induction history using List.reverseRecOn generalizing result with
  | nil => cases answered
  | append_singleton history event ih =>
    rw [run_append] at answered
    rw [List.length_append, List.length_singleton]
    cases event with
    | call probe =>
      cases kept : (run history).cache.get? probe with
      | some list =>
        rw [step_call_of_kept kept] at answered
        simp only [Table.get?_insert, clock_run] at answered
        split at answered
        · omega
        · exact Nat.lt_succ_of_lt (ih answered)
      | none =>
        rw [step_call_of_unknown kept] at answered
        exact Nat.lt_succ_of_lt (ih answered)
    | finish ended scanned =>
      cases known : (run history).scans.get? ended with
      | some ticket =>
        rw [step_finish_of_underWay known] at answered
        simp only [Table.get?_insert] at answered
        split at answered
        · rename_i same
          rw [same]
          exact Nat.lt_succ_of_lt (lt_of_recorded known)
        · exact Nat.lt_succ_of_lt (ih answered)
      | none =>
        rw [step_finish_of_ended known] at answered
        exact Nat.lt_succ_of_lt (ih answered)
    | invalidate probe => exact Nat.lt_succ_of_lt (ih answered)

/-- An answer to a call since the container was last declared stale is the list that is kept. -/
theorem kept_of_answered {list : α}
    (answered : (run history).answers.get? number = some (.ok list))
    (called : history[number]? = some (.call id)) (untouched : Untouched history number id) :
    (run history).cache.get? id = some list := by
  induction history using List.reverseRecOn generalizing list with
  | nil => cases answered
  | append_singleton history event ih =>
    -- Up to the last event, an earlier answer is the list that is kept.
    have earlier : ∀ {list : α}, (run history).answers.get? number = some (.ok list) →
        (run history).cache.get? id = some list ∧ event ≠ .invalidate id := by
      intro list answered
      have within : number < history.length := lt_of_answered answered
      rw [List.getElem?_append_left within] at called
      rw [untouched_append (Nat.le_of_lt within)] at untouched
      exact ⟨ih answered called untouched.1, untouched.2⟩
    rw [run_append] at answered ⊢
    cases event with
    | call probe =>
      rw [get?_step_call]
      cases kept : (run history).cache.get? probe with
      | some first =>
        rw [step_call_of_kept kept] at answered
        simp only [Table.get?_insert, clock_run] at answered
        split at answered
        · rename_i last
          rw [last, List.getElem?_concat_length] at called
          cases called
          cases answered
          exact kept
        · exact (earlier answered).1
      | none =>
        rw [step_call_of_unknown kept] at answered
        exact (earlier answered).1
    | finish ended scanned =>
      cases known : (run history).scans.get? ended with
      | none =>
        rw [step_finish_of_ended known] at answered ⊢
        exact (earlier answered).1
      | some ticket =>
        rw [step_finish_of_underWay known] at answered ⊢
        simp only [Table.get?_insert] at answered
        split at answered
        · rename_i same
          subst same
          have within : number < history.length := lt_of_recorded known
          have begun : history[number]? = some (.call ticket.id) :=
            (inFlight_of_recorded known).1.1
          rw [List.getElem?_append_left within, begun] at called
          cases called
          rw [untouched_append (Nat.le_of_lt within)] at untouched
          have current := (current_iff_untouched known).2.mpr untouched.1
          exact ScanCache.kept_of_answer current (Option.some.inj answered)
        · exact ScanCache.kept_finish (earlier answered).1 ticket scanned
    | invalidate probe =>
      obtain ⟨kept, other⟩ := earlier answered
      simp only [Course.step, ScanCache.get?_invalidate]
      rw [if_neg, kept]
      rintro rfl
      exact other rfl

theorem nodup_keys_scans (history : List (Event ε α)) : (run history).scans.keys.Nodup := by
  induction history using List.reverseRecOn with
  | nil => exact List.nodup_nil
  | append_singleton history event ih =>
    rw [run_append]
    cases event with
    | call probe =>
      cases kept : (run history).cache.get? probe with
      | some list =>
        rw [step_call_of_kept kept]
        exact ih
      | none =>
        rw [step_call_of_unknown kept]
        exact Table.nodup_keys_insert ih _ _
    | finish ended scanned =>
      cases known : (run history).scans.get? ended with
      | some ticket =>
        rw [step_finish_of_underWay known]
        exact Table.nodup_keys_erase ih _
      | none =>
        rw [step_finish_of_ended known]
        exact ih
    | invalidate probe => exact ih

/-- The cache counts the scans under way. -/
theorem counts_run (history : List (Event ε α)) (id : String) :
    (run history).cache.Counts id ((run history).scans.values.countP (·.id = id)) := by
  induction history using List.reverseRecOn with
  | nil => rfl
  | append_singleton history event ih =>
    rw [run_append]
    cases event with
    | call probe =>
      cases kept : (run history).cache.get? probe with
      | some list =>
        rw [step_call_of_kept kept]
        exact ih
      | none =>
        rw [step_call_of_unknown kept, Table.values_insert_of_fresh (scans_next history), List.countP_append,
          List.countP_singleton]
        have counted := ScanCache.counts_begin ih probe
        by_cases same : id = probe
        · subst same
          simpa [ScanCache.begin] using counted
        · simpa [ScanCache.begin, same, Ne.symm same] using counted
    | finish ended scanned =>
      cases known : (run history).scans.get? ended with
      | some ticket =>
        rw [step_finish_of_underWay known]
        have counted := ScanCache.counts_finish ih ticket scanned
        rw [Table.countP_values_erase (nodup_keys_scans history) known] at counted
        by_cases same : id = ticket.id
        · simpa [same] using counted
        · simpa [same, Ne.symm same] using counted
      | none =>
        rw [step_finish_of_ended known]
        exact ih
    | invalidate probe => exact ih

theorem resolving_iff_inFlight (history : List (Event ε α)) (id : String) :
    (run history).cache.state id = .resolving ↔
      (run history).cache.get? id = none ∧ ∃ number, InFlight history number id := by
  rw [ScanCache.state_eq_resolving (counts_run history id)]
  refine and_congr_right fun _ => ?_
  calc (run history).scans.values.countP (·.id = id) ≠ 0
    _ ↔ ∃ ticket ∈ (run history).scans.values, ticket.id = id := by
      rw [← Nat.pos_iff_ne_zero, List.countP_pos_iff]
      simp
    _ ↔ ∃ number ticket, (run history).scans.get? number = some ticket ∧ ticket.id = id := by
      simp only [Table.mem_values (nodup_keys_scans history)]
      constructor
      · rintro ⟨ticket, ⟨number, known⟩, same⟩
        exact ⟨number, ticket, known, same⟩
      · rintro ⟨number, ticket, known, same⟩
        exact ⟨ticket, ⟨number, known⟩, same⟩
    _ ↔ ∃ number, InFlight history number id := exists_congr fun _ => recorded_iff_inFlight

end Invariants

/-- What the cache promises about a history. The calls for a container since it was last declared stale
that were answered with a list were answered with the same list; where it has been declared stale again
since, the promise is that of the history up to then. -/
structure Coherent (history : List (Event ε α)) : Prop where
  fresh : ∀ id list, (run history).cache.get? id = some list → Fresh history id list
  agreed : ∀ id first second list other,
    history[first]? = some (.call id) → Untouched history first id →
    history[second]? = some (.call id) → Untouched history second id →
    (run history).answers.get? first = some (.ok list) →
    (run history).answers.get? second = some (.ok other) → list = other
  tracked : ∀ id, (run history).cache.state id = .resolving ↔
    (run history).cache.get? id = none ∧ ∃ number, InFlight history number id

/-- Whatever calls, ends of scans and declarations happen in whatever order, the cache keeps its
promises. -/
theorem every_history_is_coherent (history : List (Event ε α)) : Coherent history where
  fresh := fun _ _ kept => fresh_of_kept kept
  agreed := by
    intro id first second list other called untouched calledAgain untouchedAgain answered answeredAgain
    have kept : (run history).cache.get? id = some list :=
      kept_of_answered answered called untouched
    have keptAgain : (run history).cache.get? id = some other :=
      kept_of_answered answeredAgain calledAgain untouchedAgain
    exact Option.some.inj (kept.symm.trans keptAgain)
  tracked := resolving_iff_inFlight history

/-- Two scans overlap, and the container is declared stale after the later one has ended. The earlier
one is answered with what it found, which is not kept, while a third scan is under way. -/
example :
    let after : Course String Nat := run [.call "shop", .call "shop", .finish 1 (.ok 7),
      .invalidate "shop", .call "shop", .finish 0 (.ok 8)]
    after.answers.get? 0 = some (.ok 8) ∧ after.answers.get? 1 = some (.ok 7) ∧
      after.cache.get? "shop" = none ∧ after.cache.state "shop" = .resolving := by
  decide

end Crosscut.OverlappingScans
