import Crosscut.Advice.Signature
import Mathlib.Data.List.Nodup

/-! What each parameter of an advice method receives. The slots of a checked signature stand in the
order of the parameters of the method: the handle on the call first, where there is one, then for
each listed parameter the outcome of the call or the next pointcut parameter. A slot leads to a
parameter of the listed name and of the type that the method declares at its position. Which slot
the outcome goes to is decided by name, so a name that is listed twice may reserve two. -/
namespace Crosscut.SlotLayout
open AdviceSignature

variable {v : Vocabulary} {kind : AdviceKind} {a : Annotation} {m : Method} {s : AdviceSignature}

/-- The number of parameters in front of the bindable ones: one for the handle on the call. -/
def handles (v : Vocabulary) (kind : AdviceKind) (m : Method) : Nat :=
  ((takesJoinPoint v kind m).toOption.getD false).toNat

/-- The parameters of an advice method behind the handle on the call. -/
def bindable (v : Vocabulary) (kind : AdviceKind) (m : Method) : List (Parameter HostType) :=
  m.parameters.drop (handles v kind m)

/-- The names of these parameters: those the annotation lists, or else those of the method. -/
def listedNames (v : Vocabulary) (kind : AdviceKind) (a : Annotation) (m : Method) : List String :=
  (argNames? a).getD ((bindable v kind m).map (·.name))

/-- Whether the first parameter of an advice method goes by the name of a handle on the call. -/
def startsWithHandle (v : Vocabulary) (m : Method) : Bool :=
  startsWith m v.joinPoint || startsWith m v.proceedingJoinPoint

/-- The name that an annotation reserves for the outcome, where the kind of advice can receive one. -/
def outcomeName? (kind : AdviceKind) (a : Annotation) : Option String :=
  kind.role?.bind (reservedName? a)

/-- A signature comes from the listed parameters and the one among them that is reserved. -/
structure DerivedFrom (v : Vocabulary) (kind : AdviceKind) (a : Annotation) (m : Method)
    (s : AdviceSignature) (bindings : List Binding) (reserved : Option Reservation) : Prop where
  ofKind : s.kind = kind
  fromList : listed a m (bindable v kind m) = .ok bindings
  fromName : reservation a kind m bindings = .ok reserved
  parameters : s.parameters = bindings.filter (!Reservation.takes reserved ·)
  slots : s.slots = List.replicate (handles v kind m) .joinPoint ++ Slot.layout reserved 0 bindings
  received : s.received = reserved.bind fun r =>
    ((bindings.filter (Reservation.takes reserved ·)).getLast?).map (r.role, ·)

theorem derivedFrom_of_derive (derived : derive v kind a m = .ok s) :
    ∃ bindings reserved, DerivedFrom v kind a m s bindings reserved := by
  unfold derive at derived
  split at derived
  · cases derived
  · split at derived
    · cases derived
    · rename_i handle takes
      have counted : handles v kind m = handle.toNat := by
        simp [handles, takes, Except.toOption]
      split at derived
      · cases derived
      · rename_i bindings known
        split at derived
        · cases derived
        · rename_i reserved chosen
          cases derived
          refine ⟨bindings, reserved, rfl, ?_, chosen, rfl, ?_, rfl⟩
          · rwa [bindable, counted]
          · rw [counted]

/-- An accepted advice method takes a handle on the call exactly if its first parameter goes by the name
of one. -/
theorem handles_of_derive (derived : derive v kind a m = .ok s) :
    handles v kind m = (startsWithHandle v m).toNat := by
  have takes : takesJoinPoint v kind m = .ok (startsWithHandle v m) := by
    unfold derive at derived
    split at derived
    · cases derived
    · split at derived
      · cases derived
      · rename_i handle known
        rw [known]
        unfold takesJoinPoint at known
        unfold startsWithHandle
        cases proceeding : startsWith m v.proceedingJoinPoint with
        | true =>
          simp only [proceeding, ↓reduceIte] at known
          split at known
          · cases known
            rw [Bool.or_true]
          · cases known
        | false =>
          simp only [proceeding, Bool.false_eq_true, ↓reduceIte] at known
          split at known
          · cases known
          · cases known
            rw [Bool.or_false]
  simp only [handles, takes, Except.toOption, Option.getD_some]

/-- The handle on the call is one of the parameters. -/
theorem handles_le (v : Vocabulary) (kind : AdviceKind) (m : Method) :
    handles v kind m ≤ m.parameters.length := by
  unfold handles
  cases known : takesJoinPoint v kind m with
  | error e => exact Nat.zero_le _
  | ok handle =>
    cases handle with
    | false => exact Nat.zero_le _
    | true =>
      have first : ∃ name, startsWith m name = true := by
        unfold takesJoinPoint at known
        dsimp only at known
        split at known
        · split at known
          · rename_i proceeding
            exact ⟨_, proceeding⟩
          · cases known
        · split at known
          · cases known
          · exact ⟨_, Except.ok.inj known⟩
      obtain ⟨name, starts⟩ := first
      cases parameters : m.parameters with
      | nil => simp [startsWith, parameters] at starts
      | cons p rest => exact Nat.succ_le_succ (Nat.zero_le _)

/-- The listed parameters have the listed names and the types that the method declares. -/
theorem parts_of_listed {ps : List (Parameter HostType)} {bindings : List Binding}
    (known : listed a m ps = .ok bindings) :
    bindings.map (·.name) = (argNames? a).getD (ps.map (·.name)) ∧
      bindings.map (·.declaredType) = ps.map (·.type) := by
  unfold listed at known
  dsimp only at known
  split at known
  · rename_i long
    cases known
    generalize (argNames? a).getD (ps.map (·.name)) = names at long ⊢
    rw [← List.map_uncurry_zip_eq_zipWith, List.map_map, List.map_map]
    constructor
    · exact List.map_fst_zip (Nat.le_of_eq long)
    · calc (names.zip ps).map (fun pair => pair.2.type)
        _ = ((names.zip ps).map Prod.snd).map (·.type) := List.map_map.symm
        _ = ps.map (·.type) := by rw [List.map_snd_zip (Nat.le_of_eq long.symm)]
  · cases known

/-- The reserved parameter receives what the kind of advice can receive. -/
theorem role_of_reservation {bindings : List Binding} {r : Reservation}
    (chosen : reservation a kind m bindings = .ok (some r)) : kind.role? = some r.role := by
  unfold reservation at chosen
  split at chosen
  · cases chosen
  · rename_i role known
    split at chosen
    · cases chosen
    · split at chosen
      · cases chosen
        exact known
      · cases chosen

/-- The reserved parameter has the name that the annotation reserves. -/
theorem name_of_reservation {bindings : List Binding} {reserved : Option Reservation}
    (chosen : reservation a kind m bindings = .ok reserved) :
    reserved.map (·.name) = outcomeName? kind a := by
  unfold reservation at chosen
  unfold outcomeName?
  split at chosen
  · rename_i none
    cases chosen
    rw [none]
    rfl
  · rename_i role known
    rw [known, Option.bind_some]
    split at chosen
    · rename_i none
      cases chosen
      exact none.symm
    · rename_i name named
      split at chosen
      · cases chosen
        exact named.symm
      · cases chosen

section Layout

variable {reserved : Option Reservation} {bindings : List Binding}

@[simp] theorem length_layout (next : Nat) :
    (Slot.layout reserved next bindings).length = bindings.length := by
  induction bindings generalizing next with
  | nil => rfl
  | cons b rest ih =>
    unfold Slot.layout
    split
    · split <;> simp [ih]
    · simp [ih]

/-- A listed parameter of the reserved name has the slot of the outcome. -/
theorem layout_taken {first : Binding} (taken : Reservation.takes reserved first = true)
    (next : Nat) (rest : List Binding) :
    ∃ r, reserved = some r ∧ r.name = first.name ∧
      Slot.layout reserved next (first :: rest) = .outcome r.role :: Slot.layout reserved next rest := by
  obtain ⟨r, rfl, named⟩ := (Option.any_eq_true _ _).mp taken
  exact ⟨r, rfl, by simpa using named, by simp [Slot.layout, named]⟩

/-- Every other listed parameter has the slot of the next pointcut parameter. -/
theorem layout_kept {first : Binding} (kept : Reservation.takes reserved first = false)
    (next : Nat) (rest : List Binding) :
    Slot.layout reserved next (first :: rest) =
      .pointcut next :: Slot.layout reserved (next + 1) rest := by
  cases reserved with
  | none => rfl
  | some r =>
    have other : (r.name == first.name) = false := kept
    simp [Slot.layout, other]

/-- A layout goes on with the next pointcut parameter where it was left. -/
theorem layout_append (next : Nat) (others : List Binding) :
    Slot.layout reserved next (bindings ++ others) =
      Slot.layout reserved next bindings ++
        Slot.layout reserved (next + bindings.countP (!Reservation.takes reserved ·)) others := by
  induction bindings generalizing next with
  | nil => rfl
  | cons first rest ih =>
    cases taken : Reservation.takes reserved first with
    | true =>
      obtain ⟨r, rfl, named⟩ := (Option.any_eq_true _ _).mp taken
      simp [Slot.layout, named, taken, ih]
    | false =>
      rw [List.cons_append, layout_kept taken, layout_kept taken, ih, List.cons_append,
        List.countP_cons_of_pos (by simp [taken]), Nat.add_right_comm next, Nat.add_assoc next]

/-- The slot of a listed parameter: the outcome if it has the reserved name, and otherwise the pointcut
parameter behind as many others as are listed before it. -/
theorem slot_of_listed {j : Nat} {b : Binding} (listed : bindings[j]? = some b) (next : Nat) :
    (∃ r, reserved = some r ∧ r.name = b.name ∧
        (Slot.layout reserved next bindings)[j]? = some (.outcome r.role)) ∨
      Reservation.takes reserved b = false ∧
        (Slot.layout reserved next bindings)[j]? =
          some (.pointcut (next + (bindings.take j).countP (!Reservation.takes reserved ·))) ∧
        (bindings.filter (!Reservation.takes reserved ·))[(bindings.take j).countP
          (!Reservation.takes reserved ·)]? = some b := by
  obtain ⟨within, here⟩ := List.getElem?_eq_some_iff.mp listed
  have cut : bindings = bindings.take j ++ b :: bindings.drop (j + 1) := by
    rw [← here, List.getElem_cons_drop, List.take_append_drop]
  have before : (bindings.take j).length = j := List.length_take_of_le (Nat.le_of_lt within)
  have laid : (Slot.layout reserved next bindings)[j]? =
      (Slot.layout reserved (next + (bindings.take j).countP (!Reservation.takes reserved ·))
        (b :: bindings.drop (j + 1)))[0]? := by
    have long : (Slot.layout reserved next (bindings.take j)).length = j :=
      (length_layout next).trans before
    conv_lhs => rw [cut, layout_append]
    rw [List.getElem?_append_right (Nat.le_of_eq long), long, Nat.sub_self]
  rw [laid]
  cases taken : Reservation.takes reserved b with
  | true =>
    obtain ⟨r, chosen, named, first⟩ := layout_taken taken
      (next + (bindings.take j).countP (!Reservation.takes reserved ·)) (bindings.drop (j + 1))
    exact .inl ⟨r, chosen, named, by rw [first]; rfl⟩
  | false =>
    refine .inr ⟨rfl, by rw [layout_kept taken]; rfl, ?_⟩
    conv_lhs => rw [cut, List.filter_append, List.filter_cons_of_pos (by simp [taken])]
    rw [← cut, List.countP_eq_length_filter, List.getElem?_append_right (Nat.le_refl _), Nat.sub_self]
    rfl

/-- A slot is the outcome where the listed parameter has the reserved name, and otherwise leads to
the listed parameter among those that are not reserved. -/
theorem slot_of_layout {next j : Nat} {slot : Slot}
    (found : (Slot.layout reserved next bindings)[j]? = some slot) :
    ∃ b, bindings[j]? = some b ∧
      ((∃ r, reserved = some r ∧ r.name = b.name ∧ slot = .outcome r.role) ∨
        ∃ k, slot = .pointcut (next + k) ∧
          (bindings.filter (!Reservation.takes reserved ·))[k]? = some b) := by
  have within : j < bindings.length := by
    rw [← @length_layout reserved bindings next]
    exact (List.getElem?_eq_some_iff.mp found).1
  have listed : bindings[j]? = some bindings[j] := List.getElem?_eq_getElem within
  refine ⟨bindings[j], listed, ?_⟩
  rcases slot_of_listed listed next with ⟨r, chosen, named, laid⟩ | ⟨-, laid, kept⟩
  · exact .inl ⟨r, chosen, named, Option.some.inj (found.symm.trans laid)⟩
  · exact .inr ⟨_, Option.some.inj (found.symm.trans laid), kept⟩

/-- Each listed parameter that is not reserved has exactly one slot. -/
theorem existsUnique_slot {next k : Nat} {b : Binding}
    (known : (bindings.filter (!Reservation.takes reserved ·))[k]? = some b) :
    ∃! j : Nat, (Slot.layout reserved next bindings)[j]? = some (.pointcut (next + k)) := by
  induction bindings generalizing next k with
  | nil => simp at known
  | cons first rest ih =>
    cases taken : Reservation.takes reserved first with
    | true =>
      obtain ⟨r, -, -, laid⟩ := layout_taken taken next rest
      rw [List.filter_cons_of_neg (by simp [taken])] at known
      rw [laid]
      have below : ∃! j : Nat, (Slot.layout reserved next rest)[j]? = some (.pointcut (next + k)) :=
        ih known
      obtain ⟨j, at_j, alone⟩ := below
      refine ⟨j + 1, at_j, fun other found => ?_⟩
      cases other with
      | zero => cases found
      | succ other => rw [alone other found]
    | false =>
      rw [List.filter_cons_of_pos (by simp [taken])] at known
      rw [layout_kept taken]
      cases k with
      | zero =>
        refine ⟨0, rfl, fun other found => ?_⟩
        cases other with
        | zero => rfl
        | succ other =>
          -- The slots further back lead to later parameters.
          obtain ⟨-, -, ⟨_, -, -, outcome⟩ | ⟨later, leads, -⟩⟩ := slot_of_layout (j := other) found
          · cases outcome
          · simp only [Slot.pointcut.injEq] at leads
            omega
      | succ k =>
        have shifted : next + 1 + k = next + (k + 1) := by omega
        have below : ∃! j : Nat, (Slot.layout reserved (next + 1) rest)[j]? =
            some (.pointcut (next + (k + 1))) := shifted ▸ ih known
        obtain ⟨j, at_j, alone⟩ := below
        refine ⟨j + 1, at_j, fun other found => ?_⟩
        cases other with
        | zero =>
          simp only [List.getElem?_cons_zero, Option.some.injEq, Slot.pointcut.injEq] at found
          omega
        | succ other => rw [alone other found]

theorem count_outcome_layout (role : OutcomeRole) (next : Nat) :
    (Slot.layout reserved next bindings).count (.outcome role) =
      if reserved.any (·.role = role) then bindings.countP (Reservation.takes reserved ·) else 0 := by
  induction bindings generalizing next with
  | nil => simp [Slot.layout]
  | cons first rest ih =>
    cases taken : Reservation.takes reserved first with
    | true =>
      obtain ⟨r, rfl, -, laid⟩ := layout_taken taken next rest
      rw [laid, List.count_cons, ih, List.countP_cons_of_pos taken]
      by_cases same : r.role = role <;> simp [same]
    | false =>
      have kept : ¬ Reservation.takes reserved first = true := by simp [taken]
      rw [layout_kept taken, List.count_cons, ih, List.countP_cons_of_neg kept]
      simp

/-- Whether a listed parameter is the reserved one is a question of its name. -/
theorem takes_congr {b other : Binding} (same : b.name = other.name) :
    Reservation.takes reserved b = Reservation.takes reserved other := by
  simp only [Reservation.takes, same]

/-- All names are distinct exactly when those that are not reserved are, and at most one parameter has
the reserved name. -/
theorem nodup_names_iff :
    (bindings.map (·.name)).Nodup ↔
      ((bindings.filter (!Reservation.takes reserved ·)).map (·.name)).Nodup ∧
        bindings.countP (Reservation.takes reserved ·) ≤ 1 := by
  induction bindings with
  | nil => simp
  | cons first rest ih =>
    rw [List.map_cons, List.nodup_cons, ih]
    cases taken : Reservation.takes reserved first with
    | true =>
      have alone : first.name ∉ rest.map (·.name) ↔
          rest.countP (Reservation.takes reserved ·) = 0 := by
        obtain ⟨r, rfl, named⟩ := (Option.any_eq_true _ _).mp taken
        have same : r.name = first.name := by simpa using named
        simp only [List.countP_eq_zero, Reservation.takes, Option.any_some, ← same, List.mem_map,
          not_exists, not_and, beq_iff_eq]
        exact forall₂_congr fun b _ => not_congr eq_comm
      rw [alone]
      simp only [taken, List.filter_cons, List.countP_cons, Bool.not_true, Bool.false_eq_true,
        ↓reduceIte]
      constructor
      · rintro ⟨none, distinct, -⟩
        exact ⟨distinct, by omega⟩
      · rintro ⟨distinct, once⟩
        exact ⟨by omega, distinct, by omega⟩
    | false =>
      have alone : first.name ∉ rest.map (·.name) ↔
          first.name ∉ (rest.filter (!Reservation.takes reserved ·)).map (·.name) := by
        refine not_congr ⟨fun member => ?_, fun member => ?_⟩
        · obtain ⟨b, listed, same⟩ := List.mem_map.mp member
          have kept : b ∈ rest.filter (!Reservation.takes reserved ·) :=
            List.mem_filter.mpr ⟨listed, by rw [takes_congr same, taken]; rfl⟩
          exact List.mem_map.mpr ⟨b, kept, same⟩
        · obtain ⟨b, kept, same⟩ := List.mem_map.mp member
          exact List.mem_map.mpr ⟨b, (List.mem_filter.mp kept).1, same⟩
      rw [alone]
      simp only [taken, List.filter_cons, List.countP_cons, Bool.not_false, ↓reduceIte,
        List.map_cons, List.nodup_cons, Bool.false_eq_true, Nat.add_zero, and_assoc]

end Layout

/-- A listed parameter that bears a name is the only one, where no name is listed twice. -/
theorem eq_of_name {bindings : List Binding} (distinct : (bindings.map (·.name)).Nodup)
    {b other : Binding} (listed : b ∈ bindings) (otherListed : other ∈ bindings)
    (same : b.name = other.name) : b = other :=
  List.inj_on_of_nodup_map distinct listed otherListed same

variable {bindings : List Binding} {reserved : Option Reservation}

namespace DerivedFrom

theorem names (d : DerivedFrom v kind a m s bindings reserved) :
    bindings.map (·.name) = listedNames v kind a m :=
  (parts_of_listed d.fromList).1

theorem types (d : DerivedFrom v kind a m s bindings reserved) :
    bindings.map (·.declaredType) = (bindable v kind m).map (·.type) :=
  (parts_of_listed d.fromList).2

/-- There is one slot for each parameter of the method. -/
theorem length_slots (d : DerivedFrom v kind a m s bindings reserved) :
    s.slots.length = m.parameters.length := by
  have long : bindings.length = m.parameters.length - handles v kind m := by
    have types := congrArg List.length d.types
    simpa [bindable] using types
  have within := handles_le v kind m
  rw [d.slots, List.length_append, List.length_replicate, length_layout, long]
  omega

/-- Each pointcut parameter goes to exactly one parameter of the method. -/
theorem existsUnique_slot (d : DerivedFrom v kind a m s bindings reserved) {k : Nat} {b : Binding}
    (known : s.parameters[k]? = some b) : ∃! j : Nat, s.slots[j]? = some (.pointcut k) := by
  rw [d.parameters] at known
  have laid : ∃! j : Nat, (Slot.layout reserved 0 bindings)[j]? = some (.pointcut (0 + k)) :=
    SlotLayout.existsUnique_slot known
  rw [Nat.zero_add] at laid
  obtain ⟨j, at_j, alone⟩ := laid
  rw [d.slots]
  refine ⟨handles v kind m + j, ?_, fun other found => ?_⟩
  · dsimp only
    rw [List.getElem?_append_right (by simp), List.length_replicate, Nat.add_sub_cancel_left]
    exact at_j
  · dsimp only at found
    rw [List.getElem?_append, List.length_replicate, List.getElem?_replicate] at found
    split at found
    · cases found
    · rename_i behind
      have same : other - handles v kind m = j := alone _ found
      omega

/-- The outcome goes to at most one parameter of the method exactly when at most one of the listed
parameters has the reserved name. -/
theorem outcomes_le_one_iff (d : DerivedFrom v kind a m s bindings reserved) :
    (∀ role, s.slots.count (.outcome role) ≤ 1) ↔
      bindings.countP (Reservation.takes reserved ·) ≤ 1 := by
  have counted : ∀ role, s.slots.count (.outcome role) =
      if reserved.any (·.role = role) then bindings.countP (Reservation.takes reserved ·) else 0 := by
    intro role
    rw [d.slots, List.count_append, count_outcome_layout, List.count_replicate]
    exact Nat.zero_add _
  simp only [counted]
  constructor
  · intro once
    cases reserved with
    | none => simp [Reservation.takes]
    | some r => simpa using once r.role
  · intro once role
    split
    · exact once
    · exact Nat.zero_le 1

/-- What a slot that is not for the handle on the call stands for: a listed parameter of the type
that the method declares at its position. Without repeated names, the outcome goes to the parameter
that is checked against it. -/
theorem serves (d : DerivedFrom v kind a m s bindings reserved) {j : Nat} {slot : Slot}
    {p : Parameter HostType} (found : s.slots[j]? = some slot) (declared : m.parameters[j]? = some p) :
    slot = .joinPoint ∨ ∃ b, b.declaredType = p.type ∧
      ((∃ k, slot = .pointcut k ∧ s.parameters[k]? = some b) ∨
        ∃ role, slot = .outcome role ∧ kind.role? = some role ∧
          ((listedNames v kind a m).Nodup → s.received = some (role, b))) := by
  rw [d.slots, List.getElem?_append, List.length_replicate] at found
  split at found
  · rename_i before
    left
    rw [List.getElem?_replicate, if_pos before] at found
    exact (Option.some.inj found).symm
  · rename_i behind
    right
    obtain ⟨b, known, serves⟩ := slot_of_layout found
    have typed : b.declaredType = p.type := by
      have types := congrArg (·[j - handles v kind m]?) d.types
      simp only [List.getElem?_map, known, Option.map_some, bindable, List.getElem?_drop] at types
      rw [Nat.add_sub_cancel' (Nat.le_of_not_lt behind), declared] at types
      exact Option.some.inj types
    refine ⟨b, typed, ?_⟩
    rcases serves with ⟨r, chosen, named, rfl⟩ | ⟨k, rfl, known⟩
    · right
      subst chosen
      refine ⟨r.role, rfl, role_of_reservation d.fromName, fun distinct => ?_⟩
      -- The parameter that is checked is the last one of the reserved name, so it is this one.
      have listed : b ∈ bindings := List.mem_of_getElem? known
      have taken : b ∈ bindings.filter (Reservation.takes (some r) ·) :=
        List.mem_filter.mpr ⟨listed, by simpa [Reservation.takes] using named⟩
      obtain ⟨last, ends⟩ : ∃ last, (bindings.filter (Reservation.takes (some r) ·)).getLast? =
          some last :=
        ⟨_, List.getLast?_eq_some_getLast (List.ne_nil_of_mem taken)⟩
      obtain ⟨lastListed, lastTaken⟩ := List.mem_filter.mp (List.mem_of_getLast? ends)
      have sameName : last.name = b.name := by
        have lastNamed : r.name = last.name := by simpa [Reservation.takes] using lastTaken
        rw [← lastNamed, named]
      have same : last = b := eq_of_name (d.names ▸ distinct) lastListed listed sameName
      rw [d.received, Option.bind_some, ends, same]
      rfl
    · left
      rw [Nat.zero_add]
      exact ⟨k, rfl, d.parameters ▸ known⟩

end DerivedFrom

section Slots

variable (d : DerivedFrom v kind a m s bindings reserved)
include d

/-- Whether a listed parameter is the reserved one is told by the reserved name. -/
theorem takes_iff (b : Binding) :
    Reservation.takes reserved b = true ↔ outcomeName? kind a = some b.name := by
  rw [← name_of_reservation d.fromName]
  cases reserved <;> simp [Reservation.takes]

/-- A parameter behind the handle on the call is listed under a name. -/
theorem listed_of_parameter {j : Nat} {p : Parameter HostType}
    (declared : m.parameters[handles v kind m + j]? = some p) :
    ∃ name, (listedNames v kind a m)[j]? = some name ∧
      bindings[j]? = some ⟨name, p.type⟩ := by
  have types := congrArg (·[j]?) d.types
  simp only [List.getElem?_map, bindable, List.getElem?_drop, declared, Option.map_some] at types
  obtain ⟨⟨name, type⟩, listed, rfl⟩ := Option.map_eq_some_iff.mp types
  refine ⟨name, ?_, listed⟩
  rw [← d.names, List.getElem?_map, listed]
  rfl

/-- The slots behind the handle on the call are those of the listed parameters. -/
theorem slot_behind (j : Nat) :
    s.slots[handles v kind m + j]? = (Slot.layout reserved 0 bindings)[j]? := by
  rw [d.slots, List.getElem?_append_right (by simp), List.length_replicate, Nat.add_sub_cancel_left]

/-- The handle on the call has the slots in front of the listed parameters. -/
theorem slot_eq_joinPoint (j : Nat) :
    s.slots[j]? = some .joinPoint ↔ j < handles v kind m := by
  rw [d.slots, List.getElem?_append, List.length_replicate]
  split
  · rename_i before
    simp [before]
  · rename_i behind
    refine ⟨fun laid => ?_, fun before => absurd before behind⟩
    obtain ⟨-, -, ⟨_, -, -, other⟩ | ⟨_, other, -⟩⟩ := slot_of_layout laid <;> cases other

end Slots

end Crosscut.SlotLayout
