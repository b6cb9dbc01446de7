import Crosscut.Proofs.SlotLayout
import Crosscut.Proofs.TextLists

/-! Which methods are accepted as advice, and what is made of them. The rules are stated of the
annotation and of the method as they are written: some text gives the pointcut, the first parameter is
the handle that lets the call proceed for around advice and for no other, the names are as many as the
parameters behind the handle, and a name that is reserved for the outcome is one of them. Nothing else
is asked. In an accepted signature every parameter of the method has one slot, the pointcut parameters
are numbered in the order of their slots, and a slot is for the outcome exactly where the reserved name
is listed. -/
namespace Crosscut.AdviceValidation
open AdviceSignature SlotLayout TextLists

/-- A text attribute that holds more than white space. -/
def Gives (a : Annotation) (key text : String) : Prop :=
  a.text? key = some text ∧ ¬ Blank text.toList

/-- The pointcut of an annotation is its attribute `pointcut`, or else `value`, without the white space
around it. -/
inductive PointcutIs (a : Annotation) : String → Prop
  | pointcut {text : String} (given : Gives a "pointcut" text) : PointcutIs a (Text.trim text)
  | value {text : String} (absent : ∀ other, ¬ Gives a "pointcut" other)
      (given : Gives a "value" text) : PointcutIs a (Text.trim text)

/-- A method has a first parameter whose type, or a supertype of it, bears a name. A name of one segment
is borne by every type of that simple name. -/
def StartsWith (m : Method) (name : String) : Prop :=
  ∃ p, m.parameters.head? = some p ∧ ∃ t ∈ p.type.hierarchy,
    t.name = name ∨ Text.isQualified name = false ∧ t.simpleName = name

/-- The first parameter of a method is a handle on the call. -/
def TakesHandle (v : Vocabulary) (m : Method) : Prop :=
  StartsWith m v.joinPoint ∨ StartsWith m v.proceedingJoinPoint

theorem startsWith_iff (m : Method) (name : String) :
    startsWith m name = true ↔ StartsWith m name := by
  unfold startsWith StartsWith
  rw [Option.any_eq_true]
  refine exists_congr fun p => and_congr_right fun _ => ?_
  rw [HostType.goesBy, HostType.anyName_eq, List.any_eq_true]
  simp [HostType.simpleName]

instance (m : Method) (name : String) : Decidable (StartsWith m name) :=
  decidable_of_iff _ (startsWith_iff m name)

instance (v : Vocabulary) (m : Method) : Decidable (TakesHandle v m) :=
  inferInstanceAs (Decidable (_ ∨ _))

/-- The number of parameters in front of those that have names to be bound. -/
def inFront (v : Vocabulary) (m : Method) : Nat :=
  if TakesHandle v m then 1 else 0

/-- The names of the parameters behind the handle: those of a list with commas, where the annotation
gives one, and else those in the declaration of the method. -/
inductive NamesAre (v : Vocabulary) (a : Annotation) (m : Method) : List String → Prop
  | listed {text : String} {names : List String} (given : Gives a "argNames" text)
      (items : Separated (names.map (·.toList)) text.toList) : NamesAre v a m names
  | declared (absent : ∀ text, ¬ Gives a "argNames" text) :
      NamesAre v a m ((m.parameters.drop (inFront v m)).map (·.name))

/-- An annotation reserves a name for what its kind of advice receives of the outcome. -/
def Reserves (kind : AdviceKind) (a : Annotation) (role : OutcomeRole) (name : String) : Prop :=
  kind.role? = some role ∧ ∃ text, Gives a role.word text ∧ Text.trim text = name

/-- The number of the pointcut parameter that a slot is for. -/
def number? : Slot → Option Nat
  | .pointcut k => some k
  | _ => none

/-- What is asked of an advice method. -/
structure Acceptable (v : Vocabulary) (kind : AdviceKind) (a : Annotation) (m : Method)
    (names : List String) : Prop where
  pointcut : ∃ text, PointcutIs a text
  proceeding : StartsWith m v.proceedingJoinPoint ↔ kind = .around
  named : inFront v m + names.length = m.parameters.length
  reserved : ∀ role name, Reserves kind a role name → name ∈ names

/-- What is known of an accepted signature. -/
structure LaidOut (v : Vocabulary) (kind : AdviceKind) (a : Annotation) (m : Method)
    (names : List String) (s : AdviceSignature) : Prop where
  ofKind : s.kind = kind
  text : PointcutIs a s.pointcut
  arity : s.slots.length = m.parameters.length
  handle : ∀ j : Nat, s.slots[j]? = some .joinPoint ↔ j = 0 ∧ TakesHandle v m
  numbers : s.slots.filterMap number? = List.range s.parameters.length
  bound : ∀ j k : Nat, s.slots[j]? = some (.pointcut k) → ∃ i name p,
    j = inFront v m + i ∧ names[i]? = some name ∧ m.parameters[j]? = some p ∧
      s.parameters[k]? = some ⟨name, p.type⟩
  outcome : ∀ (j : Nat) role, s.slots[j]? = some (.outcome role) ↔ ∃ i name,
    j = inFront v m + i ∧ names[i]? = some name ∧ Reserves kind a role name

variable {v : Vocabulary} {kind : AdviceKind} {a : Annotation} {m : Method} {s : AdviceSignature}
  {names : List String} {key text : String}

theorem startsWithHandle_iff : startsWithHandle v m = true ↔ TakesHandle v m := by
  rw [startsWithHandle, Bool.or_eq_true, startsWith_iff, startsWith_iff]
  rfl

theorem inFront_eq : inFront v m = (startsWithHandle v m).toNat := by
  rw [inFront]
  simp only [← startsWithHandle_iff]
  cases startsWithHandle v m <;> rfl

theorem inFront_le (v : Vocabulary) (m : Method) : inFront v m ≤ m.parameters.length := by
  unfold inFront
  split
  · rename_i takes
    obtain ⟨p, first, -⟩ | ⟨p, first, -⟩ := takes
    all_goals exact List.length_pos_of_mem (List.mem_of_head? first)
  · exact Nat.zero_le _

/-! ### Attributes -/

theorem isBlankText_iff : Text.isBlankText text = true ↔ Blank text.toList := by
  simp [Text.isBlankText, Blank]

/-- An attribute is taken unless it is blank. -/
theorem filter_text_eq_some :
    (a.text? key).filter (!Text.isBlankText ·) = some text ↔ Gives a key text := by
  rw [Option.filter_eq_some_iff, Gives, ← isBlankText_iff]
  simp

theorem filter_text_eq_none :
    (a.text? key).filter (!Text.isBlankText ·) = none ↔ ∀ text, ¬ Gives a key text := by
  simp only [Option.eq_none_iff_forall_ne_some, ne_eq, filter_text_eq_some]

/-- Something is left of a text when it is trimmed, unless it is blank. -/
theorem isEmpty_trim (text : String) : (Text.trim text).isEmpty = Text.isBlankText text := by
  rw [Bool.eq_iff_iff, isBlankText_iff, Text.trim, String.isEmpty_iff, String.ofList_eq_empty_iff]
  exact ⟨blank_of_trimChars, trimChars_of_blank⟩

/-- A trimmed attribute is taken unless it is blank. -/
theorem filter_trim_eq (given : Option String) :
    (given.map Text.trim).filter (!·.isEmpty) = (given.filter (!Text.isBlankText ·)).map Text.trim := by
  rw [Option.filter_map]
  simp only [Function.comp_def, isEmpty_trim]

theorem pointcutText?_eq_some : pointcutText? a = some text ↔ PointcutIs a text := by
  unfold pointcutText?
  rw [filter_trim_eq]
  cases first : (a.text? "pointcut").filter (!Text.isBlankText ·) with
  | some given =>
    have filled := filter_text_eq_some.mp first
    have kept : (some given).filter (!Text.isBlankText ·) = some given := by
      rw [← first, Option.filter_filter]
      simp
    rw [Option.some_or, kept, Option.map_some, Option.some.injEq]
    constructor
    · rintro rfl
      exact .pointcut filled
    · rintro (⟨stated⟩ | ⟨absent, -⟩)
      · rw [Option.some.inj (filled.1.symm.trans stated.1)]
      · exact absurd filled (absent given)
  | none =>
    have absent := filter_text_eq_none.mp first
    rw [Option.none_or, Option.map_eq_some_iff]
    constructor
    · rintro ⟨given, taken, rfl⟩
      exact .value absent (filter_text_eq_some.mp taken)
    · rintro (given | ⟨-, given⟩)
      · exact absurd given (absent _)
      · exact ⟨_, filter_text_eq_some.mpr given, rfl⟩

theorem reservedName?_eq_some {role : OutcomeRole} {name : String} :
    reservedName? a role = some name ↔ ∃ text, Gives a role.word text ∧ Text.trim text = name := by
  rw [reservedName?, filter_trim_eq, Option.map_eq_some_iff]
  simp only [filter_text_eq_some]

/-! ### The rules, one by one -/

/-- The names are determined: they are those that are read from the annotation. -/
theorem namesAre_iff : NamesAre v a m names ↔
    names = (argNames? a).getD ((m.parameters.drop (inFront v m)).map (·.name)) := by
  have listed : ∀ text, Gives a "argNames" text → argNames? a =
      some (((Text.parts (· == ',') text.toList).map Text.trimChars).map String.ofList) := by
    intro text given
    rw [argNames?, filter_text_eq_some.mpr given, Option.map_some, List.map_map]
    rfl
  constructor
  · rintro (⟨given, items⟩ | ⟨absent⟩)
    · rw [listed _ given, Option.getD_some, items_of_separated items, List.map_map]
      simp
    · rw [argNames?, filter_text_eq_none.mpr absent]
      rfl
  · rintro rfl
    by_cases given : ∃ text, Gives a "argNames" text
    · obtain ⟨text, given⟩ := given
      obtain ⟨items, separated⟩ := exists_separated text.toList
      refine .listed given ?_
      rw [listed _ given, Option.getD_some, items_of_separated separated, List.map_map]
      simpa [Function.comp_def] using separated
    · have absent := not_exists.mp given
      rw [argNames?, filter_text_eq_none.mpr absent]
      exact .declared absent

/-- Only the handle that lets the call proceed can make the first parameter unfit. -/
theorem takesJoinPoint_eq_ok {handle : Bool} : takesJoinPoint v kind m = .ok handle ↔
    (StartsWith m v.proceedingJoinPoint ↔ kind = .around) ∧ handle = startsWithHandle v m := by
  rw [← startsWith_iff, takesJoinPoint, startsWithHandle]
  cases startsWith m v.proceedingJoinPoint <;> by_cases around : kind = .around <;>
    simp [around, eq_comm]

theorem listed_succeeds {ps : List (Parameter HostType)} : (∃ bindings, listed a m ps = .ok bindings) ↔
    ((argNames? a).getD (ps.map (·.name))).length = ps.length := by
  unfold listed
  dsimp only
  split
  · rename_i long
    simp [long]
  · rename_i short
    simp [short]

theorem reserves_iff {role : OutcomeRole} {name : String} :
    Reserves kind a role name ↔ kind.role? = some role ∧ outcomeName? kind a = some name := by
  refine and_congr_right fun receives => ?_
  rw [← reservedName?_eq_some, outcomeName?, receives, Option.bind_some]

/-- A reserved name has to be among the listed ones. -/
theorem reservation_succeeds {bindings : List Binding} :
    (∃ reserved, reservation a kind m bindings = .ok reserved) ↔
      ∀ role name, Reserves kind a role name → name ∈ bindings.map (·.name) := by
  have reserved : (∀ role name, Reserves kind a role name → name ∈ bindings.map (·.name)) ↔
      ∀ name, outcomeName? kind a = some name → name ∈ bindings.map (·.name) := by
    simp only [reserves_iff]
    constructor
    · intro among name named
      obtain ⟨role, receives, -⟩ := Option.bind_eq_some_iff.mp named
      exact among role name ⟨receives, named⟩
    · exact fun among role name given => among name given.2
  rw [reserved]
  unfold reservation outcomeName?
  split
  · rename_i none
    simp [none]
  · rename_i role receives
    rw [receives, Option.bind_some]
    split
    · rename_i none
      simp [none]
    · rename_i name named
      have among : bindings.any (·.name == name) = true ↔ name ∈ bindings.map (·.name) := by simp
      simp only [named, Option.some.injEq, forall_eq', ← among]
      cases bindings.any (·.name == name) <;> simp

/-- Reading a signature succeeds if every rule that it checks holds. -/
theorem derive_succeeds : (∃ s, derive v kind a m = .ok s) ↔
    (∃ text, pointcutText? a = some text) ∧ ∃ handle, takesJoinPoint v kind m = .ok handle ∧
      ∃ bindings, listed a m (m.parameters.drop handle.toNat) = .ok bindings ∧
        ∃ reserved, reservation a kind m bindings = .ok reserved := by
  unfold derive
  split
  · rename_i none
    simp [none]
  · rename_i text given
    split
    · rename_i unfit
      simp [unfit]
    · rename_i handle takes
      split
      · rename_i unlisted
        simp [takes, unlisted]
      · rename_i bindings known
        split
        · rename_i unknown
          simp [takes, known, unknown]
        · rename_i reserved chosen
          simp [given, takes, known, chosen]

/-- A signature is accepted exactly if it keeps the rules. -/
theorem accepted_iff (known : NamesAre v a m names) :
    (∃ s, derive v kind a m = .ok s) ↔ Acceptable v kind a m names := by
  have within := inFront_le v m
  have read := namesAre_iff.mp known
  rw [derive_succeeds]
  simp only [takesJoinPoint_eq_ok]
  constructor
  · rintro ⟨⟨text, given⟩, handle, ⟨proceeding, rfl⟩, bindings, listed, reserved⟩
    rw [← inFront_eq] at listed
    have long := listed_succeeds.mp ⟨bindings, listed⟩
    rw [← read, List.length_drop] at long
    refine ⟨⟨text, pointcutText?_eq_some.mp given⟩, proceeding, by omega, ?_⟩
    rw [read, ← (parts_of_listed listed).1]
    exact reservation_succeeds.mp reserved
  · rintro ⟨⟨text, given⟩, proceeding, long, reserved⟩
    refine ⟨⟨text, pointcutText?_eq_some.mpr given⟩, _, ⟨proceeding, rfl⟩, ?_⟩
    rw [← inFront_eq]
    have short : names.length = (m.parameters.drop (inFront v m)).length := by
      rw [List.length_drop]
      omega
    obtain ⟨bindings, listed⟩ := listed_succeeds.mpr (read ▸ short)
    refine ⟨bindings, listed, reservation_succeeds.mpr ?_⟩
    rwa [(parts_of_listed listed).1, ← read]

/-! ### The slots -/

/-- The pointcut parameters are numbered in the order of their slots. -/
theorem numbers_layout (reserved : Option Reservation) (next : Nat) (bindings : List Binding) :
    (Slot.layout reserved next bindings).filterMap number? =
      List.range' next (bindings.countP (!Reservation.takes reserved ·)) := by
  induction bindings generalizing next with
  | nil => rfl
  | cons first rest ih =>
    cases taken : Reservation.takes reserved first with
    | true =>
      obtain ⟨r, -, -, laid⟩ := layout_taken taken next rest
      rw [laid, List.filterMap_cons_none rfl, ih, List.countP_cons_of_neg (by simp [taken])]
    | false =>
      rw [layout_kept taken, List.countP_cons_of_pos (by simp [taken]), List.range'_succ, ← ih]
      rfl

section Slots

variable {bindings : List Binding} {reserved : Option Reservation}
variable (d : DerivedFrom v kind a m s bindings reserved)
include d

/-- A slot that is not for the handle on the call is that of a listed parameter. -/
theorem listed_of_slot {j : Nat} {slot : Slot} (laid : s.slots[j]? = some slot)
    (other : slot ≠ .joinPoint) : ∃ i name p, j = handles v kind m + i ∧
      (listedNames v kind a m)[i]? = some name ∧ m.parameters[j]? = some p ∧
        bindings[i]? = some ⟨name, p.type⟩ := by
  have behind : handles v kind m ≤ j := by
    by_contra before
    rw [(slot_eq_joinPoint d j).mpr (Nat.lt_of_not_le before)] at laid
    exact other (Option.some.inj laid).symm
  obtain ⟨i, rfl⟩ := Nat.exists_eq_add_of_le behind
  obtain ⟨p, declared⟩ : ∃ p, m.parameters[handles v kind m + i]? = some p := by
    have within := (List.getElem?_eq_some_iff.mp laid).1
    rw [d.length_slots] at within
    exact ⟨_, List.getElem?_eq_getElem within⟩
  obtain ⟨name, named, listed⟩ := listed_of_parameter d declared
  exact ⟨i, name, p, rfl, named, declared, listed⟩

/-- A listed parameter has the slot of the outcome exactly if its name is reserved. -/
theorem outcome_slot_iff {i : Nat} {b : Binding} (listed : bindings[i]? = some b) (role : OutcomeRole) :
    s.slots[handles v kind m + i]? = some (.outcome role) ↔ Reserves kind a role b.name := by
  rw [slot_behind d, reserves_iff]
  have known := @slot_of_listed reserved bindings i b listed 0
  rcases known with ⟨r, rfl, named, laid⟩ | ⟨kept, laid, -⟩
  · have receives := role_of_reservation d.fromName
    have reserved := name_of_reservation d.fromName
    rw [laid, receives, ← reserved, Option.map_some, named]
    simp
  · have free : outcomeName? kind a ≠ some b.name := by
      rw [Ne, ← takes_iff d, kept]
      exact Bool.false_ne_true
    rw [laid]
    simp [free]

end Slots

theorem pointcut_of_derive (derived : derive v kind a m = .ok s) : PointcutIs a s.pointcut := by
  unfold derive at derived
  split at derived
  · cases derived
  · rename_i text given
    split at derived
    · cases derived
    · split at derived
      · cases derived
      · split at derived
        · cases derived
        · cases derived
          exact pointcutText?_eq_some.mp given

/-- The parameters of an accepted signature have slots by their names. -/
theorem laidOut_of_derive (known : NamesAre v a m names) (derived : derive v kind a m = .ok s) :
    LaidOut v kind a m names s := by
  obtain ⟨bindings, reserved, d⟩ := derivedFrom_of_derive derived
  have front : handles v kind m = inFront v m := (handles_of_derive derived).trans inFront_eq.symm
  have read : listedNames v kind a m = names := by
    rw [namesAre_iff.mp known, listedNames, bindable, front]
  refine ⟨d.ofKind, pointcut_of_derive derived, d.length_slots, ?handle, ?numbers, ?bound, ?outcome⟩
  case handle =>
    intro j
    rw [slot_eq_joinPoint d, front, inFront]
    by_cases takes : TakesHandle v m <;> simp [takes]
  case numbers =>
    have none : (List.replicate (handles v kind m) Slot.joinPoint).filterMap number? = [] := by
      simp [number?]
    rw [d.slots, d.parameters, List.filterMap_append, none, numbers_layout, List.countP_eq_length_filter,
      List.range_eq_range', List.nil_append]
  case bound =>
    intro j k laid
    obtain ⟨i, name, p, rfl, named, declared, listed⟩ := listed_of_slot d laid (by simp)
    refine ⟨i, name, p, by rw [front], read ▸ named, declared, ?_⟩
    rw [slot_behind d] at laid
    rcases slot_of_listed listed 0 with ⟨r, -, -, other⟩ | ⟨-, here, kept⟩
    · cases laid.symm.trans other
    · have numbered := Slot.pointcut.inj (Option.some.inj (laid.symm.trans here))
      rw [numbered, Nat.zero_add, d.parameters]
      exact kept
  case outcome =>
    intro j role
    constructor
    · intro laid
      obtain ⟨i, name, p, rfl, named, -, listed⟩ := listed_of_slot d laid (by simp)
      exact ⟨i, name, by rw [front], read ▸ named, (outcome_slot_iff d listed role).mp laid⟩
    · rintro ⟨i, name, rfl, named, reserves⟩
      rw [← read, ← d.names, List.getElem?_map] at named
      obtain ⟨b, listed, rfl⟩ := Option.map_eq_some_iff.mp named
      rw [← front]
      exact (outcome_slot_iff d listed role).mpr reserves

/-- A method goes by one list of names. It is accepted as advice exactly if it keeps the rules for them,
and then its parameters have slots by these names. -/
theorem validation_is_exact (v : Vocabulary) (kind : AdviceKind) (a : Annotation) (m : Method) :
    ∃ names, (∀ others, NamesAre v a m others ↔ others = names) ∧
      ((∃ s, derive v kind a m = .ok s) ↔ Acceptable v kind a m names) ∧
      ∀ s, derive v kind a m = .ok s → LaidOut v kind a m names s := by
  have known := namesAre_iff.mpr (Eq.refl ((argNames? a).getD
    ((m.parameters.drop (inFront v m)).map (·.name))))
  exact ⟨_, fun others => namesAre_iff, accepted_iff known,
    fun s derived => laidOut_of_derive known derived⟩

/-! ### An advice with listed names -/

/-- An advice method with a handle on the call and two other parameters. -/
def file : Method :=
  ⟨none, ⟨"file", .bare "void", [⟨"point", .bare "host.JoinPoint", []⟩, ⟨"first", .bare "Receipt", []⟩,
    ⟨"second", .bare "Item", []⟩], [], []⟩⟩

/-- The two parameters are listed under other names, and the first of these is reserved. -/
def filing : Annotation :=
  ⟨"AfterReturning", [("value", .text "args(item)"), ("argNames", .text "receipt, item"),
    ("returning", .text " receipt")]⟩

/-- The method is accepted as advice after returning: its first parameter is the handle, and its second
one receives the value that is returned. -/
theorem receipt_is_taken_by_name :
    (∃ s, derive {} .afterReturning filing file = .ok s) ∧
      ∀ s, derive {} .afterReturning filing file = .ok s →
        s.slots[0]? = some .joinPoint ∧ s.slots[1]? = some (.outcome .returning) := by
  obtain ⟨names, known, accepted, laid⟩ := validation_is_exact {} .afterReturning filing file
  have read : names = ["receipt", "item"] :=
    (namesAre_iff.mp ((known names).mpr rfl)).trans (by decide +kernel)
  have reserved : outcomeName? .afterReturning filing = some "receipt" := by decide +kernel
  have given : pointcutText? filing = some "args(item)" := by decide +kernel
  refine ⟨accepted.mpr ⟨⟨_, pointcutText?_eq_some.mp given⟩, ?proceeding, ?named, ?among⟩,
    fun s derived => ⟨?handle, ?outcome⟩⟩
  case proceeding => decide +kernel
  case named =>
    rw [read]
    decide +kernel
  case among =>
    intro role name reserves
    have same := reserved.symm.trans (reserves_iff.mp reserves).2
    rw [read, ← Option.some.inj same]
    exact List.mem_cons_self
  case handle => exact ((laid s derived).handle 0).mpr ⟨rfl, by decide +kernel⟩
  case outcome =>
    refine ((laid s derived).outcome 1 .returning).mpr ⟨0, "receipt", by decide +kernel, ?_, ?_⟩
    · rw [read]
      rfl
    · exact reserves_iff.mpr ⟨rfl, reserved⟩

end Crosscut.AdviceValidation
