import Crosscut.Proofs.BindingRule
import Mathlib.Data.List.Duplicate
import Mathlib.Data.List.NodupEquivFin

/-! What the binding check tells when it refuses. It visits the leaves of a formula with the
connectives above them in mind and stops at the first fault. It accepts exactly the formulas that
bind nothing below a negation or a disjunction, bind no name at two places and bind every declared
parameter; and of the fault that it reports there is an instance, with the name that it reports. -/
namespace Crosscut.BindingFaults
open BindingRule

/-- A leaf of a formula, and whether a negation or a disjunction stands above it. -/
inductive Stands {α : Type} : Formula α → Surroundings → α → Prop
  | leaf (value : α) : Stands (.leaf value) .top value
  | not {inner : Formula α} {above : Surroundings} {value : α} (inside : Stands inner above value) :
      Stands inner.not { above with negated := true } value
  | andLeft {left : Formula α} {above : Surroundings} {value : α} (inside : Stands left above value)
      (right : Formula α) : Stands (left.and right) above value
  | andRight {right : Formula α} {above : Surroundings} {value : α} (left : Formula α)
      (inside : Stands right above value) : Stands (left.and right) above value
  | orLeft {left : Formula α} {above : Surroundings} {value : α} (inside : Stands left above value)
      (right : Formula α) : Stands (left.or right) { above with disjunct := true } value
  | orRight {right : Formula α} {above : Surroundings} {value : α} (left : Formula α)
      (inside : Stands right above value) :
      Stands (left.or right) { above with disjunct := true } value
  | reference {body : Formula α} {above : Surroundings} {value : α} (name : String)
      (inside : Stands body above value) : Stands (body.reference name) above value

/-- A place where a name is bound: which clause, and which of the names that it binds. -/
structure Place where
  clause : Nat
  item : Nat

/-- Clauses bind a name at a place. -/
def BoundIn (clauses : List Clause) (place : Place) (name : String) : Prop :=
  ∃ clause, clauses[place.clause]? = some clause ∧ clause.boundNames[place.item]? = some name

/-- A formula binds a name at a place among its leaves. -/
def BoundAt (f : Formula Clause) (place : Place) (name : String) : Prop :=
  BoundIn f.leaves place name

/-- What the binding check asks for. -/
structure Kept (f : Formula Clause) (parameters : List Binding) : Prop where
  decided : ∀ above clause, Stands f above clause → above.negated = true ∨ above.disjunct = true →
    clause.boundNames = []
  single : ∀ name p q, BoundAt f p name → BoundAt f q name → p = q
  exhaustive : ∀ b ∈ parameters, ∃ place, BoundAt f place b.name

/-- The instance of a fault that a formula has. -/
def Violated (f : Formula Clause) (parameters : List Binding) : BindingFault → Prop
  | .underNegation name =>
    ∃ above clause, Stands f above clause ∧ above.negated = true ∧ name ∈ clause.boundNames
  | .underDisjunction name =>
    ∃ above clause, Stands f above clause ∧ above.disjunct = true ∧ name ∈ clause.boundNames
  | .ambiguous name => ∃ p q, p ≠ q ∧ BoundAt f p name ∧ BoundAt f q name
  | .unbound name => (∃ b ∈ parameters, b.name = name) ∧ ∀ place, ¬ BoundAt f place name

variable {f : Formula Clause} {parameters : List Binding} {name : String} {fault : BindingFault}

/-! ### Places -/

theorem exists_place {clauses : List Clause} :
    (∃ place, BoundIn clauses place name) ↔ name ∈ clauses.flatMap Clause.boundNames := by
  rw [List.mem_flatMap]
  constructor
  · rintro ⟨place, clause, known, binds⟩
    exact ⟨clause, List.mem_of_getElem? known, List.mem_of_getElem? binds⟩
  · rintro ⟨clause, listed, binds⟩
    obtain ⟨i, known⟩ := List.mem_iff_getElem?.mp listed
    obtain ⟨j, found⟩ := List.mem_iff_getElem?.mp binds
    exact ⟨⟨i, j⟩, clause, known, found⟩

/-- A member that occurs twice in a list and another behind it. -/
theorem duplicate_append {front back : List String} :
    List.Duplicate name (front ++ back) ↔
      List.Duplicate name front ∨ List.Duplicate name back ∨ name ∈ front ∧ name ∈ back := by
  rw [List.duplicate_iff_two_le_count, List.duplicate_iff_two_le_count,
    List.duplicate_iff_two_le_count, List.count_append, ← List.count_pos_iff, ← List.count_pos_iff]
  omega

theorem duplicate_iff_positions {names : List String} :
    List.Duplicate name names ↔
      ∃ i j : Nat, i ≠ j ∧ names[i]? = some name ∧ names[j]? = some name := by
  rw [List.duplicate_iff_exists_distinct_get]
  constructor
  · rintro ⟨i, j, before, first, second⟩
    exact ⟨i, j, by omega, by simp [first], by simp [second]⟩
  · rintro ⟨i, j, apart, first, second⟩
    obtain ⟨inside, first⟩ := List.getElem?_eq_some_iff.mp first
    obtain ⟨within, second⟩ := List.getElem?_eq_some_iff.mp second
    rcases Nat.lt_or_gt_of_ne apart with before | behind
    · exact ⟨⟨i, inside⟩, ⟨j, within⟩, before, first.symm, second.symm⟩
    · exact ⟨⟨j, within⟩, ⟨i, inside⟩, behind, second.symm, first.symm⟩

theorem boundIn_head {clause : Clause} {rest : List Clause} {item : Nat} :
    BoundIn (clause :: rest) ⟨0, item⟩ name ↔ clause.boundNames[item]? = some name := by
  simp [BoundIn]

theorem boundIn_tail {clause : Clause} {rest : List Clause} {i item : Nat} :
    BoundIn (clause :: rest) ⟨i + 1, item⟩ name ↔ BoundIn rest ⟨i, item⟩ name := by
  simp [BoundIn]

/-- A name occurs twice among the names that clauses bind exactly if they bind it at two places. -/
theorem duplicate_iff_places {clauses : List Clause} :
    List.Duplicate name (clauses.flatMap Clause.boundNames) ↔
      ∃ p q, p ≠ q ∧ BoundIn clauses p name ∧ BoundIn clauses q name := by
  induction clauses with
  | nil => simp [BoundIn]
  | cons clause rest ih =>
    rw [List.flatMap_cons, duplicate_append, ih, duplicate_iff_positions, ← exists_place]
    constructor
    · rintro (⟨i, j, apart, first, second⟩ | ⟨p, q, apart, first, second⟩ | ⟨here, p, later⟩)
      · exact ⟨⟨0, i⟩, ⟨0, j⟩, by simpa using apart, boundIn_head.mpr first, boundIn_head.mpr second⟩
      · refine ⟨⟨p.clause + 1, p.item⟩, ⟨q.clause + 1, q.item⟩, fun same => apart ?_,
          boundIn_tail.mpr first, boundIn_tail.mpr second⟩
        cases p
        cases q
        simpa using same
      · obtain ⟨i, found⟩ := List.mem_iff_getElem?.mp here
        exact ⟨⟨0, i⟩, ⟨p.clause + 1, p.item⟩, by simp, boundIn_head.mpr found,
          boundIn_tail.mpr later⟩
    · rintro ⟨⟨i, k⟩, ⟨j, l⟩, apart, first, second⟩
      cases i with
      | zero =>
        have here := boundIn_head.mp first
        cases j with
        | zero => exact .inl ⟨k, l, by simpa using apart, here, boundIn_head.mp second⟩
        | succ j => exact .inr (.inr ⟨List.mem_of_getElem? here, _, boundIn_tail.mp second⟩)
      | succ i =>
        have later := boundIn_tail.mp first
        cases j with
        | zero => exact .inr (.inr ⟨List.mem_of_getElem? (boundIn_head.mp second), _, later⟩)
        | succ j => exact .inr (.inl ⟨_, _, by simpa using apart, later, boundIn_tail.mp second⟩)

theorem nodup_iff_single :
    (boundNames f).Nodup ↔ ∀ name p q, BoundAt f p name → BoundAt f q name → p = q := by
  rw [List.nodup_iff_forall_not_duplicate]
  refine forall_congr' fun name => ?_
  rw [boundNames, duplicate_iff_places]
  constructor
  · intro apart p q first second
    by_contra other
    exact apart ⟨p, q, other, first, second⟩
  · rintro single ⟨p, q, apart, first, second⟩
    exact apart (single p q first second)

/-! ### Surroundings -/

/-- Every leaf stands somewhere, and nothing else does. -/
theorem mem_leaves_iff_stands {α : Type} {g : Formula α} {value : α} :
    value ∈ g.leaves ↔ ∃ above, Stands g above value := by
  constructor
  · intro listed
    induction g with
    | leaf v =>
      obtain rfl := List.mem_singleton.mp listed
      exact ⟨_, .leaf value⟩
    | not inner ih =>
      obtain ⟨above, inside⟩ := ih listed
      exact ⟨_, inside.not⟩
    | and left right ihLeft ihRight =>
      rcases List.mem_append.mp (Formula.leaves_and left right ▸ listed) with inLeft | inRight
      · obtain ⟨above, inside⟩ := ihLeft inLeft
        exact ⟨_, inside.andLeft right⟩
      · obtain ⟨above, inside⟩ := ihRight inRight
        exact ⟨_, inside.andRight left⟩
    | or left right ihLeft ihRight =>
      rcases List.mem_append.mp (Formula.leaves_or left right ▸ listed) with inLeft | inRight
      · obtain ⟨above, inside⟩ := ihLeft inLeft
        exact ⟨_, inside.orLeft right⟩
      · obtain ⟨above, inside⟩ := ihRight inRight
        exact ⟨_, inside.orRight left⟩
    | reference name body ih =>
      obtain ⟨above, inside⟩ := ih listed
      exact ⟨_, inside.reference name⟩
  · rintro ⟨above, stands⟩
    induction stands with
    | leaf value => exact List.mem_singleton_self value
    | not _ ih => exact ih
    | andLeft _ right ih =>
      rw [Formula.leaves_and]
      exact List.mem_append_left _ ih
    | andRight left _ ih =>
      rw [Formula.leaves_and]
      exact List.mem_append_right _ ih
    | orLeft _ right ih =>
      rw [Formula.leaves_or]
      exact List.mem_append_left _ ih
    | orRight left _ ih =>
      rw [Formula.leaves_or]
      exact List.mem_append_right _ ih
    | reference name _ ih => exact ih

/-- The undecided leaves are those with a negation or a disjunction above them. -/
theorem mem_undecided_iff_stands {α : Type} {g : Formula α} {value : α} :
    value ∈ undecided g ↔
      ∃ above, Stands g above value ∧ (above.negated = true ∨ above.disjunct = true) := by
  constructor
  · intro listed
    induction g with
    | leaf v => cases listed
    | not inner _ =>
      obtain ⟨above, inside⟩ := mem_leaves_iff_stands.mp listed
      exact ⟨_, inside.not, .inl rfl⟩
    | and left right ihLeft ihRight =>
      rcases List.mem_append.mp listed with inLeft | inRight
      · obtain ⟨above, inside, undecided⟩ := ihLeft inLeft
        exact ⟨_, inside.andLeft right, undecided⟩
      · obtain ⟨above, inside, undecided⟩ := ihRight inRight
        exact ⟨_, inside.andRight left, undecided⟩
    | or left right _ _ =>
      rcases List.mem_append.mp listed with inLeft | inRight
      · obtain ⟨above, inside⟩ := mem_leaves_iff_stands.mp inLeft
        exact ⟨_, inside.orLeft right, .inr rfl⟩
      · obtain ⟨above, inside⟩ := mem_leaves_iff_stands.mp inRight
        exact ⟨_, inside.orRight left, .inr rfl⟩
    | reference name body ih =>
      obtain ⟨above, inside, undecided⟩ := ih listed
      exact ⟨_, inside.reference name, undecided⟩
  · rintro ⟨above, stands, flagged⟩
    induction stands with
    | leaf value => simp [Surroundings.top] at flagged
    | not inside _ => exact mem_leaves_iff_stands.mpr ⟨_, inside⟩
    | andLeft _ right ih => exact List.mem_append_left _ (ih flagged)
    | andRight left _ ih => exact List.mem_append_right _ (ih flagged)
    | orLeft inside right _ => exact List.mem_append_left _ (mem_leaves_iff_stands.mpr ⟨_, inside⟩)
    | orRight left inside _ => exact List.mem_append_right _ (mem_leaves_iff_stands.mpr ⟨_, inside⟩)
    | reference name _ ih => exact ih flagged

/-- The binding rule, by the places of leaves and names. -/
theorem obeyed_iff_kept : Obeyed f parameters ↔ Kept f parameters := by
  have decided : (∀ clause ∈ undecided f, clause.boundNames = []) ↔ ∀ above clause,
      Stands f above clause → above.negated = true ∨ above.disjunct = true →
        clause.boundNames = [] := by
    constructor
    · exact fun rule above clause stands flagged =>
        rule clause (mem_undecided_iff_stands.mpr ⟨above, stands, flagged⟩)
    · intro rule clause listed
      obtain ⟨above, stands, flagged⟩ := mem_undecided_iff_stands.mp listed
      exact rule above clause stands flagged
  constructor
  · intro obeyed
    exact ⟨decided.mp obeyed.decided, nodup_iff_single.mp obeyed.distinct,
      fun b declared => exists_place.mpr (obeyed.exhaustive b declared)⟩
  · intro kept
    exact ⟨decided.mpr kept.decided, nodup_iff_single.mpr kept.single,
      fun b declared => exists_place.mp (kept.exhaustive b declared)⟩

/-! ### Faults -/

variable {above : Surroundings} {bound : List String}

/-- The cause of a fault in a part of a formula that is visited in these surroundings after these
names. -/
def Caused (above : Surroundings) (bound : List String) (f : Formula Clause) : BindingFault → Prop
  | .underNegation name => ∃ inner clause, Stands f inner clause ∧
      (above.negated = true ∨ inner.negated = true) ∧ name ∈ clause.boundNames
  | .underDisjunction name => ∃ inner clause, Stands f inner clause ∧
      (above.disjunct = true ∨ inner.disjunct = true) ∧ name ∈ clause.boundNames
  | .ambiguous name => List.Duplicate name (bound ++ boundNames f)
  | .unbound _ => False

/-- A fault of one clause: its names are not to be bound here, or one of them is bound before. -/
theorem caused_of_bindNames {names : List String} (failed : above.bindNames bound names = .error fault) :
    match fault with
    | .underNegation name => above.negated = true ∧ name ∈ names
    | .underDisjunction name => above.disjunct = true ∧ name ∈ names
    | .ambiguous name => List.Duplicate name (bound ++ names)
    | .unbound _ => False := by
  induction names generalizing bound with
  | nil => cases failed
  | cons name rest ih =>
    rw [Surroundings.bindNames] at failed
    split at failed
    · rename_i negated
      cases failed
      exact ⟨negated, List.mem_cons_self⟩
    · split at failed
      · rename_i disjunct
        cases failed
        exact ⟨disjunct, List.mem_cons_self⟩
      · split at failed
        · rename_i taken
          cases failed
          rw [List.contains_iff_mem] at taken
          exact duplicate_append.mpr (.inr (.inr ⟨taken, List.mem_cons_self⟩))
        · have later := ih failed
          cases fault with
          | underNegation _ => exact ⟨later.1, List.mem_cons_of_mem _ later.2⟩
          | underDisjunction _ => exact ⟨later.1, List.mem_cons_of_mem _ later.2⟩
          | ambiguous _ => simpa using later
          | unbound _ => exact later

/-- The cause of a fault in a part is one in the whole, if the leaves of the part keep what stands
above them and its names come in the same order. -/
theorem caused_of_part {part whole : Formula Clause} {inside outside : Surroundings}
    {before earlier : List String}
    (leaves : ∀ inner clause, Stands part inner clause → ∃ outer, Stands whole outer clause ∧
      (inside.negated = true ∨ inner.negated = true → outside.negated = true ∨ outer.negated = true) ∧
      (inside.disjunct = true ∨ inner.disjunct = true →
        outside.disjunct = true ∨ outer.disjunct = true))
    (names : (before ++ boundNames part).Sublist (earlier ++ boundNames whole))
    (caused : Caused inside before part fault) : Caused outside earlier whole fault := by
  cases fault with
  | underNegation name =>
    obtain ⟨inner, clause, stands, flagged, binds⟩ := caused
    obtain ⟨outer, found, negated, -⟩ := leaves inner clause stands
    exact ⟨outer, clause, found, negated flagged, binds⟩
  | underDisjunction name =>
    obtain ⟨inner, clause, stands, flagged, binds⟩ := caused
    obtain ⟨outer, found, -, disjunct⟩ := leaves inner clause stands
    exact ⟨outer, clause, found, disjunct flagged, binds⟩
  | ambiguous name => exact List.Duplicate.mono_sublist caused names
  | unbound name => exact caused

/-- A visit that fails has met the cause of the fault that it gives. -/
theorem caused_of_bindPlaces (failed : f.bindPlaces above bound = .error fault) :
    Caused above bound f fault := by
  -- A part is visited in other surroundings and after other names than the whole.
  induction f generalizing above bound with
  | leaf clause =>
    have cause := caused_of_bindNames failed
    cases fault with
    | underNegation name => exact ⟨_, clause, .leaf clause, .inl cause.1, cause.2⟩
    | underDisjunction name => exact ⟨_, clause, .leaf clause, .inl cause.1, cause.2⟩
    | ambiguous name => simpa [Caused] using cause
    | unbound name => exact cause
  | not inner ih =>
    refine caused_of_part (fun place clause stands => ⟨_, stands.not, ?_, ?_⟩) ?_ (ih failed)
    · exact fun _ => .inr rfl
    · exact id
    · exact List.Sublist.refl _
  | and left right ihLeft ihRight =>
    rw [Formula.bindPlaces] at failed
    cases visited : left.bindPlaces above bound with
    | error other =>
      rw [visited] at failed
      cases failed
      refine caused_of_part (fun place clause stands => ⟨_, stands.andLeft right, id, id⟩) ?_
        (ihLeft visited)
      rw [boundNames_and, ← List.append_assoc]
      exact List.sublist_append_left _ _
    | ok after =>
      rw [visited] at failed
      obtain ⟨rfl, -⟩ := bindPlaces_eq_ok.mp visited
      refine caused_of_part (fun place clause stands => ⟨_, stands.andRight left, id, id⟩) ?_
        (ihRight failed)
      rw [boundNames_and, List.append_assoc]
  | or left right ihLeft ihRight =>
    rw [Formula.bindPlaces] at failed
    cases visited : left.bindPlaces { above with disjunct := true } bound with
    | error other =>
      rw [visited] at failed
      cases failed
      refine caused_of_part (fun place clause stands => ⟨_, stands.orLeft right, ?_, ?_⟩) ?_
        (ihLeft visited)
      · exact id
      · exact fun _ => .inr rfl
      · rw [boundNames_or, ← List.append_assoc]
        exact List.sublist_append_left _ _
    | ok after =>
      rw [visited] at failed
      obtain ⟨rfl, -⟩ := bindPlaces_eq_ok.mp visited
      refine caused_of_part (fun place clause stands => ⟨_, stands.orRight left, ?_, ?_⟩) ?_
        (ihRight failed)
      · exact id
      · exact fun _ => .inr rfl
      · rw [boundNames_or, List.append_assoc]
  | reference name body ih =>
    exact caused_of_part (fun place clause stands => ⟨_, stands.reference name, id, id⟩)
      (List.Sublist.refl _) (ih failed)

/-- At the top of a formula, causes are violations. -/
theorem violated_of_caused (caused : Caused .top [] f fault) : Violated f parameters fault := by
  cases fault with
  | underNegation name =>
    obtain ⟨above, clause, stands, flagged, binds⟩ := caused
    exact ⟨above, clause, stands, flagged.resolve_left (by simp [Surroundings.top]), binds⟩
  | underDisjunction name =>
    obtain ⟨above, clause, stands, flagged, binds⟩ := caused
    exact ⟨above, clause, stands, flagged.resolve_left (by simp [Surroundings.top]), binds⟩
  | ambiguous name => exact duplicate_iff_places.mp caused
  | unbound name => exact caused.elim

/-- The check succeeds exactly on the formulas that bind nothing below a negation or a disjunction,
no name at two places and every declared parameter somewhere. Where it fails, the formula has the
fault that it reports, with the name that it reports. -/
theorem check_finds_a_real_fault (f : Formula Clause) (parameters : List Binding) :
    (f.checkBindings parameters = .ok () ↔ Kept f parameters) ∧
      ∀ fault, f.checkBindings parameters = .error fault → Violated f parameters fault := by
  refine ⟨checkBindings_eq_ok.trans obeyed_iff_kept, fun fault failed => ?_⟩
  rw [Formula.checkBindings] at failed
  cases visited : f.bindPlaces .top [] with
  | error met =>
    rw [visited] at failed
    cases failed
    exact violated_of_caused (caused_of_bindPlaces visited)
  | ok bound =>
    rw [visited] at failed
    obtain ⟨rfl, -⟩ := bindPlaces_eq_ok.mp visited
    dsimp only at failed
    split at failed
    · rename_i b found
      cases failed
      have missing : b.name ∉ boundNames f := by simpa using List.find?_some found
      exact ⟨⟨b, List.mem_of_find?_eq_some found, rfl⟩,
        fun place binds => missing (exists_place.mp ⟨place, binds⟩)⟩
    · cases failed

/-- The one declared parameter. -/
def item : Binding := ⟨"item", .bare "demo.Item"⟩

/-- A clause that binds it. -/
def taking : Formula Clause := .leaf ⟨"args(item)", .args [.bound item]⟩

theorem taken_item_is_bound_once :
    Kept taking [item] ∧ Violated (taking.and taking.not) [item] (.underNegation "item") ∧
      Violated (taking.and taking) [item] (.ambiguous "item") :=
  ⟨(check_finds_a_real_fault taking [item]).1.mp rfl,
    (check_finds_a_real_fault (taking.and taking.not) [item]).2 _ rfl,
    (check_finds_a_real_fault (taking.and taking) [item]).2 _ rfl⟩

end Crosscut.BindingFaults
