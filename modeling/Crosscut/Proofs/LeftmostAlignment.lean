import Crosscut.Matching.Align
import Mathlib.Data.List.Chain
import Mathlib.Data.List.Forall2
import Mathlib.Data.List.Lex
import Mathlib.Data.List.ReduceOption

/-! Which alignments there are, and which of them is chosen. A placement says where patterns may stand:
in order, side by side unless a rest is between them, from the first position to the last unless a
rest is there to take what is left over. The search for an alignment fails only where there is no
placement, and where there are several, it gives the one whose positions come first in lexicographic
order: every pattern stands as far to the left as the patterns in front of it allow. -/
namespace Crosscut.LeftmostAlignment
open Matching

variable {π : Type}

/-- A way to place patterns on the positions from `start` up to `stop`: a rest has no position, every
other pattern one that it accepts. -/
structure Placement (isRest : π → Bool) (accepts : π → Nat → Bool) (start stop : Nat)
    (patterns : List π) (places : List (Option Nat)) : Prop where
  room : start ≤ stop
  each : List.Forall₂ (fun p place =>
    if isRest p = true then place = none else ∃ index, place = some index ∧ accepts p index = true)
    patterns places
  within : ∀ index ∈ places.reduceOption, start ≤ index ∧ index < stop
  increasing : places.reduceOption.Pairwise (· < ·)
  sideBySide : places.IsChain fun one next =>
    ∀ index further, one = some index → next = some further → further = index + 1
  fromStart : ∀ index, places.head? = some (some index) → index = start
  toStop : ∀ index, places.getLast? = some (some index) → index + 1 = stop
  nothingLeft : places = [] → start = stop

variable {isRest : π → Bool} {accepts : π → Nat → Bool} {start stop next : Nat} {p : π}
  {more patterns : List π} {places others : List (Option Nat)}

/-! ### Placements, pattern by pattern -/

theorem placement_nil :
    Placement isRest accepts start stop [] places ↔ places = [] ∧ start = stop := by
  constructor
  · intro placed
    obtain rfl := List.forall₂_nil_left_iff.mp placed.each
    exact ⟨rfl, placed.nothingLeft rfl⟩
  · rintro ⟨rfl, rfl⟩
    exact ⟨le_rfl, .nil, by simp, .nil, .nil, by simp, by simp, fun _ => rfl⟩

/-- A rest takes positions up to the one where the patterns behind it start. -/
theorem placement_rest (rest : isRest p = true) :
    Placement isRest accepts start stop (p :: more) places ↔
      ∃ inner next, places = none :: inner ∧ start ≤ next ∧
        Placement isRest accepts next stop more inner := by
  constructor
  · intro placed
    obtain ⟨room, each, within, increasing, sideBySide, fromStart, toStop, -⟩ := placed
    obtain ⟨place, inner, none, behind, rfl⟩ := List.forall₂_cons_left_iff.mp each
    rw [if_pos rest] at none
    subst none
    rw [List.reduceOption_cons_of_none] at within increasing
    have chained := sideBySide.tail
    cases inner with
    | nil =>
      have nothing := List.forall₂_nil_right_iff.mp behind
      exact ⟨[], stop, rfl, room, nothing ▸ placement_nil.mpr ⟨rfl, rfl⟩⟩
    | cons first inner =>
      have last : ∀ index, (first :: inner).getLast? = some (some index) → index + 1 = stop :=
        fun index ends => toStop index (by rwa [List.getLast?_cons_cons])
      cases first with
      | none =>
        exact ⟨_, start, rfl, le_rfl, room, behind, within, increasing, chained, by simp, last, by simp⟩
      | some index =>
        rw [List.reduceOption_cons_of_some] at within increasing
        obtain ⟨above, below⟩ := within index List.mem_cons_self
        refine ⟨_, index, rfl, above, below.le, behind, fun other member => ?_, ?_, chained, by simp,
          last, by simp⟩
        · rw [List.reduceOption_cons_of_some] at member
          refine ⟨?_, (within other member).2⟩
          rcases List.mem_cons.mp member with rfl | later
          · exact le_rfl
          · exact (List.rel_of_pairwise_cons increasing later).le
        · rwa [List.reduceOption_cons_of_some]
  · rintro ⟨inner, next, rfl, above, room, each, within, increasing, sideBySide, -, toStop, -⟩
    refine ⟨above.trans room, .cons (by rw [if_pos rest]) each, ?_, ?_, ?_, by simp, ?_, by simp⟩
    · intro index member
      rw [List.reduceOption_cons_of_none] at member
      exact ⟨above.trans (within index member).1, (within index member).2⟩
    · rwa [List.reduceOption_cons_of_none]
    · exact List.isChain_cons.mpr ⟨by simp, sideBySide⟩
    · intro index ends
      cases inner with
      | nil => simp at ends
      | cons first inner => exact toStop index (by rwa [List.getLast?_cons_cons] at ends)

/-- Any other pattern takes the first position, and the patterns behind it start at the next one. -/
theorem placement_single (single : isRest p = false) :
    Placement isRest accepts start stop (p :: more) places ↔
      ∃ inner, places = some start :: inner ∧ start < stop ∧ accepts p start = true ∧
        Placement isRest accepts (start + 1) stop more inner := by
  constructor
  · rintro ⟨-, each, within, increasing, sideBySide, fromStart, toStop, -⟩
    obtain ⟨place, inner, here, behind, rfl⟩ := List.forall₂_cons_left_iff.mp each
    rw [if_neg (by simp [single])] at here
    obtain ⟨index, rfl, accepted⟩ := here
    obtain rfl := fromStart index rfl
    rw [List.reduceOption_cons_of_some] at within increasing
    have below := (within index List.mem_cons_self).2
    refine ⟨inner, rfl, below, accepted, below, behind, fun other member => ?_,
      (List.pairwise_cons.mp increasing).2, sideBySide.tail, ?_, ?_, ?_⟩
    · have later := within other (List.mem_cons_of_mem index member)
      exact ⟨List.rel_of_pairwise_cons increasing member, later.2⟩
    · intro other first
      exact (List.isChain_cons.mp sideBySide).1 _ first _ _ rfl rfl
    · intro other ends
      refine toStop other ?_
      cases inner with
      | nil => simp at ends
      | cons first inner => rwa [List.getLast?_cons_cons]
    · rintro rfl
      exact toStop index rfl
  · rintro ⟨inner, rfl, below, accepted, placed⟩
    obtain ⟨-, each, within, increasing, sideBySide, fromStart, toStop, nothingLeft⟩ := placed
    refine ⟨below.le, .cons ?_ each, ?_, ?_, ?_, by simp [eq_comm], ?_, by simp⟩
    · rw [if_neg (by simp [single])]
      exact ⟨start, rfl, accepted⟩
    · intro index member
      rw [List.reduceOption_cons_of_some] at member
      rcases List.mem_cons.mp member with rfl | later
      · exact ⟨le_rfl, below⟩
      · exact ⟨Nat.le_of_succ_le (within index later).1, (within index later).2⟩
    · rw [List.reduceOption_cons_of_some]
      exact .cons (fun index member => (within index member).1) increasing
    · refine List.isChain_cons.mpr ⟨?_, sideBySide⟩
      rintro _ first index further ⟨⟩ rfl
      exact fromStart further first
    · intro index ends
      cases inner with
      | nil =>
        cases ends
        exact nothingLeft rfl
      | cons first inner => exact toStop index (by rwa [List.getLast?_cons_cons] at ends)

/-! ### The search -/

/-- What the search gives is a placement. -/
theorem placement_of_alignFrom (found : alignFrom isRest accepts stop start patterns = some places) :
    Placement isRest accepts start stop patterns places := by
  induction patterns generalizing start places with
  | nil =>
    obtain ⟨ends, same⟩ := Option.ite_none_right_eq_some.mp found
    exact placement_nil.mpr ⟨(Option.some.inj same).symm, ends⟩
  | cons p more ih =>
    rw [alignFrom] at found
    cases rest : isRest p with
    | true =>
      rw [if_pos rest] at found
      obtain ⟨inner, first, rfl⟩ := Option.map_eq_some_iff.mp found
      obtain ⟨next, tried, behind⟩ := List.exists_of_findSome?_eq_some first
      exact (placement_rest rest).mpr ⟨inner, next, rfl, (List.mem_range'_1.mp tried).1, ih behind⟩
    | false =>
      rw [if_neg (by simp [rest])] at found
      obtain ⟨⟨below, accepted⟩, taken⟩ := Option.ite_none_right_eq_some.mp found
      obtain ⟨inner, behind, rfl⟩ := Option.map_eq_some_iff.mp taken
      exact (placement_single rest).mpr ⟨inner, rfl, below, accepted, ih behind⟩

/-- A search that starts further to the left, where there is a placement further to the right, finds
positions that do not come behind. The patterns start with a rest, which can take what is between, or
with a pattern that stands at the start. -/
theorem le_of_start_le
    (least : ∀ start others, Placement isRest accepts start stop patterns others →
      ∃ places, alignFrom isRest accepts stop start patterns = some places ∧
        places.reduceOption ≤ others.reduceOption)
    (found : alignFrom isRest accepts stop start patterns = some places) (before : start ≤ next)
    (placed : Placement isRest accepts next stop patterns others) :
    places.reduceOption ≤ others.reduceOption := by
  have leastHere : Placement isRest accepts start stop patterns others →
      places.reduceOption ≤ others.reduceOption := by
    intro here
    obtain ⟨same, again, first⟩ := least start others here
    cases found.symm.trans again
    exact first
  cases patterns with
  | nil =>
    obtain ⟨rfl, -⟩ := placement_nil.mp (placement_of_alignFrom found)
    obtain ⟨rfl, -⟩ := placement_nil.mp placed
    exact le_rfl
  | cons p more =>
    cases rest : isRest p with
    | true =>
      obtain ⟨inner, further, rfl, above, behind⟩ := (placement_rest rest).mp placed
      exact leastHere ((placement_rest rest).mpr ⟨inner, further, rfl, before.trans above, behind⟩)
    | false =>
      rcases before.eq_or_lt with rfl | before
      · exact leastHere placed
      · obtain ⟨inner, rfl, -⟩ := (placement_single rest).mp (placement_of_alignFrom found)
        obtain ⟨further, rfl, -⟩ := (placement_single rest).mp placed
        rw [List.reduceOption_cons_of_some, List.reduceOption_cons_of_some]
        exact le_of_lt (List.Lex.rel before)

/-- Where there is a placement, the search gives one that does not come behind it. -/
theorem alignFrom_of_placement (placed : Placement isRest accepts start stop patterns others) :
    ∃ places, alignFrom isRest accepts stop start patterns = some places ∧
      places.reduceOption ≤ others.reduceOption := by
  induction patterns generalizing start others with
  | nil =>
    obtain ⟨rfl, rfl⟩ := placement_nil.mp placed
    exact ⟨[], by rw [alignFrom, if_pos rfl], le_rfl⟩
  | cons p more ih =>
    rw [alignFrom]
    cases rest : isRest p with
    | true =>
      rw [if_pos rfl]
      obtain ⟨inner, next, rfl, above, behind⟩ := (placement_rest rest).mp placed
      obtain ⟨further, there, -⟩ := ih behind
      -- The search tries this start, so it ends there or at an earlier one.
      have tried : next ∈ List.range' start (stop + 1 - start) := by
        have room := behind.room
        exact List.mem_range'_1.mpr ⟨above, by omega⟩
      obtain ⟨places, first⟩ : ∃ places, (List.range' start (stop + 1 - start)).findSome?
          (fun next => alignFrom isRest accepts stop next more) = some places := by
        refine Option.isSome_iff_exists.mp (List.findSome?_isSome_iff.mpr ⟨next, tried, ?_⟩)
        rw [there]
        rfl
      refine ⟨none :: places, by rw [first]; rfl, ?_⟩
      obtain ⟨passed, early, later, cut, here, none⟩ := List.findSome?_eq_some_iff.mp first
      have before : early ≤ next := by
        have ascending := List.pairwise_lt_range' (s := start) (n := stop + 1 - start)
        rw [cut, List.pairwise_append, List.pairwise_cons] at ascending
        rw [cut, List.mem_append, List.mem_cons] at tried
        rcases tried with skipped | rfl | behind
        · cases (none next skipped).symm.trans there
        · exact le_rfl
        · exact (ascending.2.1.1 next behind).le
      rw [List.reduceOption_cons_of_none, List.reduceOption_cons_of_none]
      exact le_of_start_le (fun _ _ => ih) here before behind
    | false =>
      rw [if_neg (by simp)]
      obtain ⟨inner, rfl, below, accepted, behind⟩ := (placement_single rest).mp placed
      obtain ⟨places, there, first⟩ := ih behind
      refine ⟨some start :: places, by rw [if_pos ⟨below, accepted⟩, there]; rfl, ?_⟩
      rw [List.reduceOption_cons_of_some, List.reduceOption_cons_of_some]
      exact List.cons_le_cons start first

/-- A placement is known by its positions, since the patterns say where the rests are. -/
theorem eq_of_positions (placed : Placement isRest accepts start stop patterns places)
    (again : Placement isRest accepts start stop patterns others)
    (same : places.reduceOption = others.reduceOption) : places = others := by
  have each := placed.each
  have eachAgain := again.each
  clear placed again
  induction patterns generalizing places others with
  | nil =>
    rw [List.forall₂_nil_left_iff.mp each, List.forall₂_nil_left_iff.mp eachAgain]
  | cons p more ih =>
    obtain ⟨place, inner, here, behind, rfl⟩ := List.forall₂_cons_left_iff.mp each
    obtain ⟨other, further, there, beyond, rfl⟩ := List.forall₂_cons_left_iff.mp eachAgain
    cases rest : isRest p with
    | true =>
      rw [if_pos rest] at here there
      subst here there
      rw [List.reduceOption_cons_of_none, List.reduceOption_cons_of_none] at same
      rw [ih same behind beyond]
    | false =>
      rw [if_neg (by simp [rest])] at here there
      obtain ⟨index, rfl, -⟩ := here
      obtain ⟨index, rfl, -⟩ := there
      rw [List.reduceOption_cons_of_some, List.reduceOption_cons_of_some] at same
      obtain ⟨rfl, remaining⟩ := List.cons.inj same
      rw [ih remaining behind beyond]

/-- Patterns are aligned with the positions below `stop` exactly when they can be placed on them, and
the alignment is the placement whose positions come first in lexicographic order. -/
theorem alignment_is_the_least_placement (isRest : π → Bool) (accepts : π → Nat → Bool)
    (patterns : List π) (stop : Nat) :
    ((∃ places, align isRest accepts patterns stop = some places) ↔
        ∃ places, Placement isRest accepts 0 stop patterns places) ∧
      ∀ places, align isRest accepts patterns stop = some places ↔
        Placement isRest accepts 0 stop patterns places ∧
          ∀ others, Placement isRest accepts 0 stop patterns others →
            places.reduceOption ≤ others.reduceOption := by
  rw [align_eq]
  have found_is_least : ∀ places, alignFrom isRest accepts stop 0 patterns = some places →
      Placement isRest accepts 0 stop patterns places ∧
        ∀ others, Placement isRest accepts 0 stop patterns others →
          places.reduceOption ≤ others.reduceOption := by
    intro places found
    refine ⟨placement_of_alignFrom found, fun others placed => ?_⟩
    obtain ⟨same, again, first⟩ := alignFrom_of_placement placed
    cases found.symm.trans again
    exact first
  refine ⟨⟨?_, ?_⟩, fun places => ⟨found_is_least places, ?_⟩⟩
  · rintro ⟨places, found⟩
    exact ⟨places, placement_of_alignFrom found⟩
  · rintro ⟨others, placed⟩
    obtain ⟨places, found, -⟩ := alignFrom_of_placement placed
    exact ⟨places, found⟩
  · rintro ⟨placed, least⟩
    obtain ⟨found, there, first⟩ := alignFrom_of_placement placed
    have same := eq_of_positions (placement_of_alignFrom there) placed
      (le_antisymm first (least found (placement_of_alignFrom there)))
    rw [there, same]

/-- Whether a letter stands at a position of a word; a missing letter stands for a rest. -/
def spelled (word : List Char) (letter : Option Char) (index : Nat) : Bool :=
  letter = word[index]?

/-- The first letter that is looked for stands in the word twice. The search takes the one further to
the left, and has to pass by the last letter but one to end at the last. -/
theorem first_letter_is_taken :
    align Option.isNone (spelled ['a', 'b', 'c', 'b', 'b']) [none, some 'b', none, some 'b'] 5 =
        some [none, some 1, none, some 4] ∧
      Placement Option.isNone (spelled ['a', 'b', 'c', 'b', 'b']) 0 5
        [none, some 'b', none, some 'b'] [none, some 3, none, some 4] ∧
      [none, some 1, none, some 4].reduceOption ≤ [none, some 3, none, some 4].reduceOption := by
  have other : Placement Option.isNone (spelled ['a', 'b', 'c', 'b', 'b']) 0 5
      [none, some 'b', none, some 'b'] [none, some 3, none, some 4] := by
    refine (placement_rest rfl).mpr ⟨_, 3, rfl, by decide, ?_⟩
    refine (placement_single rfl).mpr ⟨_, rfl, by decide, rfl, ?_⟩
    refine (placement_rest rfl).mpr ⟨_, 4, rfl, by decide, ?_⟩
    refine (placement_single rfl).mpr ⟨_, rfl, by decide, rfl, ?_⟩
    exact placement_nil.mpr ⟨rfl, rfl⟩
  have found : align Option.isNone (spelled ['a', 'b', 'c', 'b', 'b'])
      [none, some 'b', none, some 'b'] 5 = some [none, some 1, none, some 4] := by
    decide
  obtain ⟨-, least⟩ := ((alignment_is_the_least_placement _ _ _ _).2 _).mp found
  exact ⟨found, other, least _ other⟩

end Crosscut.LeftmostAlignment
