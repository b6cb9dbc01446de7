/-! Alignment of a list of patterns with positions. A pattern that stands for the rest takes any
number of positions, every other pattern takes exactly one that it accepts, and together they take
all positions in order. Of several alignments the one with the leftmost positions is chosen, which
is the one that depth-first search meets first. The search notes the places in one list, over what it
has noted on its way into dead ends; the list that it ends with says nothing of those. -/
namespace Crosscut.Matching

/-- The leftmost alignment of patterns with the positions from `start` up to `stop`: the position
of each pattern, and none for a pattern that stands for the rest. -/
def alignFrom {π : Type} (isRest : π → Bool) (accepts : π → Nat → Bool) (stop : Nat) :
    (start : Nat) → List π → Option (List (Option Nat))
  | start, [] => if start = stop then some [] else none
  | start, p :: more =>
    if isRest p then
      ((List.range' start (stop + 1 - start)).findSome?
        fun next => alignFrom isRest accepts stop next more).map (none :: ·)
    else if start < stop ∧ accepts p start = true then
      (alignFrom isRest accepts stop (start + 1) more).map (some start :: ·)
    else none

/-- Tries positions in turn until an attempt succeeds. Each attempt goes on with the places that the
one before has left behind. -/
def firstOf {σ : Type} (attempt : Nat → σ → Bool × σ) : List Nat → σ → Bool × σ
  | [], noted => (false, noted)
  | next :: rest, noted =>
    match attempt next noted with
    | (true, noted) => (true, noted)
    | (false, noted) => firstOf attempt rest noted

/-- Searches for an alignment of the patterns from `index` on with the positions from `start` up to
`stop`, and notes the place of every pattern that is tried. -/
def search {π : Type} (isRest : π → Bool) (accepts : π → Nat → Bool) (stop : Nat) :
    (index start : Nat) → List π → (noted : List (Option Nat)) → Bool × List (Option Nat)
  | _, start, [], noted => (start == stop, noted)
  | index, start, p :: more, noted =>
    if isRest p then
      firstOf (fun next noted => search isRest accepts stop (index + 1) next more noted)
        (List.range' start (stop + 1 - start)) (noted.set index none)
    else if start < stop ∧ accepts p start = true then
      search isRest accepts stop (index + 1) (start + 1) more (noted.set index (some start))
    else (false, noted)

/-- The alignment of patterns with the positions below `stop` that the search meets first. -/
def align {π : Type} (isRest : π → Bool) (accepts : π → Nat → Bool) (patterns : List π)
    (stop : Nat) : Option (List (Option Nat)) :=
  match search isRest accepts stop 0 0 patterns (List.replicate patterns.length none) with
  | (true, noted) => some noted
  | (false, _) => none

/-- What a search leaves noted behind a front that it does not touch: the places that it has found, or
after a failure as many places as there were, whatever they are. -/
def Notes (front : List (Option Nat)) (size : Nat) :
    Option (List (Option Nat)) → Bool × List (Option Nat) → Prop
  | some places, result => result = (true, front ++ places)
  | none, result => ∃ left, left.length = size ∧ result = (false, front ++ left)

theorem notes_firstOf {front : List (Option Nat)} {size : Nat}
    {find : Nat → Option (List (Option Nat))}
    {attempt : Nat → List (Option Nat) → Bool × List (Option Nat)}
    (each : ∀ next noted, noted.length = size →
      Notes front size (find next) (attempt next (front ++ noted)))
    (nexts : List Nat) {noted : List (Option Nat)} (whole : noted.length = size) :
    Notes front size (nexts.findSome? find) (firstOf attempt nexts (front ++ noted)) := by
  induction nexts generalizing noted with
  | nil => exact ⟨noted, whole, rfl⟩
  | cons next rest ih =>
    have first := each next noted whole
    rw [List.findSome?_cons, firstOf]
    cases found : find next with
    | some places =>
      rw [found] at first
      simp only [show attempt next (front ++ noted) = _ from first]
      rfl
    | none =>
      rw [found] at first
      obtain ⟨left, length, failed⟩ := first
      simp only [failed]
      exact ih length

/-- The search notes the leftmost alignment, whatever was noted before. The induction is on the
patterns: the place of the first one joins the front, which the search for the others does not touch. -/
theorem notes_search {π : Type} (isRest : π → Bool) (accepts : π → Nat → Bool) (stop : Nat)
    (patterns : List π) (start : Nat) (front noted : List (Option Nat))
    (whole : noted.length = patterns.length) :
    Notes front patterns.length (alignFrom isRest accepts stop start patterns)
      (search isRest accepts stop front.length start patterns (front ++ noted)) := by
  induction patterns generalizing start front noted with
  | nil =>
    cases List.length_eq_zero_iff.mp whole
    by_cases done : start = stop
    · simp [alignFrom, search, Notes, done]
    · simp [alignFrom, search, Notes, done]
  | cons p more ih =>
    obtain ⟨old, others, rfl⟩ := List.exists_cons_of_length_eq_add_one whole
    have behind : others.length = more.length := Nat.succ.inj whole
    have set : ∀ place, (front ++ old :: others).set front.length place =
        (front ++ [place]) ++ others := by simp
    have joined : ∀ {place found result}, Notes (front ++ [place]) more.length found result →
        Notes front (more.length + 1) (found.map (place :: ·)) result := by
      intro place found result notes
      cases found with
      | some places => simpa [Notes] using notes
      | none =>
        obtain ⟨left, length, rfl⟩ := notes
        exact ⟨place :: left, by simp [length], by simp⟩
    have next : ∀ place start noted, noted.length = more.length →
        Notes (front ++ [place]) more.length (alignFrom isRest accepts stop start more)
          (search isRest accepts stop (front.length + 1) start more ((front ++ [place]) ++ noted)) := by
      intro place start noted length
      simpa using ih start (front ++ [place]) noted length
    rw [alignFrom, search, List.length_cons]
    split
    · rw [set]
      exact joined (notes_firstOf (next none) _ behind)
    · split
      · rw [set]
        exact joined (next (some start) (start + 1) others behind)
      · exact ⟨old :: others, whole, rfl⟩

/-- The search finds the leftmost alignment. -/
theorem align_eq {π : Type} (isRest : π → Bool) (accepts : π → Nat → Bool) (patterns : List π)
    (stop : Nat) : align isRest accepts patterns stop = alignFrom isRest accepts stop 0 patterns := by
  have notes := notes_search isRest accepts stop patterns 0 []
    (List.replicate patterns.length none) List.length_replicate
  unfold align
  cases found : alignFrom isRest accepts stop 0 patterns with
  | some places =>
    rw [found] at notes
    have ended : search isRest accepts stop 0 0 patterns (List.replicate patterns.length none) =
        (true, places) := notes
    rw [ended]
  | none =>
    rw [found] at notes
    obtain ⟨left, -, failed⟩ := notes
    have ended : search isRest accepts stop 0 0 patterns (List.replicate patterns.length none) =
        (false, left) := failed
    rw [ended]

/-- An alignment speaks of every pattern. -/
theorem alignFrom_length {π : Type} {isRest : π → Bool} {accepts : π → Nat → Bool}
    {stop start : Nat} {patterns : List π} {places : List (Option Nat)}
    (aligned : alignFrom isRest accepts stop start patterns = some places) :
    places.length = patterns.length := by
  induction patterns generalizing start places with
  | nil =>
    simp only [alignFrom, Option.ite_none_right_eq_some] at aligned
    simp [← Option.some.inj aligned.2]
  | cons p more ih =>
    simp only [alignFrom] at aligned
    split at aligned
    · obtain ⟨inner, found, rfl⟩ := Option.map_eq_some_iff.mp aligned
      obtain ⟨next, -, later⟩ := List.exists_of_findSome?_eq_some found
      simp [ih later]
    · split at aligned
      · obtain ⟨inner, later, rfl⟩ := Option.map_eq_some_iff.mp aligned
        simp [ih later]
      · cases aligned

/-- A pattern that stands for one position is given one that it accepts. -/
theorem alignFrom_placed {π : Type} {isRest : π → Bool} {accepts : π → Nat → Bool}
    {stop start : Nat} {patterns : List π} {places : List (Option Nat)}
    (aligned : alignFrom isRest accepts stop start patterns = some places) {p : π}
    {place : Option Nat} (paired : (p, place) ∈ patterns.zip places) (single : isRest p = false) :
    ∃ index, place = some index ∧ index < stop ∧ accepts p index = true := by
  induction patterns generalizing start places with
  | nil => simp at paired
  | cons first more ih =>
    simp only [alignFrom] at aligned
    split at aligned
    · rename_i rest
      obtain ⟨inner, found, rfl⟩ := Option.map_eq_some_iff.mp aligned
      obtain ⟨next, -, later⟩ := List.exists_of_findSome?_eq_some found
      rcases List.mem_cons.mp paired with same | behind
      · cases same
        simp [single] at rest
      · exact ih later behind
    · split at aligned
      · rename_i taken
        obtain ⟨inner, later, rfl⟩ := Option.map_eq_some_iff.mp aligned
        rcases List.mem_cons.mp paired with same | behind
        · cases same
          exact ⟨start, rfl, taken⟩
        · exact ih later behind
      · cases aligned

end Crosscut.Matching
