import Crosscut.Proofs.BindingRule

/-! What a match binds. A clause that matches gives one source to each name that it binds, and what
the match has seen of the candidate backs the source: an argument position lies within the parameter
list, and an annotation was found at its place. The binding rule carries both to formulas: of a
formula that obeys it, every match binds the same names in the same order. -/
namespace Crosscut.BindingSources
open BindingRule

/-- What a match has seen of a candidate when it promises a value from a source. -/
def Backed (c : Candidate) : BindingSource → Prop
  | .argument index => index < c.method.parameters.length
  | .object _ => True
  | .annotated site name => site.holds name c = true

private theorem names_of_places {items : List ArgPattern} {places : List (Option Nat)}
    (long : places.length = items.length)
    (placed : ∀ b place, (.bound b, place) ∈ items.zip places → ∃ index, place = some index) :
    ((List.zipWith ArgPattern.source? items places).filterMap id).map (·.1) =
      items.filterMap ArgPattern.boundName? := by
  induction items generalizing places with
  | nil => rfl
  | cons item more ih =>
    cases places with
    | nil => cases long
    | cons place rest =>
      have later := ih (Nat.succ.inj long)
        fun b other member => placed b other (List.mem_cons_of_mem _ member)
      cases item with
      | any | rest | type pattern => exact later
      | bound b =>
        obtain ⟨index, rfl⟩ := placed b place List.mem_cons_self
        exact congrArg (b.name :: ·) later

/-- An argument list binds its names in order. -/
theorem names_of_args {items : List ArgPattern} {types : List HostType} {found : Sources}
    (matched : ArgPattern.match? items types = some found) :
    found.map (·.1) = items.filterMap ArgPattern.boundName? := by
  obtain ⟨places, aligned, rfl⟩ := Option.map_eq_some_iff.mp matched
  rw [Matching.align_eq] at aligned
  refine names_of_places (Matching.alignFrom_length aligned) fun b place paired => ?_
  obtain ⟨index, known, -⟩ := Matching.alignFrom_placed aligned paired rfl
  exact ⟨index, known⟩

/-- An argument list binds a name to a parameter whose type fits the declared type of the name. -/
theorem mem_sources_of_args {items : List ArgPattern} {types : List HostType} {found : Sources}
    (matched : ArgPattern.match? items types = some found) {entry : String × BindingSource}
    (member : entry ∈ found) :
    ∃ b index t, .bound b ∈ items ∧ entry = (b.name, .argument index) ∧ types[index]? = some t ∧
      t.isSubtypeOf b.declaredType.name = true := by
  obtain ⟨places, aligned, rfl⟩ := Option.map_eq_some_iff.mp matched
  rw [Matching.align_eq] at aligned
  obtain ⟨made, listed, same⟩ := List.mem_filterMap.mp member
  rw [← List.map_uncurry_zip_eq_zipWith] at listed
  obtain ⟨⟨item, place⟩, paired, gives⟩ := List.mem_map.mp listed
  replace gives : ArgPattern.source? item place = some entry := gives.trans same
  cases item with
  | any | rest | type pattern => cases place <;> cases gives
  | bound b =>
    obtain ⟨index, rfl, -, accepted⟩ := Matching.alignFrom_placed aligned paired rfl
    obtain ⟨t, known, fits⟩ := (Option.any_eq_true _ _).mp accepted
    cases gives
    exact ⟨b, index, t, (List.of_mem_zip paired).1, rfl, known, fits⟩

/-- A clause that matches binds its names in order. -/
theorem names_of_clause {clause : Clause} {c : Candidate} {found : Sources}
    (matched : clause.match? c = some found) : found.map (·.1) = clause.boundNames := by
  unfold Clause.match? at matched
  unfold Clause.boundNames
  cases spec : clause.spec with
  | execution signature | within pattern =>
    simp only [spec, Option.ite_none_right_eq_some, Option.some.injEq] at matched
    rw [← matched.2]
    rfl
  | object role subject =>
    simp only [spec, Option.ite_none_right_eq_some, Option.some.injEq] at matched
    rw [← matched.2]
    cases subject <;> rfl
  | args items =>
    simp only [spec] at matched
    exact names_of_args matched
  | annotated site pattern =>
    simp only [spec, Option.ite_none_right_eq_some, Option.some.injEq] at matched
    rw [← matched.2]
    cases receives : pattern.receiver <;> simp [AnnotationPattern.sources, receives]

/-- What a clause promises is backed by what it has seen. -/
theorem backed_of_clause {clause : Clause} {c : Candidate} {found : Sources}
    (matched : clause.match? c = some found) : ∀ entry ∈ found, Backed c entry.2 := by
  intro entry member
  unfold Clause.match? at matched
  cases spec : clause.spec with
  | execution signature | within pattern =>
    simp only [spec, Option.ite_none_right_eq_some, Option.some.injEq] at matched
    rw [← matched.2] at member
    cases member
  | object role subject =>
    simp only [spec, Option.ite_none_right_eq_some, Option.some.injEq] at matched
    rw [← matched.2] at member
    cases subject with
    | type pattern => cases member
    | bound b =>
      rw [List.mem_singleton.mp member]
      trivial
  | args items =>
    simp only [spec] at matched
    obtain ⟨b, index, t, -, rfl, known, -⟩ := mem_sources_of_args matched member
    obtain ⟨within, -⟩ := List.getElem?_eq_some_iff.mp known
    rwa [List.length_map] at within
  | annotated site pattern =>
    simp only [spec, Option.ite_none_right_eq_some, Option.some.injEq] at matched
    obtain ⟨holds, rfl⟩ := matched
    cases receives : pattern.receiver with
    | none => simp [AnnotationPattern.sources, receives] at member
    | some name =>
      simp only [AnnotationPattern.sources, receives, List.mem_singleton] at member
      rw [member]
      exact holds

/-- A match of a conjunction is a match of both sides, one after the other. -/
theorem match?_and {left right : Formula Clause} {c : Candidate} {found : Sources} :
    (left.and right).match? c = some found ↔
      ∃ first second, left.match? c = some first ∧ right.match? c = some second ∧
        found = first ++ second := by
  rw [Formula.match?]
  cases left.match? c with
  | none => simp
  | some first => cases right.match? c <;> simp [eq_comm]

/-- A match of a disjunction is a match of one of its sides. -/
theorem match?_or {left right : Formula Clause} {c : Candidate} {found : Sources}
    (matched : (left.or right).match? c = some found) :
    left.match? c = some found ∨ right.match? c = some found := by
  rw [Formula.match?] at matched
  cases first : left.match? c with
  | none =>
    rw [first] at matched
    exact .inr matched
  | some bound =>
    rw [first] at matched
    exact .inl matched

/-- A match of a negation binds nothing. -/
theorem match?_not {inner : Formula Clause} {c : Candidate} {found : Sources}
    (matched : inner.not.match? c = some found) : found = [] := by
  rw [Formula.match?] at matched
  split at matched
  · cases matched
  · exact (Option.some.inj matched).symm

/-- Every match of a formula whose undecided places bind nothing binds all its names in order. -/
theorem names_of_formula {f : Formula Clause} {c : Candidate} {found : Sources}
    (decided : ∀ clause ∈ undecided f, clause.boundNames = []) (matched : f.match? c = some found) :
    found.map (·.1) = boundNames f := by
  induction f generalizing found with
  | leaf clause =>
    rw [boundNames_leaf]
    exact names_of_clause matched
  | not inner ih =>
    rw [match?_not matched]
    exact (boundNames_eq_nil.mpr decided).symm
  | and left right ihLeft ihRight =>
    obtain ⟨first, second, onLeft, onRight, rfl⟩ := match?_and.mp matched
    have namesLeft := ihLeft (fun clause member => decided clause (List.mem_append_left _ member)) onLeft
    have namesRight :=
      ihRight (fun clause member => decided clause (List.mem_append_right _ member)) onRight
    rw [List.map_append, namesLeft, namesRight, boundNames_and]
  | or left right ihLeft ihRight =>
    -- Either side may be the one that matches; the names agree because neither side binds any.
    have nothingLeft : boundNames left = [] :=
      boundNames_eq_nil.mpr fun clause member => decided clause (List.mem_append_left _ member)
    have nothingRight : boundNames right = [] :=
      boundNames_eq_nil.mpr fun clause member => decided clause (List.mem_append_right _ member)
    rw [boundNames_or, nothingLeft, nothingRight]
    rcases match?_or matched with onLeft | onRight
    · exact (ihLeft (decided_of_boundNames nothingLeft) onLeft).trans nothingLeft
    · exact (ihRight (decided_of_boundNames nothingRight) onRight).trans nothingRight
  | reference name body ih => exact ih decided matched

/-- What a match of a formula binds, a match of one of its clauses binds. -/
theorem clause_of_source {f : Formula Clause} {c : Candidate} {found : Sources}
    (matched : f.match? c = some found) {entry : String × BindingSource} (member : entry ∈ found) :
    ∃ clause ∈ f.leaves, ∃ bound, clause.match? c = some bound ∧ entry ∈ bound := by
  induction f generalizing found with
  | leaf clause => exact ⟨clause, List.mem_singleton_self clause, found, matched, member⟩
  | not inner ih =>
    rw [match?_not matched] at member
    cases member
  | and left right ihLeft ihRight =>
    obtain ⟨first, second, onLeft, onRight, rfl⟩ := match?_and.mp matched
    rw [Formula.leaves_and]
    rcases List.mem_append.mp member with inLeft | inRight
    · obtain ⟨clause, listed, binds⟩ := ihLeft onLeft inLeft
      exact ⟨clause, List.mem_append_left _ listed, binds⟩
    · obtain ⟨clause, listed, binds⟩ := ihRight onRight inRight
      exact ⟨clause, List.mem_append_right _ listed, binds⟩
  | or left right ihLeft ihRight =>
    rw [Formula.leaves_or]
    rcases match?_or matched with onLeft | onRight
    · obtain ⟨clause, listed, binds⟩ := ihLeft onLeft member
      exact ⟨clause, List.mem_append_left _ listed, binds⟩
    · obtain ⟨clause, listed, binds⟩ := ihRight onRight member
      exact ⟨clause, List.mem_append_right _ listed, binds⟩
  | reference name body ih => exact ih matched member

/-- What a formula promises is backed by what it has seen. -/
theorem backed_of_formula {f : Formula Clause} {c : Candidate} {found : Sources}
    (matched : f.match? c = some found) : ∀ entry ∈ found, Backed c entry.2 := by
  intro entry member
  obtain ⟨clause, -, bound, onClause, listed⟩ := clause_of_source matched member
  exact backed_of_clause onClause entry listed

end Crosscut.BindingSources
