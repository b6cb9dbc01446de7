import Crosscut.Matcher

/-! What the binding check guarantees. A place is undecided if a match may come about without it:
under a negation, or in a disjunction. The check accepts a formula exactly when no undecided place
binds anything, nothing is bound twice and every declared parameter is bound. A match of such a
formula provides a source for every name that the formula binds, in the order of the places. -/
namespace Crosscut.BindingRule

/-- The leaves that a match may come about without. -/
def undecided {α : Type} : Formula α → List α
  | .leaf _ => []
  | .not inner => inner.leaves
  | .and left right => undecided left ++ undecided right
  | .or left right => left.leaves ++ right.leaves
  | .reference _ body => undecided body

/-- The names that the clauses of a formula bind, from left to right. -/
def boundNames (f : Formula Clause) : List String :=
  f.leaves.flatMap Clause.boundNames

/-- The binding rule for declared parameters. -/
structure Obeyed (f : Formula Clause) (parameters : List Binding) : Prop where
  decided : ∀ clause ∈ undecided f, clause.boundNames = []
  distinct : (boundNames f).Nodup
  exhaustive : ∀ b ∈ parameters, b.name ∈ boundNames f

/-- A part of a formula that may be visited in these surroundings after these names. -/
structure Admissible (above : Surroundings) (bound : List String) (f : Formula Clause) : Prop where
  placed : above = .top ∨ boundNames f = []
  decided : ∀ clause ∈ undecided f, clause.boundNames = []
  distinct : (boundNames f).Nodup
  fresh : ∀ name ∈ boundNames f, name ∉ bound

variable {f left right : Formula Clause} {above : Surroundings} {bound after : List String}

@[simp] theorem boundNames_leaf (clause : Clause) :
    boundNames (.leaf clause) = clause.boundNames := by
  simp [boundNames]

@[simp] theorem boundNames_not (f : Formula Clause) : boundNames f.not = boundNames f := rfl

@[simp] theorem boundNames_and (left right : Formula Clause) :
    boundNames (left.and right) = boundNames left ++ boundNames right := by
  simp [boundNames]

@[simp] theorem boundNames_or (left right : Formula Clause) :
    boundNames (left.or right) = boundNames left ++ boundNames right := by
  simp [boundNames]

@[simp] theorem boundNames_reference (name : String) (f : Formula Clause) :
    boundNames (f.reference name) = boundNames f := rfl

theorem boundNames_eq_nil : boundNames f = [] ↔ ∀ clause ∈ f.leaves, clause.boundNames = [] :=
  List.flatMap_eq_nil_iff

theorem mem_leaves_of_undecided {α : Type} {f : Formula α} {value : α}
    (member : value ∈ undecided f) : value ∈ f.leaves := by
  induction f with
  | leaf _ => cases member
  | not inner _ => exact member
  | and left right ihLeft ihRight =>
    rw [Formula.leaves_and]
    exact List.mem_append.mpr ((List.mem_append.mp member).imp ihLeft ihRight)
  | or left right _ _ =>
    rw [Formula.leaves_or]
    exact member
  | reference name body ih => exact ih member

/-- A formula that binds nothing leaves nothing undecided that binds. -/
theorem decided_of_boundNames (nothing : boundNames f = []) :
    ∀ clause ∈ undecided f, clause.boundNames = [] :=
  fun clause member => boundNames_eq_nil.mp nothing clause (mem_leaves_of_undecided member)

/-- A formula that binds nothing is admissible everywhere. -/
theorem admissible_of_boundNames (nothing : boundNames f = []) : Admissible above bound f where
  placed := .inr nothing
  decided := decided_of_boundNames nothing
  distinct := by simp [nothing]
  fresh := by simp [nothing]

/-- Below a negation or a disjunction, only formulas that bind nothing are admissible. -/
theorem admissible_below (below : above ≠ .top) :
    Admissible above bound f ↔ boundNames f = [] :=
  ⟨fun admissible => admissible.placed.resolve_left below, admissible_of_boundNames⟩

theorem admissible_not : Admissible above bound f.not ↔ boundNames f = [] :=
  ⟨fun admissible => boundNames_eq_nil.mpr admissible.decided,
    fun nothing => admissible_of_boundNames nothing⟩

theorem admissible_or :
    Admissible above bound (left.or right) ↔ boundNames left = [] ∧ boundNames right = [] := by
  rw [← List.append_eq_nil_iff, ← boundNames_or]
  refine ⟨fun admissible => boundNames_eq_nil.mpr ?_, admissible_of_boundNames⟩
  rw [Formula.leaves_or]
  exact admissible.decided

/-- A conjunction is visited as its sides one after the other. -/
theorem admissible_and :
    Admissible above bound (left.and right) ↔
      Admissible above bound left ∧ Admissible above (bound ++ boundNames left) right := by
  constructor
  · rintro ⟨placed, decided, distinct, fresh⟩
    rw [boundNames_and] at placed distinct fresh
    obtain ⟨distinctLeft, distinctRight, apart⟩ := List.nodup_append.mp distinct
    have nothing : above = .top ∨ boundNames left = [] ∧ boundNames right = [] :=
      placed.imp_right List.append_eq_nil_iff.mp
    refine ⟨⟨nothing.imp_right And.left, fun clause member => decided clause
        (List.mem_append_left _ member), distinctLeft, fun name member => fresh name
        (List.mem_append_left _ member)⟩,
      ⟨nothing.imp_right And.right, fun clause member => decided clause
        (List.mem_append_right _ member), distinctRight, fun name member taken => ?_⟩⟩
    rcases List.mem_append.mp taken with before | onLeft
    · exact fresh name (List.mem_append_right _ member) before
    · exact apart name onLeft name member rfl
  · rintro ⟨onLeft, onRight⟩
    have apart : ∀ name ∈ boundNames left, ∀ other ∈ boundNames right, name ≠ other := by
      intro name member other placed same
      exact onRight.fresh other placed (List.mem_append_right _ (same ▸ member))
    constructor
    · rcases onLeft.placed with top | nothingLeft
      · exact .inl top
      · exact onRight.placed.imp_right fun nothingRight => by simp [nothingLeft, nothingRight]
    · intro clause member
      rcases List.mem_append.mp member with inLeft | inRight
      · exact onLeft.decided clause inLeft
      · exact onRight.decided clause inRight
    · rw [boundNames_and]
      exact List.nodup_append.mpr ⟨onLeft.distinct, onRight.distinct, apart⟩
    · intro name member taken
      rw [boundNames_and] at member
      rcases List.mem_append.mp member with inLeft | inRight
      · exact onLeft.fresh name inLeft taken
      · exact onRight.fresh name inRight (List.mem_append_left _ taken)

theorem admissible_reference {name : String} :
    Admissible above bound (f.reference name) ↔ Admissible above bound f := by
  constructor <;> exact fun ⟨placed, decided, distinct, fresh⟩ => ⟨placed, decided, distinct, fresh⟩

/-- The names of one clause are bound exactly where the clause is admissible. -/
theorem bindNames_eq_ok {names : List String} :
    above.bindNames bound names = .ok after ↔
      after = bound ++ names ∧ (above = .top ∨ names = []) ∧ names.Nodup ∧
        ∀ name ∈ names, name ∉ bound := by
  induction names generalizing bound with
  | nil => simp [Surroundings.bindNames, eq_comm]
  | cons name rest ih =>
    obtain ⟨negated, disjunct⟩ := above
    simp only [Surroundings.bindNames]
    cases negated with
    | true => simp [Surroundings.top]
    | false =>
      cases disjunct with
      | true => simp [Surroundings.top]
      | false =>
        by_cases taken : name ∈ bound
        · simp [taken]
        · simp only [taken, List.contains_eq_mem, decide_false, Bool.false_eq_true, ↓reduceIte, ih,
            Surroundings.top, List.append_assoc, List.cons_append, List.nil_append, List.nodup_cons,
            List.mem_cons, List.mem_append, forall_eq_or_imp]
          grind

/-- A formula is visited without a fault exactly when it is admissible, and the visit adds the
names that it binds. -/
theorem bindPlaces_eq_ok :
    f.bindPlaces above bound = .ok after ↔ after = bound ++ boundNames f ∧ Admissible above bound f := by
  -- A part is visited in other surroundings and after other names than the whole.
  induction f generalizing above bound after with
  | leaf clause =>
    rw [Formula.bindPlaces, bindNames_eq_ok, boundNames_leaf]
    refine and_congr_right fun _ => ⟨fun ⟨placed, distinct, fresh⟩ => ?_, fun admissible => ?_⟩
    · exact ⟨by simpa using placed, by simp [undecided], by simpa using distinct, by simpa using fresh⟩
    · exact ⟨by simpa using admissible.placed, by simpa using admissible.distinct,
        by simpa using admissible.fresh⟩
  | not inner ih =>
    have below : { above with negated := true } ≠ Surroundings.top := by simp [Surroundings.top]
    rw [Formula.bindPlaces, ih, admissible_below below, admissible_not, boundNames_not]
  | and left right ihLeft ihRight =>
    rw [Formula.bindPlaces, admissible_and, boundNames_and, ← List.append_assoc]
    cases visited : left.bindPlaces above bound with
    | error fault =>
      have refused : ¬ Admissible above bound left := fun admissible => by
        simp [ihLeft.mpr ⟨rfl, admissible⟩] at visited
      simp [refused]
    | ok middle =>
      obtain ⟨rfl, admissible⟩ := ihLeft.mp visited
      simp [ihRight, admissible]
  | or left right ihLeft ihRight =>
    have below : { above with disjunct := true } ≠ Surroundings.top := by simp [Surroundings.top]
    rw [Formula.bindPlaces, admissible_or, boundNames_or, ← List.append_assoc]
    cases visited : left.bindPlaces { above with disjunct := true } bound with
    | error fault =>
      have refused : boundNames left ≠ [] := fun nothing => by
        simp [ihLeft.mpr ⟨rfl, (admissible_below below).mpr nothing⟩] at visited
      simp [refused]
    | ok middle =>
      obtain ⟨rfl, admissible⟩ := ihLeft.mp visited
      simp [ihRight, admissible_below below, (admissible_below below).mp admissible]
  | reference name body ih => rw [Formula.bindPlaces, ih, admissible_reference, boundNames_reference]

/-- The check accepts exactly the formulas that obey the rule. -/
theorem checkBindings_eq_ok {parameters : List Binding} :
    f.checkBindings parameters = .ok () ↔ Obeyed f parameters := by
  rw [Formula.checkBindings]
  cases visited : f.bindPlaces .top [] with
  | error fault =>
    refine ⟨fun accepted => by simp at accepted, fun ⟨decided, distinct, _⟩ => ?_⟩
    have admissible : Admissible .top [] f := ⟨.inl rfl, decided, distinct, by simp⟩
    simp [bindPlaces_eq_ok.mpr ⟨rfl, admissible⟩] at visited
  | ok names =>
    obtain ⟨rfl, admissible⟩ := bindPlaces_eq_ok.mp visited
    have exhausted : parameters.find? (!(boundNames f).contains ·.name) = none ↔
        ∀ b ∈ parameters, b.name ∈ boundNames f := by
      simp [List.find?_eq_none]
    dsimp only [List.nil_append]
    constructor
    · intro accepted
      refine ⟨admissible.decided, admissible.distinct, exhausted.mp ?_⟩
      split at accepted
      · cases accepted
      · assumption
    · intro obeyed
      rw [exhausted.mpr obeyed.exhaustive]

/-- Every accepted pointcut obeys the binding rule for its declared parameters. -/
theorem parsed_obeys {ctx : PointcutContext} {expression : String} {p : Pointcut}
    (accepted : Pointcut.parse ctx expression = .ok p) : Obeyed p.root ctx.parameters := by
  obtain ⟨tokens, root, -, checked, rfl⟩ := Pointcut.parse_eq_ok.mp accepted
  exact checkBindings_eq_ok.mp checked

end Crosscut.BindingRule
