/-! Running a step on every member of a list, as long as every step succeeds. -/
namespace Crosscut

/-- What is known of a result shows that there is one. -/
theorem exists_ok_of_map {α β ε : Type} {result : Except ε α} {view : α → β} {seen : β}
    (known : result.toOption.map view = some seen) : ∃ a, result = .ok a ∧ view a = seen := by
  cases result with
  | error e => cases known
  | ok a => exact ⟨a, rfl, Option.some.inj known⟩

/-- A changed result comes from a result. -/
theorem map_eq_ok {α β ε : Type} {result : Except ε α} {change : α → β} {b : β} :
    result.map change = .ok b ↔ ∃ a, result = .ok a ∧ change a = b := by
  cases result with
  | error e => simp [Except.map]
  | ok a => simp [Except.map]

/-- Changing a result changes no failure. -/
theorem map_eq_error {α β ε : Type} {result : Except ε α} {change : α → β} {e : ε} :
    result.map change = .error e ↔ result = .error e := by
  cases result <;> simp [Except.map]

/-- A result of two steps is a result of the second one on that of the first. -/
theorem bind_eq_ok {α β ε : Type} {first : Except ε α} {next : α → Except ε β} {b : β} :
    first.bind next = .ok b ↔ ∃ a, first = .ok a ∧ next a = .ok b := by
  cases first <;> simp [Except.bind]

/-- The results of a step on the members of a list. The first step that fails decides the error. -/
def collect {α β ε : Type} (step : α → Except ε β) : List α → Except ε (List β)
  | [] => .ok []
  | a :: rest =>
    match step a with
    | .error e => .error e
    | .ok b => (collect step rest).map (b :: ·)

variable {α β ε : Type} {step : α → Except ε β}

/-- Results are collected exactly when every step succeeds, and they keep their places. -/
theorem collect_eq_ok {members : List α} {results : List β} :
    collect step members = .ok results ↔ members.map step = results.map .ok := by
  induction members generalizing results with
  | nil => cases results <;> simp [collect]
  | cons a rest ih =>
    simp only [collect, List.map_cons]
    cases first : step a with
    | error e => cases results <;> simp
    | ok b =>
      cases later : collect step rest with
      | error e =>
        have stuck : ∀ tail : List β, rest.map step ≠ tail.map .ok := fun tail succeeded => by
          simp [ih.mpr succeeded] at later
        cases results with
        | nil => simp [Except.map]
        | cons head tail => simp [Except.map, stuck tail]
      | ok tail =>
        have found := ih.mp later
        cases results with
        | nil => simp [Except.map]
        | cons head others =>
          simp only [Except.map, Except.ok.injEq, List.cons.injEq, found, List.map_cons]
          refine and_congr_right fun _ => ?_
          exact (List.map_inj_right fun _ _ same => Except.ok.inj same).symm

theorem collect_succeeds {members : List α} (each : ∀ a ∈ members, ∃ b, step a = .ok b) :
    ∃ results, collect step members = .ok results := by
  induction members with
  | nil => exact ⟨[], rfl⟩
  | cons a rest ih =>
    obtain ⟨b, first⟩ := each a List.mem_cons_self
    obtain ⟨tail, later⟩ := ih fun other member => each other (List.mem_cons_of_mem a member)
    exact ⟨b :: tail, by simp [collect, first, later, Except.map]⟩

/-- A step that gives what another one gives collects what that one collects. -/
theorem collect_of_agreeing {members : List α} {results : List β} {δ : Type}
    {other : α → Except δ β} (agree : ∀ a b, step a = .ok b → other a = .ok b)
    (succeeded : collect step members = .ok results) : collect other members = .ok results := by
  rw [collect_eq_ok] at succeeded ⊢
  induction members generalizing results with
  | nil => simpa using succeeded
  | cons a rest ih =>
    cases results with
    | nil => simp at succeeded
    | cons b later =>
      simp only [List.map_cons, List.cons.injEq] at succeeded ⊢
      exact ⟨agree a b succeeded.1, ih succeeded.2⟩

/-- The first failure is reported. -/
theorem collect_eq_error {members : List α} {e : ε} :
    collect step members = .error e ↔
      ∃ before failing after, members = before ++ failing :: after ∧ step failing = .error e ∧
        ∀ earlier ∈ before, ∃ b, step earlier = .ok b := by
  induction members with
  | nil => simp [collect]
  | cons a rest ih =>
    simp only [collect]
    cases first : step a with
    | error other =>
      constructor
      · intro failed
        cases failed
        exact ⟨[], a, rest, rfl, first, by simp⟩
      · rintro ⟨before, failing, after, shape, failed, passed⟩
        cases before with
        | nil =>
          simp only [List.nil_append, List.cons.injEq] at shape
          rw [← shape.1, first] at failed
          exact congrArg Except.error (Except.error.inj failed)
        | cons head tail =>
          simp only [List.cons_append, List.cons.injEq] at shape
          obtain ⟨b, succeeded⟩ := passed head (by simp)
          rw [← shape.1, first] at succeeded
          cases succeeded
    | ok b =>
      rw [map_eq_error, ih]
      constructor
      · rintro ⟨before, failing, after, shape, failed, passed⟩
        refine ⟨a :: before, failing, after, by simp [shape], failed, fun earlier member => ?_⟩
        rcases List.mem_cons.mp member with rfl | later
        · exact ⟨b, first⟩
        · exact passed earlier later
      · rintro ⟨before, failing, after, shape, failed, passed⟩
        cases before with
        | nil =>
          simp only [List.nil_append, List.cons.injEq] at shape
          rw [← shape.1, first] at failed
          cases failed
        | cons head tail =>
          simp only [List.cons_append, List.cons.injEq] at shape
          exact ⟨tail, failing, after, shape.2, failed, fun earlier member =>
            passed earlier (List.mem_cons_of_mem head member)⟩

/-- A result stands at the place of the member that it was made from. -/
theorem getElem?_of_collect {members : List α} {results : List β}
    (succeeded : collect step members = .ok results) {place : Nat} {b : β}
    (known : results[place]? = some b) : ∃ a, members[place]? = some a ∧ step a = .ok b := by
  have same : (members.map step)[place]? = (results.map Except.ok)[place]? :=
    congrArg (·[place]?) (collect_eq_ok.mp succeeded)
  rw [List.getElem?_map, List.getElem?_map, known, Option.map_some] at same
  exact Option.map_eq_some_iff.mp same

/-- The result that is made from a member stands at the place of the member. -/
theorem getElem?_collect {members : List α} {results : List β}
    (succeeded : collect step members = .ok results) {place : Nat} {a : α}
    (known : members[place]? = some a) : ∃ b, results[place]? = some b ∧ step a = .ok b := by
  have same : (members.map step)[place]? = (results.map Except.ok)[place]? :=
    congrArg (·[place]?) (collect_eq_ok.mp succeeded)
  rw [List.getElem?_map, List.getElem?_map, known, Option.map_some] at same
  obtain ⟨b, there, made⟩ := Option.map_eq_some_iff.mp same.symm
  exact ⟨b, there, made.symm⟩

theorem length_of_collect {members : List α} {results : List β}
    (succeeded : collect step members = .ok results) : results.length = members.length := by
  have same := congrArg List.length (collect_eq_ok.mp succeeded)
  simpa using same.symm

end Crosscut
