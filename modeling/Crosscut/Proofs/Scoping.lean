import Crosscut.Pointcut.Parse

/-! Where the names come from that a pointcut binds. A name in a clause stands for a parameter only
if it is in scope. The first scope holds the declared parameters, and the scope of a referenced
pointcut holds under its own names what the reference passes, which is looked up in the scope of the
reference. So however often a parameter has been renamed on the way, a clause binds it under its
declared name and tests for its declared type. -/
namespace Crosscut.Scoping

/-- A clause binds a parameter of a name and takes it to be of the named type. -/
inductive Binds : ClauseSpec → String → String → Prop where
  | object (role : ObjectRole) (b : Binding) :
      Binds (.object role (.bound b)) b.name b.declaredType.name
  | argument {items : List ArgPattern} {b : Binding} (listed : .bound b ∈ items) :
      Binds (.args items) b.name b.declaredType.name
  | annotated (site : AnnotationSite) (typeName name : String) :
      Binds (.annotated site ⟨typeName, some name⟩) name typeName

/-- A declared parameter has the name and a type of the name given. -/
def Declares (parameters : List Binding) (name typeName : String) : Prop :=
  ∃ b ∈ parameters, b.name = name ∧ b.declaredType.name = typeName

/-- A clause binds declared parameters only, with their declared types. -/
def Respects (parameters : List Binding) (spec : ClauseSpec) : Prop :=
  ∀ name typeName, Binds spec name typeName → Declares parameters name typeName

/-- The parameters that a scope knows are declared ones. -/
def Within (parameters : List Binding) (scope : Scope) : Prop :=
  ∀ name b, (name, .parameter b) ∈ scope → b ∈ parameters

variable {parameters : List Binding} {scope : Scope}

/-- The names that a clause binds are the ones that it lists. -/
theorem mem_boundNames {clause : Clause} {name : String} :
    name ∈ clause.boundNames ↔ ∃ typeName, Binds clause.spec name typeName := by
  unfold Clause.boundNames
  cases spec : clause.spec with
  | execution signature | within pattern => exact ⟨nofun, nofun⟩
  | object role subject =>
    cases subject with
    | type pattern => exact ⟨nofun, nofun⟩
    | bound b =>
      constructor
      · intro member
        rw [List.mem_singleton.mp member]
        exact ⟨_, .object role b⟩
      · rintro ⟨_, ⟨⟩⟩
        exact List.mem_singleton_self _
  | args items =>
    constructor
    · intro member
      obtain ⟨item, listed, named⟩ := List.mem_filterMap.mp member
      cases item with
      | any | rest | type pattern => cases named
      | bound b =>
        cases named
        exact ⟨_, .argument listed⟩
    · rintro ⟨_, ⟨⟩⟩
      rename_i b listed
      exact List.mem_filterMap.mpr ⟨_, listed, rfl⟩
  | annotated site pattern =>
    obtain ⟨wanted, receiver⟩ := pattern
    constructor
    · intro member
      have known : receiver = some name := Option.mem_toList.mp member
      subst known
      exact ⟨wanted, .annotated site wanted name⟩
    · rintro ⟨_, ⟨⟩⟩
      exact List.mem_singleton_self _

theorem within_ofParameters (parameters : List Binding) :
    Within parameters (.ofParameters parameters) := by
  intro name b member
  obtain ⟨other, declared, same⟩ := List.mem_map.mp member
  cases same
  exact declared

/-- What a name in scope stands for, if a parameter, is a declared one. -/
theorem declared_of_lookup (within : Within parameters scope) {text : String} {b : Binding}
    (found : scope.lookup text = .ok (some (.parameter b))) : b ∈ parameters := by
  unfold Scope.lookup at found
  split at found
  · rename_i known
    cases found
    obtain ⟨⟨name, stands⟩, first, same⟩ := Option.map_eq_some_iff.mp known
    cases same
    exact within name b (List.mem_reverse.mp (List.mem_of_find?_eq_some first))
  · split at found <;> cases found

theorem declared_of_meaning (within : Within parameters scope) {text : String} {b : Binding}
    (found : ClauseSpec.meaning scope text = .ok (some (.parameter b))) : b ∈ parameters := by
  unfold ClauseSpec.meaning at found
  cases known : scope.lookup text with
  | error name =>
    rw [known] at found
    cases found
  | ok meaning =>
    rw [known] at found
    cases found
    exact declared_of_lookup within known

/-- An argument item that binds something binds a declared parameter. -/
theorem declared_of_readArg (within : Within parameters scope) {item : List Char} {b : Binding}
    (made : ClauseSpec.readArg scope item = .ok (.bound b)) : b ∈ parameters := by
  unfold ClauseSpec.readArg at made
  split at made
  · cases made
  · split at made
    · cases made
    · split at made
      · cases made
      · rename_i known
        cases made
        exact declared_of_meaning within known
      · cases made
      · split at made <;> cases made

theorem declared_of_readArgs (within : Within parameters scope) {items : List (List Char)}
    {args : List ArgPattern} (made : ClauseSpec.readArgs scope items = .ok args) {b : Binding}
    (listed : .bound b ∈ args) : b ∈ parameters := by
  induction items generalizing args with
  | nil =>
    cases made
    cases listed
  | cons item rest ih =>
    unfold ClauseSpec.readArgs at made
    split at made
    · cases made
    · rename_i arg first
      obtain ⟨others, later, rfl⟩ := map_eq_ok.mp made
      rcases List.mem_cons.mp listed with rfl | behind
      · exact declared_of_readArg within first
      · exact ih later behind

/-- A body that is read in a scope of declared parameters binds declared parameters only. -/
theorem respects_of_read (within : Within parameters scope) {body : String} {d : Designator}
    {spec : ClauseSpec} (made : ClauseSpec.read scope body d = .ok spec) :
    Respects parameters spec := by
  intro name typeName binds
  unfold ClauseSpec.read at made
  cases d with
  | execution | within =>
    obtain ⟨_, -, rfl⟩ := map_eq_ok.mp made
    cases binds
  | object role =>
    dsimp only at made
    split at made
    · cases made
    · obtain ⟨subject, read, rfl⟩ := map_eq_ok.mp made
      obtain ⟨meaning, known, stands⟩ := map_eq_ok.mp read
      cases binds with
      | object _ b =>
        rcases meaning with _ | (bound | passed)
        · cases stands
        · cases stands
          exact ⟨b, declared_of_meaning within known, rfl, rfl⟩
        · cases stands
  | args =>
    obtain ⟨args, read, rfl⟩ := map_eq_ok.mp made
    cases binds with
    | argument listed => exact ⟨_, declared_of_readArgs within read listed, rfl, rfl⟩
  | annotated site =>
    dsimp only at made
    split at made
    · cases made
    · obtain ⟨pattern, read, rfl⟩ := map_eq_ok.mp made
      obtain ⟨meaning, known, stands⟩ := map_eq_ok.mp read
      cases binds with
      | annotated =>
        rcases meaning with _ | (bound | passed)
        · cases stands
        · cases stands
          exact ⟨bound, declared_of_meaning within known, rfl, rfl⟩
        · cases stands

/-- A reference passes on declared parameters only, under whatever names. -/
theorem within_of_passAll (within : Within parameters scope) {raw : RawClause}
    {expression : String} {passed : List (String × List Char)} {inner : Scope}
    (made : raw.passAll expression scope passed = .ok inner) : Within parameters inner := by
  intro name b member
  have listed : .ok (name, .parameter b) ∈ inner.map (Except.ok (ε := ParseError)) :=
    List.mem_map_of_mem member
  rw [← collect_eq_ok.mp made] at listed
  obtain ⟨⟨other, text⟩, -, gives⟩ := List.mem_map.mp listed
  obtain ⟨meaning, stands, same⟩ := map_eq_ok.mp gives
  cases same
  unfold RawClause.passedMeaning at stands
  split at stands
  · cases stands
  · rename_i known
    cases stands
    exact declared_of_lookup within known
  · split at stands <;> cases stands

/-- All clauses of a formula bind declared parameters only. -/
def AllRespect (parameters : List Binding) (f : Formula Clause) : Prop :=
  ∀ clause ∈ f.leaves, Respects parameters clause.spec

theorem closed_allRespect : Grammar.Closed (AllRespect parameters) where
  not := id
  and := by
    intro left right onLeft onRight clause member
    rw [Formula.leaves_and] at member
    exact (List.mem_append.mp member).elim (onLeft clause) (onRight clause)
  or := by
    intro left right onLeft onRight clause member
    rw [Formula.leaves_or] at member
    exact (List.mem_append.mp member).elim (onLeft clause) (onRight clause)

/-- However deep the references nest, every clause binds declared parameters only. -/
theorem allRespect_of_expand {ctx : PointcutContext} {active : List String} {expression : String}
    {tokens : List Token} {f : Formula Clause} (within : Within parameters scope)
    (made : Pointcut.expand ctx active scope expression = .ok (tokens, f)) :
    AllRespect parameters f := by
  induction active, scope, expression using Pointcut.expand_induction generalizing tokens f with
  | step active scope expression ih =>
    obtain ⟨-, -, read⟩ := Pointcut.expand_eq_ok.mp made
    refine Grammar.formula_keeps closed_allRespect ?_ read
    intro raw g stands
    rcases Pointcut.readClause_eq_ok.mp stands with
      ⟨d, clause, -, test, rfl⟩ | ⟨inner, tokens, body, -, entered, expanded, rfl⟩
    · obtain ⟨spec, bodyRead, rfl⟩ := RawClause.toClause_eq_ok.mp test
      intro other member
      rw [List.mem_singleton.mp member]
      exact respects_of_read within bodyRead
    · obtain ⟨p, -, -, -, -, passed⟩ := RawClause.expansion_eq_ok.mp entered
      have inBody : AllRespect parameters body :=
        ih inner inner.property (within_of_passAll within passed) expanded
      exact inBody

/-- The clauses of an accepted pointcut bind declared parameters only, with their declared types. -/
theorem allRespect_of_parse {ctx : PointcutContext} {expression : String} {p : Pointcut}
    (accepted : Pointcut.parse ctx expression = .ok p) : AllRespect ctx.parameters p.root := by
  obtain ⟨tokens, root, expanded, -, rfl⟩ := Pointcut.parse_eq_ok.mp accepted
  exact allRespect_of_expand (within_ofParameters ctx.parameters) expanded

end Crosscut.Scoping
