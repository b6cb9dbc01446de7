import Crosscut.Proofs.ReferenceCycles

/-! Where a reference finds its pointcut. A name by itself is looked up on the aspect. A qualifier may
mean every type of the hierarchy that has it as its full name or as its last segment, but only the
first of these types is asked, whether or not it lists a pointcut of the name. So a pointcut is found
wherever the qualifier means one type only, and what is found is always a pointcut of a type that the
qualifier means. Where it means several types, a pointcut of a later one stays unknown. -/
namespace Crosscut.PointcutLookup
open ReferenceCycles

/-- A type that a reference on an aspect may mean, and the name that is looked up on the type. -/
inductive MayMean (aspect : HostType) : (reference : String) → HostType → (name : String) → Prop where
  | plain {reference : String} (unqualified : '.' ∉ reference.toList) :
      MayMean aspect reference aspect reference
  | qualified {t : HostType} {qualifier name : String} (simple : '.' ∉ name.toList)
      (inside : t ∈ aspect.hierarchy) (called : t.name = qualifier ∨ t.simpleName = qualifier) :
      MayMean aspect (qualifier ++ "." ++ name) t name

/-- The types that a reference may mean, in the order of the hierarchy. -/
def candidates (aspect : HostType) (reference : String) : List (HostType × String) :=
  match Text.cutLast '.' reference.toList with
  | none => [(aspect, reference)]
  | some (qualifier, name) =>
    (aspect.hierarchy.filter fun t =>
      t.name == String.ofList qualifier || t.simpleName == String.ofList qualifier).map
        (·, String.ofList name)

/-- On a type, a method of a name can be called that carries the annotation of named pointcuts. -/
def Lists (annotationName : String) (t : HostType) (name : String) : Prop :=
  ∃ m ∈ t.methods, m.name = name ∧ m.isAnnotatedWith annotationName = true

/-- No type that a reference may mean lists a pointcut of the name. -/
def Absent (ctx : PointcutContext) (aspect : HostType) (reference : String) : Prop :=
  ∀ t name, MayMean aspect reference t name → ¬ Lists ctx.pointcutAnnotation t name

/-- The first type that a reference may mean, if there is one, lists no pointcut of the name. -/
def AbsentOnFirst (ctx : PointcutContext) (aspect : HostType) (reference : String) : Prop :=
  ∀ t name, (candidates aspect reference).head? = some (t, name) →
    ¬ Lists ctx.pointcutAnnotation t name

/-- A reference means at most one type. -/
def Unambiguous (aspect : HostType) (reference : String) : Prop :=
  ∀ s t name name', MayMean aspect reference s name → MayMean aspect reference t name' → s = t

variable {ctx : PointcutContext} {aspect t : HostType} {reference name annotationName : String}
  {active : List String} {scope : Scope} {expression : String} {raw : RawClause}

theorem mem_candidates : (t, name) ∈ candidates aspect reference ↔ MayMean aspect reference t name := by
  unfold candidates
  split
  · rename_i uncut
    have unqualified := Text.cutLast_eq_none.mp uncut
    constructor
    · intro member
      cases List.mem_singleton.mp member
      exact .plain unqualified
    · intro means
      cases means with
      | plain => exact List.mem_singleton_self _
      | qualified => simp at unqualified
  · rename_i qualifier rest cut
    obtain ⟨whole, simple⟩ := Text.cutLast_eq_some cut
    simp only [List.mem_map, List.mem_filter, Bool.or_eq_true, beq_iff_eq, Prod.mk.injEq]
    constructor
    · rintro ⟨t, ⟨inside, called⟩, rfl, rfl⟩
      have shape : reference = String.ofList qualifier ++ "." ++ String.ofList rest := by
        rw [← String.toList_inj]
        simpa using whole
      rw [shape]
      exact .qualified (by simpa using simple) inside called
    · intro means
      cases means with
      | plain unqualified => simp [whole] at unqualified
      | @qualified _ qualifier' _ simple' inside called =>
        have again : (qualifier' ++ "." ++ name).toList =
            qualifier'.toList ++ '.' :: name.toList := by simp
        rw [again, Text.cutLast_append simple'] at cut
        cases cut
        exact ⟨t, ⟨inside, by simpa using called⟩, rfl, by simp⟩

/-- A reference without a qualifier means the aspect and nothing else. -/
theorem unambiguous_of_unqualified (plain : '.' ∉ reference.toList) : Unambiguous aspect reference := by
  have only : ∀ t name, MayMean aspect reference t name → t = aspect := by
    intro t name means
    cases means with
    | plain => rfl
    | qualified => simp at plain
  intro s t name name' means means'
  rw [only s name means, only t name' means']

/-- The name that is looked up is the last segment of the reference, whatever type it may mean. -/
theorem name_of_mayMean (means : MayMean aspect reference t name) :
    name = String.ofList (Text.afterLast '.' reference.toList) := by
  cases means with
  | plain unqualified =>
    rw [Text.afterLast, Text.cutLast_eq_none.mpr unqualified]
    exact String.ofList_toList.symm
  | @qualified _ qualifier _ simple inside called =>
    have whole : (qualifier ++ "." ++ name).toList = qualifier.toList ++ '.' :: name.toList := by simp
    rw [Text.afterLast, whole, Text.cutLast_append simple]
    exact String.ofList_toList.symm

/-- The pointcuts of an unambiguous reference are those of the first type. -/
theorem absent_of_first (unambiguous : Unambiguous aspect reference)
    (none : AbsentOnFirst ctx aspect reference) : Absent ctx aspect reference := by
  intro t name means
  have filled : candidates aspect reference ≠ [] := List.ne_nil_of_mem (mem_candidates.mpr means)
  obtain ⟨⟨s, other⟩, rest, shape⟩ := List.exists_cons_of_ne_nil filled
  have first : MayMean aspect reference s other := mem_candidates.mp (by simp [shape])
  have sameName : other = name := (name_of_mayMean first).trans (name_of_mayMean means).symm
  have sameType := unambiguous s t other name first means
  subst sameName sameType
  exact none s other (by simp [shape])

/-! ### Looking up -/

theorem onType?_eq_none : NamedPointcut.onType? annotationName t name = none ↔
    ¬ Lists annotationName t name := by
  simp [NamedPointcut.onType?, NamedPointcut.ofMethod?, Method.annotation?, Lists,
    Method.isAnnotatedWith, ← Annotation.first?_isSome]

/-- What is found on a type is a pointcut of the name that the type lists. -/
theorem listed_of_onType? {p : NamedPointcut}
    (found : NamedPointcut.onType? annotationName t name = some p) :
    p.method ∈ t.methods ∧ p.method.name = name ∧ p.method.isAnnotatedWith annotationName = true := by
  obtain ⟨m, offered, made⟩ := List.exists_of_findSome?_eq_some found
  obtain ⟨listed, named⟩ := List.mem_filter.mp offered
  obtain ⟨marker, marked, rfl⟩ := Option.map_eq_some_iff.mp made
  refine ⟨listed, by simpa using named, ?_⟩
  rw [Method.isAnnotatedWith, ← Annotation.first?_isSome]
  exact Option.isSome_iff_exists.mpr ⟨marker, marked⟩

/-- A reference is looked up on the first type that it may mean. -/
theorem find?_eq_first : NamedPointcut.find? annotationName aspect reference =
    (candidates aspect reference).head?.bind fun c =>
      NamedPointcut.onType? annotationName c.1 c.2 := by
  unfold NamedPointcut.find? candidates
  cases Text.cutLast '.' reference.toList with
  | none => rfl
  | some parts =>
    dsimp only
    rw [NamedPointcut.ownerIn?, HostType.find?_eq, List.head?_map, List.head?_filter]
    cases aspect.hierarchy.find? fun t =>
      t.name == String.ofList parts.1 || t.simpleName == String.ofList parts.1 <;> rfl

variable (given : ctx.aspect = some aspect)
include given

theorem find?_eq_none : ctx.find? reference = none ↔ AbsentOnFirst ctx aspect reference := by
  rw [PointcutContext.find?, given]
  dsimp only
  rw [find?_eq_first, AbsentOnFirst]
  cases (candidates aspect reference).head? with
  | none => simp
  | some first =>
    rw [Option.bind_some, onType?_eq_none]
    constructor
    · rintro none t name ⟨⟩
      exact none
    · exact fun none => none first.1 first.2 rfl

/-- What a reference denotes is a pointcut of a type that it may mean. -/
theorem listed_of_find? {p : NamedPointcut} (found : ctx.find? reference = some p) :
    p.method.isAnnotatedWith ctx.pointcutAnnotation = true ∧
      ∃ t name, MayMean aspect reference t name ∧ p.method ∈ t.methods ∧ p.method.name = name := by
  rw [PointcutContext.find?, given] at found
  dsimp only at found
  rw [find?_eq_first] at found
  obtain ⟨⟨t, name⟩, first, offered⟩ := Option.bind_eq_some_iff.mp found
  obtain ⟨listed, named, marked⟩ := listed_of_onType? offered
  exact ⟨marked, t, name, mem_candidates.mp (List.mem_of_head? first), listed, named⟩

omit given

/-! ### Unknown pointcuts -/

/-- A reference whose lookup finds nothing reports that. -/
theorem readClause_of_unknown (refers : raw.kind = .reference)
    (unknown : ctx.find? raw.keyword = none) :
    Pointcut.readClause ctx active scope expression raw =
      .error (.unknownPointcut expression raw.keyword) := by
  have failed : raw.expansion ctx active scope expression =
      .error (.unknownPointcut expression raw.keyword) := by
    unfold RawClause.expansion
    split
    · rfl
    · rename_i p found
      cases unknown.symm.trans found
  simp only [Pointcut.readClause, refers, failed]

/-- A reference itself reports an unknown pointcut only of its own name. -/
theorem unknown_of_expansion {within : String}
    (failed : raw.expansion ctx active scope expression = .error (.unknownPointcut within name)) :
    ctx.find? name = none := by
  cases refusal_of_expansion rfl failed with
  | unknown absent => exact absent

/-- Wherever in nested expansions a pointcut is reported as unknown, its lookup finds nothing. -/
theorem unknown_of_expand {within : String}
    (failed : Pointcut.expand ctx active scope expression = .error (.unknownPointcut within name)) :
    ctx.find? name = none := by
  induction active, scope, expression using Pointcut.expand_induction with
  | step active scope expression ih =>
    obtain ⟨tokens, raw, offset, -, -, refused⟩ := clause_of_expand rfl failed
    obtain ⟨-, here | ⟨inner, -, inside⟩⟩ := reference_of_readClause rfl refused
    · exact unknown_of_expansion here
    · exact ih inner.val inner.property inside

/-- On an aspect, a pointcut is reported as unknown exactly if the first type that the reference may
mean lists none of the name: whatever unknown name a reference reports, its own or one inside its
expansion, that type lists none. So a reference that means one type only, as every unqualified one
does, is unknown only if no such pointcut is there. What a reference denotes is annotated as a pointcut,
and is a method of a type that the reference may mean. -/
theorem unknown_iff_first_lists_none (given : ctx.aspect = some aspect)
    (refers : raw.kind = .reference) :
    (∀ within name, Pointcut.readClause ctx active scope expression raw =
        .error (.unknownPointcut within name) →
      AbsentOnFirst ctx aspect name ∧ (Unambiguous aspect name → Absent ctx aspect name)) ∧
    (AbsentOnFirst ctx aspect raw.keyword → Pointcut.readClause ctx active scope expression raw =
      .error (.unknownPointcut expression raw.keyword)) ∧
    (∀ reference, '.' ∉ reference.toList → Unambiguous aspect reference) ∧
    ∀ p, ctx.find? raw.keyword = some p →
      p.method.isAnnotatedWith ctx.pointcutAnnotation = true ∧
        ∃ t name, MayMean aspect raw.keyword t name ∧ p.method ∈ t.methods ∧ p.method.name = name := by
  refine ⟨fun within name failed => ?_,
    fun none => readClause_of_unknown refers ((find?_eq_none given).mpr none),
    fun _ => unambiguous_of_unqualified, fun p => listed_of_find? given⟩
  have unknown : ctx.find? name = none := by
    obtain ⟨-, here | ⟨inner, -, inside⟩⟩ := reference_of_readClause rfl failed
    · exact unknown_of_expansion here
    · exact unknown_of_expand inside
  have first := (find?_eq_none given).mp unknown
  exact ⟨first, fun unambiguous => absent_of_first unambiguous first⟩

/-- A type that is called `Base` by its last segment, and lists nothing. -/
def template : HostType := .mk "plan.Base" 1 [] [] []

/-- A type whose full name is `Base`, with a named pointcut. -/
def base : HostType := .mk "Base" 2 [] [] [pointcut "posts" "execution(* post(..))"]

/-- An aspect below both types, whose own pointcut refers to the one of `Base`. -/
def audit : HostType :=
  .mk "demo.Audit" 3 [⟨"Aspect", []⟩] [template, base] [pointcut "calls" "args() || Base.posts()"]

/-- What expressions on the aspect are parsed in. -/
def auditing : PointcutContext where
  aspect := some audit

/-- The unknown pointcut that a reference reports. -/
def unknown? (raw : RawClause) (expression : String) : Option (String × String) :=
  match Pointcut.readClause auditing [] [] expression raw with
  | .error (.unknownPointcut within name) => some (within, name)
  | _ => none

theorem readClause_of_unknown? {raw : RawClause} {expression within name : String}
    (seen : unknown? raw expression = some (within, name)) :
    Pointcut.readClause auditing [] [] expression raw = .error (.unknownPointcut within name) := by
  unfold unknown? at seen
  split at seen
  · rename_i refused
    cases seen
    exact refused
  · cases seen

/-- The reference `calls()`. -/
def calling : RawClause := ⟨"calls", .reference, ""⟩

/-- The reference `calls()` denotes the pointcut of the aspect. It reports the reference inside, for
which the first type that goes by `Base` lists nothing. -/
theorem inner_reference_is_unknown_on_first :
    auditing.aspect = some audit ∧ calling.kind = .reference ∧
    Pointcut.readClause auditing [] [] "calls()" calling =
      .error (.unknownPointcut "args() || Base.posts()" "Base.posts") ∧
    AbsentOnFirst auditing audit "Base.posts" ∧
    (auditing.find? "calls").map (·.key) = some "demo.Audit.calls" := by
  have failed : Pointcut.readClause auditing [] [] "calls()" calling =
      .error (.unknownPointcut "args() || Base.posts()" "Base.posts") :=
    readClause_of_unknown? (by decide +kernel)
  have given : auditing.aspect = some audit := rfl
  have refers : calling.kind = .reference := rfl
  obtain ⟨reported, -, -, -⟩ := unknown_iff_first_lists_none given refers
  exact ⟨given, refers, failed, (reported _ _ failed).1, by decide +kernel⟩

/-- `Base.posts()` is unknown, though the type whose full name is `Base` lists the pointcut: a type
before it in the hierarchy has the same last segment. -/
theorem pointcut_of_a_later_type_is_unknown :
    Pointcut.readClause auditing [] [] "Base.posts()" ⟨"Base.posts", .reference, ""⟩ =
      .error (.unknownPointcut "Base.posts()" "Base.posts") ∧
    MayMean audit "Base.posts" base "posts" ∧ base.name = "Base" ∧
    Lists auditing.pointcutAnnotation base "posts" ∧ ¬ Absent auditing audit "Base.posts" := by
  have hierarchy : audit.hierarchy = [audit, template, base] := rfl
  have inside : base ∈ audit.hierarchy := by simp [hierarchy]
  have shape : "Base" ++ "." ++ "posts" = "Base.posts" := by decide
  have means : MayMean audit "Base.posts" base "posts" :=
    shape ▸ .qualified (by decide) inside (.inl rfl)
  have lists : Lists auditing.pointcutAnnotation base "posts" :=
    ⟨⟨some base, pointcut "posts" "execution(* post(..))"⟩, List.mem_singleton_self _, rfl,
      by decide +kernel⟩
  exact ⟨readClause_of_unknown? (by decide +kernel), means, rfl, lists,
    fun absent => absent _ _ means lists⟩

end Crosscut.PointcutLookup
