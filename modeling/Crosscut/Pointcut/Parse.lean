import Crosscut.Collect
import Crosscut.Pointcut.Body
import Crosscut.Pointcut.Bound
import Crosscut.Pointcut.Grammar
import Crosscut.Pointcut.Named

/-! Parsing a pointcut expression. References to named pointcuts are expanded where they stand:
the expression of the pointcut is parsed in a scope that holds nothing but the pointcut's own
parameters, each with the meaning that the reference passes for it. A pointcut that is reached
again while it is being expanded is an error, so the expansions nest at most as deep as there are
methods to refer to, which is the measure of the recursion. -/
namespace Crosscut

/-- What an expression is parsed in: the aspect whose pointcuts it may refer to, the declared
parameters, and the annotation that marks named pointcuts. -/
structure PointcutContext where
  aspect : Option HostType := none
  parameters : List Binding := []
  pointcutAnnotation : String := "Pointcut"

/-- A parsed pointcut: the expression as given, its tokens, and the formula over its clauses with
all references expanded. -/
structure Pointcut where
  source : String
  tokens : List Token
  root : Formula Clause

def Pointcut.clauses (p : Pointcut) : List Clause :=
  p.root.leaves

/-- One expansion of a reference: which pointcut, its expression, and the scope of it. -/
structure Expansion where
  key : String
  body : String
  scope : Scope

namespace PointcutContext

/-- The identities of the pointcuts that references may denote. -/
def keys (ctx : PointcutContext) : List String :=
  match ctx.aspect with
  | some aspect => NamedPointcut.keysOf aspect
  | none => []

def find? (ctx : PointcutContext) (reference : String) : Option NamedPointcut :=
  match ctx.aspect with
  | some aspect => NamedPointcut.find? ctx.pointcutAnnotation aspect reference
  | none => none

theorem key_mem_keys {ctx : PointcutContext} {reference : String} {p : NamedPointcut}
    (found : ctx.find? reference = some p) : p.key ∈ ctx.keys := by
  unfold find? at found
  unfold keys
  split at found
  · exact NamedPointcut.key_mem_keysOf found
  · cases found

end PointcutContext

namespace RawClause

/-- The error for a clause whose body is wrong. -/
def malformed (raw : RawClause) (expression : String) (fault : PatternFault) : ParseError :=
  .invalidPattern expression raw.text fault

def toClause (raw : RawClause) (expression : String) (scope : Scope) (d : Designator) :
    Except ParseError Clause :=
  match ClauseSpec.read scope raw.body d with
  | .error fault => .error (fault.toError expression raw.text)
  | .ok spec => .ok ⟨raw.text, spec⟩

/-- What a text that a reference passes stands for. -/
def passedMeaning (raw : RawClause) (expression : String) (scope : Scope) (text : List Char) :
    Except ParseError Meaning :=
  match scope.lookup (String.ofList text) with
  | .error name => .error (.undeclaredBinding expression name)
  | .ok (some meaning) => .ok meaning
  | .ok none =>
    if Pointcut.isTypeText text then .ok (.type (String.ofList text))
    else .error (raw.malformed expression (.passedArgument (String.ofList text)))

/-- Gives each parameter of a pointcut the meaning of the text passed for it. -/
def passAll (raw : RawClause) (expression : String) (scope : Scope)
    (passed : List (String × List Char)) : Except ParseError Scope :=
  collect (fun (name, text) => (raw.passedMeaning expression scope text).map (name, ·)) passed

/-- The expansion of a reference that is met inside the expansions of `active`, outermost first. -/
def expansion (raw : RawClause) (ctx : PointcutContext) (active : List String) (scope : Scope)
    (expression : String) :
    Except ParseError { e : Expansion // e.key ∈ ctx.keys ∧ e.key ∉ active } :=
  match found : ctx.find? raw.keyword with
  | none => .error (.unknownPointcut expression raw.keyword)
  | some p =>
    if again : p.key ∈ active then
      .error (.referenceCycle (active.dropWhile (· != p.key) ++ [p.key]))
    else
      match p.expression? with
      | none => .error (raw.malformed expression .noExpression)
      | some body =>
        let passed := Text.items raw.body.toList
        if passed.length = p.parameterNames.length then
          match raw.passAll expression scope (p.parameterNames.zip passed) with
          | .error e => .error e
          | .ok inner =>
            .ok ⟨⟨p.key, body, inner⟩, PointcutContext.key_mem_keys found, again⟩
        else
          .error (.pointcutArity expression raw.keyword p.parameterNames.length passed.length)

/-- A clause has its text as written, and tests what its body says. -/
theorem toClause_eq_ok {raw : RawClause} {expression : String} {scope : Scope} {d : Designator}
    {clause : Clause} :
    raw.toClause expression scope d = .ok clause ↔
      ∃ spec, ClauseSpec.read scope raw.body d = .ok spec ∧ ⟨raw.text, spec⟩ = clause := by
  unfold toClause
  cases ClauseSpec.read scope raw.body d with
  | error fault => simp
  | ok spec => simp

/-- The parts of an expansion: the pointcut that the reference denotes, which is not being expanded
yet, its expression, and a scope that gives each parameter the meaning of the text passed for it. -/
theorem expansion_eq_ok {raw : RawClause} {ctx : PointcutContext} {active : List String}
    {scope : Scope} {expression : String} {inner : { e : Expansion // e.key ∈ ctx.keys ∧ e.key ∉ active }} :
    raw.expansion ctx active scope expression = .ok inner ↔
      ∃ p, ctx.find? raw.keyword = some p ∧ inner.val.key = p.key ∧
        p.expression? = some inner.val.body ∧
        (Text.items raw.body.toList).length = p.parameterNames.length ∧
        raw.passAll expression scope (p.parameterNames.zip (Text.items raw.body.toList)) =
          .ok inner.val.scope := by
  obtain ⟨⟨key, body, within⟩, known, fresh⟩ := inner
  unfold expansion
  split
  · rename_i none
    simp [none]
  · rename_i p found
    constructor
    · intro made
      split at made
      · cases made
      · split at made
        · cases made
        · rename_i text named
          dsimp only at made
          split at made
          · rename_i fits
            split at made
            · cases made
            · rename_i inner passed
              cases made
              exact ⟨p, found, rfl, named, fits, passed⟩
          · cases made
    · rintro ⟨q, same, rfl, named, fits, passed⟩
      cases found.symm.trans same
      rw [dif_neg fresh]
      split
      · rename_i none
        cases none.symm.trans named
      · rename_i text given
        cases given.symm.trans named
        dsimp only
        rw [if_pos fits]
        split
        · rename_i refused
          cases refused.symm.trans passed
        · rename_i inner entered
          cases entered.symm.trans passed
          rfl

/-- A reference that passes a text which stands for nothing is told so. -/
theorem error_of_passAll {raw : RawClause} {expression : String} {scope : Scope}
    {passed : List (String × List Char)} {e : ParseError}
    (failed : raw.passAll expression scope passed = .error e) :
    (∃ name, e = .undeclaredBinding expression name) ∨ ∃ fault, e = raw.malformed expression fault := by
  obtain ⟨-, ⟨name, text⟩, -, -, refused, -⟩ := collect_eq_error.mp failed
  have refused : raw.passedMeaning expression scope text = .error e := map_eq_error.mp refused
  unfold passedMeaning at refused
  split at refused
  · cases refused
    exact .inl ⟨_, rfl⟩
  · cases refused
  · split at refused
    · cases refused
    · cases refused
      exact .inr ⟨_, rfl⟩

end RawClause

namespace Pointcut

private theorem countP_lt_of_active {keys active : List String} {key : String} (known : key ∈ keys)
    (fresh : key ∉ active) :
    keys.countP (· ∉ active ++ [key]) < keys.countP (· ∉ active) := by
  have weaker : ∀ rest : List String,
      rest.countP (· ∉ active ++ [key]) ≤ rest.countP (· ∉ active) := by
    intro rest
    refine List.countP_mono_left fun k _ closed => ?_
    simp only [List.mem_append, List.mem_singleton, not_or, decide_eq_true_eq] at closed ⊢
    exact closed.1
  induction keys with
  | nil => cases known
  | cons first rest ih =>
    by_cases same : first = key
    · subst same
      have below := weaker rest
      simp only [List.countP_cons, List.mem_append, List.mem_singleton, or_true, not_true_eq_false,
        decide_false, Bool.false_eq_true, ↓reduceIte, fresh, not_false_eq_true, decide_true] at below ⊢
      omega
    · have inside : key ∈ rest := (List.mem_cons.mp known).resolve_left (Ne.symm same)
      have below := ih inside
      simp only [List.countP_cons, List.mem_append, List.mem_singleton, same, or_false] at below ⊢
      omega

/-- Parses an expression in a scope while the pointcuts of `active` are being expanded: its tokens
and its formula. -/
def expand (ctx : PointcutContext) (active : List String) (scope : Scope) (expression : String) :
    Except ParseError (List Token × Formula Clause) :=
  match Token.tokenize expression with
  | .error e => .error e
  | .ok [] => .error .empty
  | .ok tokens =>
    let read (raw : RawClause) : Except ParseError (Formula Clause) :=
      match raw.kind with
      | .designator d => (raw.toClause expression scope d).map .leaf
      | .reference =>
        match raw.expansion ctx active scope expression with
        | .error e => .error e
        | .ok ⟨inner, _known⟩ =>
          match expand ctx (active ++ [inner.key]) inner.scope inner.body with
          | .error e => .error e
          | .ok (_, body) => .ok (.reference raw.keyword body)
    match Grammar.formula read tokens with
    | .error fault => .error (fault.toError expression)
    | .ok root => .ok (tokens, root)
termination_by ctx.keys.countP (· ∉ active)
decreasing_by exact countP_lt_of_active _known.1 _known.2

/-- The formula that a clause stands for while the pointcuts of `active` are being expanded. -/
def readClause (ctx : PointcutContext) (active : List String) (scope : Scope) (expression : String)
    (raw : RawClause) : Except ParseError (Formula Clause) :=
  match raw.kind with
  | .designator d => (raw.toClause expression scope d).map .leaf
  | .reference =>
    match raw.expansion ctx active scope expression with
    | .error e => .error e
    | .ok ⟨inner, _⟩ =>
      match expand ctx (active ++ [inner.key]) inner.scope inner.body with
      | .error e => .error e
      | .ok (_, body) => .ok (.reference raw.keyword body)

/-- A built-in test stands for a leaf, and a reference for the expression of its pointcut. -/
theorem readClause_eq_ok {ctx : PointcutContext} {active : List String} {scope : Scope}
    {expression : String} {raw : RawClause} {f : Formula Clause} :
    readClause ctx active scope expression raw = .ok f ↔
      (∃ d clause, raw.kind = .designator d ∧ raw.toClause expression scope d = .ok clause ∧
        .leaf clause = f) ∨
      ∃ inner tokens body, raw.kind = .reference ∧
        raw.expansion ctx active scope expression = .ok inner ∧
        expand ctx (active ++ [inner.val.key]) inner.val.scope inner.val.body = .ok (tokens, body) ∧
        .reference raw.keyword body = f := by
  unfold readClause
  cases kind : raw.kind with
  | designator d => simp [map_eq_ok]
  | reference =>
    cases raw.expansion ctx active scope expression with
    | error e => simp
    | ok inner =>
      cases made : expand ctx (active ++ [inner.val.key]) inner.val.scope inner.val.body with
      | error e => simp [made]
      | ok result =>
        obtain ⟨tokens, body⟩ := result
        simp [made, and_assoc]

/-- An expression is expanded by reading its tokens with the clauses expanded. -/
theorem expand_eq {ctx : PointcutContext} {active : List String} {scope : Scope}
    {expression : String} :
    expand ctx active scope expression =
      match Token.tokenize expression with
      | .error e => .error e
      | .ok [] => .error .empty
      | .ok tokens =>
        match Grammar.formula (readClause ctx active scope expression) tokens with
        | .error fault => .error (fault.toError expression)
        | .ok root => .ok (tokens, root) := by
  rw [expand]
  rfl

/-- An expression is expanded to the formula that the grammar reads from its tokens. -/
theorem expand_eq_ok {ctx : PointcutContext} {active : List String} {scope : Scope}
    {expression : String} {tokens : List Token} {f : Formula Clause} :
    expand ctx active scope expression = .ok (tokens, f) ↔
      Token.tokenize expression = .ok tokens ∧ tokens ≠ [] ∧
        Grammar.formula (readClause ctx active scope expression) tokens = .ok f := by
  rw [expand_eq]
  cases scanned : Token.tokenize expression with
  | error e => simp
  | ok listed =>
    cases listed with
    | nil =>
      simp only [Except.ok.injEq, reduceCtorEq, ne_eq, false_iff]
      rintro ⟨rfl, filled, -⟩
      exact filled rfl
    | cons first rest =>
      dsimp only
      cases read : Grammar.formula (readClause ctx active scope expression) (first :: rest) with
      | error fault =>
        simp only [reduceCtorEq, false_iff]
        rintro ⟨same, -, found⟩
        cases same
        simp [read] at found
      | ok root =>
        simp only [Except.ok.injEq, Prod.mk.injEq]
        constructor
        · rintro ⟨rfl, rfl⟩
          exact ⟨rfl, by simp, read⟩
        · rintro ⟨rfl, -, found⟩
          rw [read] at found
          exact ⟨rfl, Except.ok.inj found⟩

/-- Expansions nest only finitely deep: what holds of an expression whenever it holds of all that it
may refer to, holds of every expression. -/
theorem expand_induction {ctx : PointcutContext} {motive : List String → Scope → String → Prop}
    (step : ∀ active scope expression,
      (∀ inner : Expansion, inner.key ∈ ctx.keys ∧ inner.key ∉ active →
        motive (active ++ [inner.key]) inner.scope inner.body) → motive active scope expression)
    (active : List String) (scope : Scope) (expression : String) : motive active scope expression :=
  step active scope expression fun inner _known =>
    expand_induction step (active ++ [inner.key]) inner.scope inner.body
termination_by ctx.keys.countP (· ∉ active)
decreasing_by exact countP_lt_of_active _known.1 _known.2

/-- Parses an expression and checks the binding rule for the declared parameters. -/
def parse (ctx : PointcutContext) (expression : String) : Except ParseError Pointcut :=
  match expand ctx [] (.ofParameters ctx.parameters) expression with
  | .error e => .error e
  | .ok (tokens, root) =>
    match root.checkBindings ctx.parameters with
    | .error fault => .error (fault.toError expression)
    | .ok () => .ok ⟨expression, tokens, root⟩

/-- An expression is parsed if it can be expanded and the binding rule is kept. -/
theorem parse_eq_ok {ctx : PointcutContext} {expression : String} {p : Pointcut} :
    parse ctx expression = .ok p ↔
      ∃ tokens root, expand ctx [] (.ofParameters ctx.parameters) expression = .ok (tokens, root) ∧
        root.checkBindings ctx.parameters = .ok () ∧ ⟨expression, tokens, root⟩ = p := by
  unfold parse
  cases expand ctx [] (.ofParameters ctx.parameters) expression with
  | error e => simp
  | ok result =>
    obtain ⟨tokens, root⟩ := result
    simp only [Except.ok.injEq, Prod.mk.injEq]
    constructor
    · intro accepted
      split at accepted
      · cases accepted
      · rename_i checked
        exact ⟨tokens, root, ⟨rfl, rfl⟩, checked, Except.ok.inj accepted⟩
    · rintro ⟨_, _, ⟨rfl, rfl⟩, checked, rfl⟩
      rw [checked]

end Pointcut
end Crosscut
