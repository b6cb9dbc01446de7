import Crosscut.Proofs.BindingRule
import Crosscut.Proofs.SyntaxTrees

/-! Expressions are read as the documented grammar has them, and the clauses are numbered as they are
met. A reading may keep one list of clauses for everything it meets: a clause is put at the end of the
list and its place stands in the formula, also in the middle of an expression, where a reference puts
all clauses of its pointcut there before the reading goes on behind it. Whatever is in the list
before, such a reading gives the formula of the expression with its leaves numbered from the length of
the list on. So the places in the formula of an accepted expression are those of its clause list, each
once, from left to right. -/
namespace Crosscut.ClauseNumbers
open Derivations SyntaxTrees

/-- Reading with a list of clauses: the list before, the list afterwards, and the formula over places
in the list. -/
inductive Enters (ctx : PointcutContext) : List String → Scope → String → Level →
    List TokenKind → List Clause → List Clause → Formula Nat → Prop where
  | test {active : List String} {scope : Scope} {expression : String} {raw : RawClause}
      {d : Designator} {clause : Clause} {before : List Clause} (kind : raw.kind = .designator d)
      (made : raw.toClause expression scope d = .ok clause) :
      Enters ctx active scope expression .operand [.clause raw] before (before ++ [clause])
        (.leaf before.length)
  | reference {active : List String} {scope : Scope} {expression : String} {raw : RawClause}
      {inner : { e : Expansion // e.key ∈ ctx.keys ∧ e.key ∉ active }} {tokens : List Token}
      {before after : List Clause} {g : Formula Nat} (kind : raw.kind = .reference)
      (entered : raw.expansion ctx active scope expression = .ok inner)
      (cut : Token.tokenize inner.val.body = .ok tokens)
      (body : Enters ctx (active ++ [inner.val.key]) inner.val.scope inner.val.body .disjunction
        (tokens.map Token.kind) before after g) :
      Enters ctx active scope expression .operand [.clause raw] before after
        (.reference raw.keyword g)
  | not {active : List String} {scope : Scope} {expression : String} {ks : List TokenKind}
      {before after : List Clause} {g : Formula Nat}
      (inner : Enters ctx active scope expression .operand ks before after g) :
      Enters ctx active scope expression .operand (.not :: ks) before after g.not
  | parentheses {active : List String} {scope : Scope} {expression : String} {ks : List TokenKind}
      {before after : List Clause} {g : Formula Nat}
      (inner : Enters ctx active scope expression .disjunction ks before after g) :
      Enters ctx active scope expression .operand (.opening :: ks ++ [.closing]) before after g
  | operand {active : List String} {scope : Scope} {expression : String} {ks : List TokenKind}
      {before after : List Clause} {g : Formula Nat}
      (single : Enters ctx active scope expression .operand ks before after g) :
      Enters ctx active scope expression .conjunction ks before after g
  | and {active : List String} {scope : Scope} {expression : String} {ks ls : List TokenKind}
      {before middle after : List Clause} {g h : Formula Nat}
      (left : Enters ctx active scope expression .conjunction ks before middle g)
      (right : Enters ctx active scope expression .operand ls middle after h) :
      Enters ctx active scope expression .conjunction (ks ++ .and :: ls) before after (g.and h)
  | conjunction {active : List String} {scope : Scope} {expression : String} {ks : List TokenKind}
      {before after : List Clause} {g : Formula Nat}
      (single : Enters ctx active scope expression .conjunction ks before after g) :
      Enters ctx active scope expression .disjunction ks before after g
  | or {active : List String} {scope : Scope} {expression : String} {ks ls : List TokenKind}
      {before middle after : List Clause} {g h : Formula Nat}
      (left : Enters ctx active scope expression .disjunction ks before middle g)
      (right : Enters ctx active scope expression .conjunction ls middle after h) :
      Enters ctx active scope expression .disjunction (ks ++ .or :: ls) before after (g.or h)

variable {ctx : PointcutContext} {active : List String} {scope : Scope} {expression : String}
  {level : Level} {ks : List TokenKind} {before after : List Clause} {g : Formula Nat}

/-- A reading with a list derives a formula, puts its clauses behind what was there, and numbers
them on. -/
theorem derives_of_enters (entered : Enters ctx active scope expression level ks before after g) :
    ∃ f, Derives (Pointcut.readClause ctx active scope expression) level ks f ∧
      after = before ++ f.leaves ∧ g = (f.numberFrom before.length).1 := by
  induction entered with
  | test kind made =>
    exact ⟨_, .clause (Pointcut.readClause_eq_ok.mpr (.inl ⟨_, _, kind, made, rfl⟩)), rfl, rfl⟩
  | @reference active scope expression raw inner tokens before after g kind entered cut _ ih =>
    obtain ⟨f, derived, rfl, rfl⟩ := ih
    have filled : tokens ≠ [] := by
      rintro rfl
      exact ne_nil_of_derives derived rfl
    have expanded := Pointcut.expand_eq_ok.mpr ⟨cut, filled, formula_eq_ok.mpr derived⟩
    exact ⟨.reference raw.keyword f, .clause (Pointcut.readClause_eq_ok.mpr
      (.inr ⟨inner, tokens, f, kind, entered, expanded, rfl⟩)), rfl, rfl⟩
  | not _ ih =>
    obtain ⟨f, derived, rfl, rfl⟩ := ih
    exact ⟨f.not, .not derived, rfl, rfl⟩
  | parentheses _ ih =>
    obtain ⟨f, derived, rfl, rfl⟩ := ih
    exact ⟨f, .parentheses derived, rfl, rfl⟩
  | operand _ ih =>
    obtain ⟨f, derived, rfl, rfl⟩ := ih
    exact ⟨f, .operand derived, rfl, rfl⟩
  | conjunction _ ih =>
    obtain ⟨f, derived, rfl, rfl⟩ := ih
    exact ⟨f, .conjunction derived, rfl, rfl⟩
  | and _ _ ihLeft ihRight =>
    obtain ⟨f, left, rfl, rfl⟩ := ihLeft
    obtain ⟨h, right, rfl, rfl⟩ := ihRight
    refine ⟨f.and h, .and left right, by simp, ?_⟩
    simp only [Formula.numberFrom, Formula.numberFrom_snd, List.length_append]
  | or _ _ ihLeft ihRight =>
    obtain ⟨f, left, rfl, rfl⟩ := ihLeft
    obtain ⟨h, right, rfl, rfl⟩ := ihRight
    refine ⟨f.or h, .or left right, by simp, ?_⟩
    simp only [Formula.numberFrom, Formula.numberFrom_snd, List.length_append]

/-- Every derivation is read with any list. The outer induction is on the references that may still be
expanded, the inner one on the derivation. -/
theorem enters_of_derives {f : Formula Clause}
    (derived : Derives (Pointcut.readClause ctx active scope expression) level ks f)
    (before : List Clause) :
    Enters ctx active scope expression level ks before (before ++ f.leaves)
      (f.numberFrom before.length).1 := by
  suffices whole : ∀ active scope expression, ∀ {level : Level} {ks : List TokenKind}
      {f : Formula Clause}, Derives (Pointcut.readClause ctx active scope expression) level ks f →
      ∀ before : List Clause, Enters ctx active scope expression level ks before
        (before ++ f.leaves) (f.numberFrom before.length).1 from
    whole active scope expression derived before
  clear derived before
  refine @Pointcut.expand_induction ctx _ ?_
  intro active scope expression deeper level ks f derived
  induction derived with
  | clause known =>
    intro before
    rcases Pointcut.readClause_eq_ok.mp known with
      ⟨d, clause, kind, made, rfl⟩ | ⟨inner, tokens, body, kind, entered, expanded, rfl⟩
    · exact .test kind made
    · obtain ⟨cut, -, read⟩ := Pointcut.expand_eq_ok.mp expanded
      exact .reference kind entered cut
        (deeper inner.val inner.property (formula_eq_ok.mp read) before)
  | not _ ih => exact fun before => .not (ih before)
  | parentheses _ ih => exact fun before => .parentheses (ih before)
  | operand _ ih => exact fun before => .operand (ih before)
  | conjunction _ ih => exact fun before => .conjunction (ih before)
  | and _ _ ihLeft ihRight =>
    intro before
    have whole := Enters.and (ihLeft before) (ihRight _)
    simpa only [Formula.leaves_and, Formula.numberFrom, Formula.numberFrom_snd, List.length_append,
      List.append_assoc] using whole
  | or _ _ ihLeft ihRight =>
    intro before
    have whole := Enters.or (ihLeft before) (ihRight _)
    simpa only [Formula.leaves_or, Formula.numberFrom, Formula.numberFrom_snd, List.length_append,
      List.append_assoc] using whole

/-- Reading an accepted expression with an empty list gives its clauses and its numbered formula. -/
theorem enters_iff_of_parse {p : Pointcut} (accepted : Pointcut.parse ctx expression = .ok p) :
    Enters ctx [] (.ofParameters ctx.parameters) expression .disjunction (p.tokens.map Token.kind) []
      after g ↔ after = p.clauses ∧ g = p.root.numbered := by
  obtain ⟨tokens, root, expanded, -, rfl⟩ := Pointcut.parse_eq_ok.mp accepted
  obtain ⟨-, -, read⟩ := Pointcut.expand_eq_ok.mp expanded
  constructor
  · intro entered
    obtain ⟨f, derived, rfl, rfl⟩ := derives_of_enters entered
    cases read.symm.trans (formula_eq_ok.mpr derived)
    exact ⟨rfl, rfl⟩
  · rintro ⟨rfl, rfl⟩
    exact enters_of_derives (formula_eq_ok.mp read) []

section
variable {tokens : List Token} {stands : RawClause → Formula Clause}

/-- Where every clause can be read, only the place of a token is wrong with an expression that cannot
be expanded. -/
theorem ne_misbound_of_expand {e : ParseError} (cut : Token.tokenize expression = .ok tokens)
    (known : Acceptable (Pointcut.readClause ctx active scope expression) stands tokens)
    (refused : Pointcut.expand ctx active scope expression = .error e) (fault : BindingFault) :
    e ≠ fault.toError expression := by
  rw [Pointcut.expand_eq, cut] at refused
  cases tokens with
  | nil =>
    cases refused
    cases fault <;> simp [BindingFault.toError]
  | cons first rest =>
    dsimp only at refused
    cases made : Grammar.formula (Pointcut.readClause ctx active scope expression) (first :: rest) with
    | ok root => simp [made] at refused
    | error misplaced =>
      rw [made] at refused
      cases refused
      rcases misplaced with ⟨_ | found, expected⟩ | offset | cause
      case clause =>
        obtain ⟨raw, offset, member, failed, -⟩ :=
          Grammar.formula_refused Grammar.congruent_eq (fun _ f read => ⟨f, read, rfl⟩) made
        cases failed.symm.trans (known raw offset member)
      all_goals cases fault <;> simp [BindingFault.toError, Grammar.Fault.toError]

/-- An expression whose tokens are spelled by a tree is expanded. -/
theorem expand_of_tree (cut : Token.tokenize expression = .ok tokens)
    (known : Acceptable (Pointcut.readClause ctx active scope expression) stands tokens)
    {t : Tree .disjunction} (spelled : t.kinds = tokens.map Token.kind) :
    Pointcut.expand ctx active scope expression = .ok (tokens, t.meaning stands) := by
  have read := (formula_eq_ok_iff_tree known).mpr ⟨t, spelled, rfl⟩
  have filled : tokens ≠ [] := by
    rintro rfl
    exact ne_nil_of_derives (formula_eq_ok.mp read) rfl
  exact Pointcut.expand_eq_ok.mpr ⟨cut, filled, read⟩

/-- Nothing but the grammar and the binding rule refuses an expression whose clauses can be read. -/
theorem accepted_or_misbound_iff (cut : Token.tokenize expression = .ok tokens)
    (known : Acceptable (Pointcut.readClause ctx [] (.ofParameters ctx.parameters) expression)
      stands tokens) :
    ((∃ p, Pointcut.parse ctx expression = .ok p) ∨
        ∃ fault : BindingFault, Pointcut.parse ctx expression = .error (fault.toError expression)) ↔
      ∃ t : Tree .disjunction, t.kinds = tokens.map Token.kind := by
  unfold Pointcut.parse
  cases expanded : Pointcut.expand ctx [] (.ofParameters ctx.parameters) expression with
  | error e =>
    have misplaced := ne_misbound_of_expand cut known expanded
    simp only [reduceCtorEq, exists_false, Except.error.injEq, misplaced, or_self, false_iff]
    rintro ⟨t, spelled⟩
    cases expanded.symm.trans (expand_of_tree cut known spelled)
  | ok result =>
    obtain ⟨listed, root⟩ := result
    obtain ⟨same, -, read⟩ := Pointcut.expand_eq_ok.mp expanded
    cases cut.symm.trans same
    obtain ⟨t, spelled, -⟩ := (formula_eq_ok_iff_tree known).mp read
    refine iff_of_true ?_ ⟨t, spelled⟩
    dsimp only
    cases root.checkBindings ctx.parameters with
    | error fault => exact .inr ⟨fault, rfl⟩
    | ok _ => exact .inl ⟨_, rfl⟩

end

/-- The parser accepts the documented grammar and builds what it says. A list of tokens whose clauses
can be read is read as the formula of a tree that spells it, and in no other way, and no two trees
spell the same tokens; an expression of such tokens is refused for what its parameters are bound to,
or else exactly if no tree spells it. An accepted expression has one tree, whose formula is the root.
Its clause list is what is listed when its clauses, and in their place those of the pointcuts that it
refers to, are entered one after the other, and the leaves of its root are the places of that list
from left to right, each once. -/
theorem expressions_follow_the_grammar (ctx : PointcutContext) :
    (∀ active scope expression ts stands,
      Acceptable (Pointcut.readClause ctx active scope expression) stands ts → ∀ f,
        Grammar.formula (Pointcut.readClause ctx active scope expression) ts = .ok f ↔
          ∃ t : Tree .disjunction, t.kinds = ts.map Token.kind ∧ t.meaning stands = f) ∧
    (∀ s t : Tree .disjunction, s.kinds = t.kinds → s = t) ∧
    (∀ expression tokens stands, Token.tokenize expression = .ok tokens →
      Acceptable (Pointcut.readClause ctx [] (.ofParameters ctx.parameters) expression) stands tokens →
        (((∃ p, Pointcut.parse ctx expression = .ok p) ∨ ∃ fault : BindingFault,
            Pointcut.parse ctx expression = .error (fault.toError expression)) ↔
          ∃ t : Tree .disjunction, t.kinds = tokens.map Token.kind)) ∧
    ∀ expression p, Pointcut.parse ctx expression = .ok p →
      (∃ stands,
        Acceptable (Pointcut.readClause ctx [] (.ofParameters ctx.parameters) expression) stands
          p.tokens ∧
        ∃! t : Tree .disjunction, t.kinds = p.tokens.map Token.kind ∧ t.meaning stands = p.root) ∧
      (∀ after g, Enters ctx [] (.ofParameters ctx.parameters) expression .disjunction
          (p.tokens.map Token.kind) [] after g ↔ after = p.clauses ∧ g = p.root.numbered) ∧
      p.root.numbered.leaves = List.range p.clauses.length := by
  refine ⟨fun active scope expression ts stands known f => formula_eq_ok_iff_tree known,
    fun s t same => tree_of_kinds same,
    fun expression tokens stands cut known => accepted_or_misbound_iff cut known,
    fun expression p accepted => ?_⟩
  obtain ⟨tokens, root, expanded, -, rfl⟩ := Pointcut.parse_eq_ok.mp accepted
  obtain ⟨-, -, read⟩ := Pointcut.expand_eq_ok.mp expanded
  refine ⟨acceptable_of_formula read, fun after g => enters_iff_of_parse accepted, ?_⟩
  rw [List.range_eq_range']
  exact Formula.leaves_numberFrom root 0

/-- An aspect with a pointcut of two clauses. -/
def watching : PointcutContext where
  aspect := some (.mk "demo.Watch" 1 [] []
    [⟨"placing", .bare "void", [], [],
        [⟨"Pointcut", [("value", .text "within(demo.Desk) || within(demo.Shop)")]⟩]⟩])

/-- A negation binds tighter than a conjunction, and a conjunction tighter than a disjunction. -/
def placingOrCancel : Tree .disjunction :=
  .disjunction
    (.conjunction (.not (.clause ⟨"within", .designator .within, "demo.Store"⟩))
      (.conjunct (.clause ⟨"placing", .reference, ""⟩) .noConjunct))
    (.disjunct
      (.conjunction
        (.parentheses (.disjunction
          (.conjunction (.clause ⟨"execution", .designator .execution, "* cancel(..)"⟩) .noConjunct)
          .noDisjunct))
        .noConjunct)
      .noDisjunct)

/-- The reference in the middle enters two clauses before the last one of the expression. -/
theorem placing_is_numbered_in_place :
    ∃ p, Pointcut.parse watching "!within(demo.Store) && placing() || (execution(* cancel(..)))" =
        .ok p ∧
      p.root.numbered.leaves = [0, 1, 2, 3] ∧
      ∃ stands, Acceptable (Pointcut.readClause watching [] (.ofParameters watching.parameters)
          "!within(demo.Store) && placing() || (execution(* cancel(..)))") stands p.tokens ∧
        placingOrCancel.meaning stands = p.root := by
  have known : (Pointcut.parse watching
      "!within(demo.Store) && placing() || (execution(* cancel(..)))").toOption.map
        (fun p => (p.tokens.map Token.kind, p.clauses.length)) = some (placingOrCancel.kinds, 4) := by
    decide +kernel
  obtain ⟨p, accepted, seen⟩ := exists_ok_of_map known
  obtain ⟨kinds, count⟩ := Prod.mk.inj seen
  obtain ⟨-, alone, -, whole⟩ := expressions_follow_the_grammar watching
  obtain ⟨⟨stands, readable, t, ⟨spelled, means⟩, -⟩, -, leaves⟩ := whole _ p accepted
  rw [count] at leaves
  rw [← alone placingOrCancel t (kinds.symm.trans spelled.symm)] at means
  exact ⟨p, accepted, leaves, stands, readable, means⟩

end Crosscut.ClauseNumbers
