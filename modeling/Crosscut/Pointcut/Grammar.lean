import Crosscut.Pointcut.Formula
import Crosscut.Pointcut.Token

/-! The grammar of pointcut expressions over tokens. A disjunction is a sequence of conjunctions,
a conjunction a sequence of operands; an operand is a negated operand, a disjunction in
parentheses, or a clause. Both connectives associate to the left, and parentheses leave no trace
in the formula. What a clause means is decided by the reader that is passed in; it is asked from
left to right, so its first refusal comes before any later misplaced token.

Each function returns the tokens that it has left over, with a proof that they are fewer, so the
recursion ends with the tokens. -/
namespace Crosscut.Grammar

/-- Why a token list has no reading: a token, or the end, where the grammar admits something
else; a parenthesis without its partner; or a clause that its reader refuses. -/
inductive Fault (ε : Type) where
  | unexpected (found : Option Token) (expected : Expectation)
  | unbalanced (offset : Nat)
  | clause (cause : ε)

/-- The same fault with the refusal of a clause told in other words. -/
def Fault.map {ε δ : Type} (change : ε → δ) : Fault ε → Fault δ
  | .unexpected found expected => .unexpected found expected
  | .unbalanced offset => .unbalanced offset
  | .clause cause => .clause (change cause)

/-- The error for an expression whose tokens have no reading. -/
def Fault.toError (expression : String) : Fault ParseError → ParseError
  | .unexpected (some t) expected => .unexpectedToken expression t.offset t.kind.text expected
  | .unexpected none expected =>
    .unexpectedToken expression (Text.byteLength expression.toList) "end of expression" expected
  | .unbalanced offset => .unbalancedParentheses expression offset
  | .clause cause => cause

/-- A formula and fewer than `n` tokens behind it. -/
abbrev Fewer (α : Type) (n : Nat) : Type :=
  Formula α × { rest : List Token // rest.length < n }

/-- A formula and at most `n` tokens behind it. -/
abbrev AtMost (α : Type) (n : Nat) : Type :=
  Formula α × { rest : List Token // rest.length ≤ n }

variable {ε α : Type}

mutual

/-- Reads a negated operand, a formula in parentheses, or a clause. -/
def operand (read : RawClause → Except ε (Formula α)) :
    (ts : List Token) → Except (Fault ε) (Fewer α ts.length)
  | [] => .error (.unexpected none .operand)
  | ⟨.clause raw, _⟩ :: rest =>
    match read raw with
    | .error cause => .error (.clause cause)
    | .ok f => .ok (f, ⟨rest, Nat.lt_succ_self _⟩)
  | ⟨.not, _⟩ :: rest =>
    match operand read rest with
    | .error fault => .error fault
    | .ok (f, ⟨after, fewer⟩) => .ok (.not f, ⟨after, Nat.lt_succ_of_lt fewer⟩)
  | ⟨.opening, offset⟩ :: rest =>
    match disjunction read rest with
    | .error fault => .error fault
    | .ok (f, ⟨⟨.closing, _⟩ :: after, fewer⟩) =>
      .ok (f, ⟨after, Nat.lt_succ_of_lt (Nat.lt_trans (Nat.lt_succ_self _) fewer)⟩)
    | .ok _ => .error (.unbalanced offset)
  | ⟨.closing, offset⟩ :: _ => .error (.unbalanced offset)
  | ⟨.and, offset⟩ :: _ => .error (.unexpected (some ⟨.and, offset⟩) .operand)
  | ⟨.or, offset⟩ :: _ => .error (.unexpected (some ⟨.or, offset⟩) .operand)
termination_by ts => 5 * ts.length

/-- Reads the further operands of a conjunction that starts with a formula. -/
def conjuncts (read : RawClause → Except ε (Formula α)) (left : Formula α) (ts : List Token) :
    Except (Fault ε) (AtMost α ts.length) :=
  match ts with
  | ⟨.and, _⟩ :: rest =>
    match operand read rest with
    | .error fault => .error fault
    | .ok (right, ⟨after, fewer⟩) =>
      match conjuncts read (.and left right) after with
      | .error fault => .error fault
      | .ok (f, ⟨last, atMost⟩) =>
        .ok (f, ⟨last, Nat.le_of_lt (Nat.lt_succ_of_lt (Nat.lt_of_le_of_lt atMost fewer))⟩)
  | ts => .ok (left, ⟨ts, Nat.le_refl _⟩)
termination_by 5 * ts.length + 1

def conjunction (read : RawClause → Except ε (Formula α)) (ts : List Token) :
    Except (Fault ε) (Fewer α ts.length) :=
  match operand read ts with
  | .error fault => .error fault
  | .ok (first, ⟨rest, fewer⟩) =>
    match conjuncts read first rest with
    | .error fault => .error fault
    | .ok (f, ⟨after, atMost⟩) => .ok (f, ⟨after, Nat.lt_of_le_of_lt atMost fewer⟩)
termination_by 5 * ts.length + 2

/-- Reads the further conjunctions of a disjunction that starts with a formula. -/
def disjuncts (read : RawClause → Except ε (Formula α)) (left : Formula α) (ts : List Token) :
    Except (Fault ε) (AtMost α ts.length) :=
  match ts with
  | ⟨.or, _⟩ :: rest =>
    match conjunction read rest with
    | .error fault => .error fault
    | .ok (right, ⟨after, fewer⟩) =>
      match disjuncts read (.or left right) after with
      | .error fault => .error fault
      | .ok (f, ⟨last, atMost⟩) =>
        .ok (f, ⟨last, Nat.le_of_lt (Nat.lt_succ_of_lt (Nat.lt_of_le_of_lt atMost fewer))⟩)
  | ts => .ok (left, ⟨ts, Nat.le_refl _⟩)
termination_by 5 * ts.length + 3

def disjunction (read : RawClause → Except ε (Formula α)) (ts : List Token) :
    Except (Fault ε) (Fewer α ts.length) :=
  match conjunction read ts with
  | .error fault => .error fault
  | .ok (first, ⟨rest, fewer⟩) =>
    match disjuncts read first rest with
    | .error fault => .error fault
    | .ok (f, ⟨after, atMost⟩) => .ok (f, ⟨after, Nat.lt_of_le_of_lt atMost fewer⟩)
termination_by 5 * ts.length + 4

end

/-- The formula that a whole token list stands for. -/
def formula (read : RawClause → Except ε (Formula α)) (ts : List Token) :
    Except (Fault ε) (Formula α) :=
  match disjunction read ts with
  | .error fault => .error fault
  | .ok (f, ⟨[], _⟩) => .ok f
  | .ok (_, ⟨⟨.closing, offset⟩ :: _, _⟩) => .error (.unbalanced offset)
  | .ok (_, ⟨t :: _, _⟩) => .error (.unexpected (some t) .connective)

/-- A property of formulas that the connectives hand on from their parts to the whole. -/
structure Closed (keeps : Formula α → Prop) : Prop where
  not : ∀ {f}, keeps f → keeps f.not
  and : ∀ {left right}, keeps left → keeps right → keeps (left.and right)
  or : ∀ {left right}, keeps left → keeps right → keeps (left.or right)

/-- A relation between formulas that the connectives hand on from their parts to the whole. -/
structure Congruent {β : Type} (relates : Formula α → Formula β → Prop) : Prop where
  not : ∀ {f g}, relates f g → relates f.not g.not
  and : ∀ {f g f' g'}, relates f g → relates f' g' → relates (f.and f') (g.and g')
  or : ∀ {f g f' g'}, relates f g → relates f' g' → relates (f.or f') (g.or g')

theorem congruent_eq : Congruent fun f g : Formula α => f = g where
  not := by
    rintro _ _ rfl
    rfl
  and := by
    rintro _ _ _ _ rfl rfl
    rfl
  or := by
    rintro _ _ _ _ rfl rfl
    rfl

/-! The grammar is uniform in what the clauses mean. Where a second reader gives a related formula for
every clause that a first one can read, both are taken through the same tokens: to related formulas, to
the same misplaced token, or to the same clause that the first one refuses. The proof follows the
reading function by function. -/

variable {δ β : Type} {relates : Formula α → Formula β → Prop} {read : RawClause → Except ε (Formula α)}
  {other : RawClause → Except δ (Formula β)}

/-- The tokens before a rest have been read, each clause among them without an error. -/
def Consumed (read : RawClause → Except ε (Formula α)) (ts rest : List Token) : Prop :=
  ∃ front, ts = front ++ rest ∧
    ∀ raw offset, ⟨.clause raw, offset⟩ ∈ front → ∃ f, read raw = .ok f

private theorem consumed_refl (ts : List Token) : Consumed read ts ts :=
  ⟨[], rfl, by simp⟩

private theorem consumed_cons {t : Token} {rest : List Token}
    (single : ∀ raw, t.kind = .clause raw → ∃ f, read raw = .ok f) : Consumed read (t :: rest) rest := by
  refine ⟨[t], rfl, ?_⟩
  intro raw offset member
  exact single raw (congrArg Token.kind (List.mem_singleton.mp member)).symm

private theorem consumed_trans {ts middle rest : List Token} (first : Consumed read ts middle)
    (second : Consumed read middle rest) : Consumed read ts rest := by
  obtain ⟨front, rfl, inFront⟩ := first
  obtain ⟨further, rfl, inFurther⟩ := second
  refine ⟨front ++ further, (List.append_assoc _ _ _).symm, ?_⟩
  intro raw offset member
  exact (List.mem_append.mp member).elim (inFront raw offset) (inFurther raw offset)

private theorem consumed_subset {ts rest : List Token} (consumed : Consumed read ts rest) : rest ⊆ ts := by
  obtain ⟨front, rfl, -⟩ := consumed
  exact List.subset_append_right front rest

/-- What the second reader gives for tokens where the first one has given a result. -/
def Follows (relates : Formula α → Formula β → Prop) (read : RawClause → Except ε (Formula α))
    (other : RawClause → Except δ (Formula β)) (ts : List Token) {left : List Token → Prop} :
    Except (Fault ε) (Formula α × Subtype left) → Except (Fault δ) (Formula β × Subtype left) → Prop
  | .ok (f, rest), second => Consumed read ts rest ∧ ∃ g, second = .ok (g, rest) ∧ relates f g
  | .error (.clause cause), second =>
    ∃ raw offset, ⟨.clause raw, offset⟩ ∈ ts ∧ read raw = .error cause ∧
      ∀ reason, other raw = .error reason → second = .error (.clause reason)
  | .error (.unexpected found expected), second => second = .error (.unexpected found expected)
  | .error (.unbalanced offset), second => second = .error (.unbalanced offset)

/-- Reading on behind a part of the tokens: a fault of the part is the fault of the whole, and
behind related formulas the same tokens are left over. -/
private theorem follows_behind {part whole : List Token} {inner outer : List Token → Prop}
    {start : Except (Fault ε) (Formula α × Subtype inner)}
    {start' : Except (Fault δ) (Formula β × Subtype inner)}
    {result : Except (Fault ε) (Formula α × Subtype outer)}
    {result' : Except (Fault δ) (Formula β × Subtype outer)} (inside : Consumed read whole part)
    (follows : Follows relates read other part start start')
    (handed : ∀ fault, start = .error fault → result = .error fault)
    (handed' : ∀ fault, start' = .error fault → result' = .error fault)
    (onward : ∀ f g rest, start = .ok (f, rest) → start' = .ok (g, rest) →
      Consumed read whole rest → relates f g → Follows relates read other whole result result') :
    Follows relates read other whole result result' := by
  cases start with
  | ok read =>
    obtain ⟨within, g, same, related⟩ := follows
    exact onward _ g _ rfl same (consumed_trans inside within) related
  | error fault =>
    rw [handed fault rfl]
    cases fault with
    | unexpected found expected | unbalanced offset => exact handed' _ follows
    | clause cause =>
      obtain ⟨raw, offset, member, refused, later⟩ := follows
      exact ⟨raw, offset, consumed_subset inside member, refused, fun reason refusal => handed' _ (later reason refusal)⟩

mutual

theorem operand_follows (congruent : Congruent relates)
    (reads : ∀ raw f, read raw = .ok f → ∃ g, other raw = .ok g ∧ relates f g) (ts : List Token) :
    Follows relates read other ts (operand read ts) (operand other ts) := by
  match ts with
  | [] | ⟨.closing, _⟩ :: _ | ⟨.and, _⟩ :: _ | ⟨.or, _⟩ :: _ =>
    rw [operand, operand]
    rfl
  | ⟨.clause raw, offset⟩ :: rest =>
    rw [operand, operand]
    cases first : read raw with
    | error cause =>
      exact ⟨raw, offset, List.mem_cons_self, first, fun reason refused => by rw [refused]⟩
    | ok f =>
      obtain ⟨g, second, related⟩ := reads raw f first
      rw [second]
      exact ⟨consumed_cons fun _ same => by cases same; exact ⟨f, first⟩, g, rfl, related⟩
  | ⟨.not, _⟩ :: rest =>
    rw [operand, operand]
    refine follows_behind (consumed_cons nofun) (operand_follows congruent reads rest)
      (fun _ same => by rw [same]) (fun _ same => by rw [same]) ?_
    intro f g after first second within related
    rw [first, second]
    exact ⟨within, g.not, rfl, congruent.not related⟩
  | ⟨.opening, _⟩ :: rest =>
    rw [operand, operand]
    refine follows_behind (consumed_cons nofun) (disjunction_follows congruent reads rest)
      (fun _ same => by rw [same]) (fun _ same => by rw [same]) ?_
    intro f g behind first second within related
    rw [first, second]
    match behind with
    | ⟨⟨.closing, _⟩ :: after, _⟩ => exact ⟨consumed_trans within (consumed_cons nofun), g, rfl, related⟩
    | ⟨[], _⟩ | ⟨⟨.clause _, _⟩ :: _, _⟩ | ⟨⟨.not, _⟩ :: _, _⟩ | ⟨⟨.opening, _⟩ :: _, _⟩
    | ⟨⟨.and, _⟩ :: _, _⟩ | ⟨⟨.or, _⟩ :: _, _⟩ => rfl
termination_by 5 * ts.length
decreasing_by all_goals (simp only [List.length_cons]; omega)

theorem conjuncts_follow (congruent : Congruent relates)
    (reads : ∀ raw f, read raw = .ok f → ∃ g, other raw = .ok g ∧ relates f g) {f : Formula α}
    {g : Formula β} (related : relates f g) (ts : List Token) :
    Follows relates read other ts (conjuncts read f ts) (conjuncts other g ts) := by
  match ts with
  | ⟨.and, _⟩ :: rest =>
    rw [conjuncts, conjuncts]
    refine follows_behind (consumed_cons nofun) (operand_follows congruent reads rest)
      (fun _ same => by rw [same]) (fun _ same => by rw [same]) ?_
    intro right right' after first second within onRight
    rw [first, second]
    dsimp only
    refine follows_behind within
      (conjuncts_follow congruent reads (congruent.and related onRight) after)
      (fun _ same => by rw [same]) (fun _ same => by rw [same]) ?_
    intro h h' last found found' inside whole
    rw [found, found']
    exact ⟨inside, h', rfl, whole⟩
  | [] | ⟨.clause _, _⟩ :: _ | ⟨.not, _⟩ :: _ | ⟨.opening, _⟩ :: _ | ⟨.closing, _⟩ :: _
  | ⟨.or, _⟩ :: _ =>
    rw [conjuncts, conjuncts]
    · exact ⟨consumed_refl _, g, rfl, related⟩
    all_goals simp
termination_by 5 * ts.length + 1
decreasing_by all_goals (simp only [List.length_cons]; omega)

theorem conjunction_follows (congruent : Congruent relates)
    (reads : ∀ raw f, read raw = .ok f → ∃ g, other raw = .ok g ∧ relates f g) (ts : List Token) :
    Follows relates read other ts (conjunction read ts) (conjunction other ts) := by
  rw [conjunction, conjunction]
  refine follows_behind (consumed_refl _) (operand_follows congruent reads ts)
    (fun _ same => by rw [same]) (fun _ same => by rw [same]) ?_
  intro f g rest first second within related
  rw [first, second]
  dsimp only
  refine follows_behind within (conjuncts_follow congruent reads related rest)
    (fun _ same => by rw [same]) (fun _ same => by rw [same]) ?_
  intro h h' last found found' inside whole
  rw [found, found']
  exact ⟨inside, h', rfl, whole⟩
termination_by 5 * ts.length + 2
decreasing_by all_goals omega

theorem disjuncts_follow (congruent : Congruent relates)
    (reads : ∀ raw f, read raw = .ok f → ∃ g, other raw = .ok g ∧ relates f g) {f : Formula α}
    {g : Formula β} (related : relates f g) (ts : List Token) :
    Follows relates read other ts (disjuncts read f ts) (disjuncts other g ts) := by
  match ts with
  | ⟨.or, _⟩ :: rest =>
    rw [disjuncts, disjuncts]
    refine follows_behind (consumed_cons nofun) (conjunction_follows congruent reads rest)
      (fun _ same => by rw [same]) (fun _ same => by rw [same]) ?_
    intro right right' after first second within onRight
    rw [first, second]
    dsimp only
    refine follows_behind within
      (disjuncts_follow congruent reads (congruent.or related onRight) after)
      (fun _ same => by rw [same]) (fun _ same => by rw [same]) ?_
    intro h h' last found found' inside whole
    rw [found, found']
    exact ⟨inside, h', rfl, whole⟩
  | [] | ⟨.clause _, _⟩ :: _ | ⟨.not, _⟩ :: _ | ⟨.opening, _⟩ :: _ | ⟨.closing, _⟩ :: _
  | ⟨.and, _⟩ :: _ =>
    rw [disjuncts, disjuncts]
    · exact ⟨consumed_refl _, g, rfl, related⟩
    all_goals simp
termination_by 5 * ts.length + 3
decreasing_by all_goals (simp only [List.length_cons]; omega)

theorem disjunction_follows (congruent : Congruent relates)
    (reads : ∀ raw f, read raw = .ok f → ∃ g, other raw = .ok g ∧ relates f g) (ts : List Token) :
    Follows relates read other ts (disjunction read ts) (disjunction other ts) := by
  rw [disjunction, disjunction]
  refine follows_behind (consumed_refl _) (conjunction_follows congruent reads ts)
    (fun _ same => by rw [same]) (fun _ same => by rw [same]) ?_
  intro f g rest first second within related
  rw [first, second]
  dsimp only
  refine follows_behind within (disjuncts_follow congruent reads related rest)
    (fun _ same => by rw [same]) (fun _ same => by rw [same]) ?_
  intro h h' last found found' inside whole
  rw [found, found']
  exact ⟨inside, h', rfl, whole⟩
termination_by 5 * ts.length + 4
decreasing_by all_goals omega

end

/-- A whole token list is read as a disjunction behind which nothing is left over. -/
private theorem formula_eq {ts : List Token} :
    formula read ts =
      match disjunction read ts with
      | .error fault => .error fault
      | .ok (f, rest) =>
        match rest.val with
        | [] => .ok f
        | ⟨.closing, offset⟩ :: _ => .error (.unbalanced offset)
        | t :: _ => .error (.unexpected (some t) .connective) := by
  unfold formula
  rcases disjunction read ts with fault | ⟨f, ⟨_ | ⟨⟨kind, offset⟩, more⟩, fewer⟩⟩
  · rfl
  · rfl
  · cases kind <;> rfl

/-- A formula that the first reader gives is followed by a related one. -/
theorem formula_related (congruent : Congruent relates)
    (reads : ∀ raw f, read raw = .ok f → ∃ g, other raw = .ok g ∧ relates f g) {ts : List Token}
    {f : Formula α} (found : formula read ts = .ok f) :
    ∃ g, formula other ts = .ok g ∧ relates f g := by
  have follows := disjunction_follows congruent reads ts
  rw [formula_eq] at found ⊢
  cases made : disjunction read ts with
  | error fault => simp [made] at found
  | ok result =>
    rw [made] at follows found
    obtain ⟨-, g, same, related⟩ := follows
    rw [same]
    dsimp only at found ⊢
    split at found
    · cases found
      exact ⟨g, rfl, related⟩
    · cases found
    · cases found

/-- Every clause of an expression that has a reading is read. -/
theorem formula_reads_all {ts : List Token} {f : Formula α} (found : formula read ts = .ok f)
    {raw : RawClause} {offset : Nat} (member : ⟨.clause raw, offset⟩ ∈ ts) : ∃ g, read raw = .ok g := by
  have follows : Follows (fun f g => f = g) read read ts (disjunction read ts) (disjunction read ts) :=
    disjunction_follows congruent_eq (fun _ f made => ⟨f, made, rfl⟩) ts
  rw [formula_eq] at found
  cases made : disjunction read ts with
  | error fault => simp [made] at found
  | ok result =>
    rw [made] at follows found
    obtain ⟨⟨front, cut, readable⟩, -⟩ := follows
    dsimp only at found
    split at found
    · rename_i done
      rw [cut, done, List.append_nil] at member
      exact readable raw offset member
    · cases found
    · cases found

/-- A clause that the first reader refuses is among the tokens, and nothing is wrong before it. -/
theorem formula_refused (congruent : Congruent relates)
    (reads : ∀ raw f, read raw = .ok f → ∃ g, other raw = .ok g ∧ relates f g) {ts : List Token}
    {cause : ε} (refused : formula read ts = .error (.clause cause)) :
    ∃ raw offset, ⟨.clause raw, offset⟩ ∈ ts ∧ read raw = .error cause ∧
      ∀ reason, other raw = .error reason → formula other ts = .error (.clause reason) := by
  have follows := disjunction_follows congruent reads ts
  rw [formula_eq] at refused
  cases made : disjunction read ts with
  | error fault =>
    rw [made] at follows refused
    cases refused
    obtain ⟨raw, offset, member, known, later⟩ := follows
    refine ⟨raw, offset, member, known, fun reason refusal => ?_⟩
    rw [formula_eq, later reason refusal]
  | ok result =>
    rw [made] at refused
    dsimp only at refused
    split at refused <;> cases refused

/-- What is misplaced for the first reader is misplaced for the second. -/
theorem formula_misplaced (congruent : Congruent relates)
    (reads : ∀ raw f, read raw = .ok f → ∃ g, other raw = .ok g ∧ relates f g) (ts : List Token) :
    (∀ found expected, formula read ts = .error (.unexpected found expected) →
      formula other ts = .error (.unexpected found expected)) ∧
    ∀ offset, formula read ts = .error (.unbalanced offset) →
      formula other ts = .error (.unbalanced offset) := by
  have follows := disjunction_follows congruent reads ts
  rw [formula_eq, formula_eq]
  cases made : disjunction read ts with
  | error fault =>
    rw [made] at follows
    constructor
    · rintro found expected ⟨⟩
      rw [Follows] at follows
      rw [follows]
    · rintro offset ⟨⟩
      rw [Follows] at follows
      rw [follows]
  | ok result =>
    rw [made] at follows
    obtain ⟨-, g, same, -⟩ := follows
    rw [same]
    dsimp only
    split <;> exact ⟨by simp, by simp⟩

/-- What a reader's errors are changed into, the errors of whole expressions are changed into. -/
theorem formula_mapError (change : ε → δ) (ts : List Token) :
    formula (fun raw => (read raw).mapError change) ts = (formula read ts).mapError (Fault.map change) := by
  have reads : ∀ raw f, read raw = .ok f → ∃ g, (read raw).mapError change = .ok g ∧ f = g := by
    intro raw f made
    exact ⟨f, by rw [made]; rfl, rfl⟩
  cases made : formula read ts with
  | ok f =>
    obtain ⟨g, same, rfl⟩ := formula_related congruent_eq reads made
    exact same
  | error fault =>
    cases fault with
    | unexpected found expected => exact (formula_misplaced congruent_eq reads ts).1 found expected made
    | unbalanced offset => exact (formula_misplaced congruent_eq reads ts).2 offset made
    | clause cause =>
      obtain ⟨raw, offset, -, refused, later⟩ := formula_refused congruent_eq reads made
      exact later (change cause) (by rw [refused]; rfl)

/-- What every clause has, and the connectives hand on, whole expressions have. -/
theorem formula_keeps {keeps : Formula α → Prop} (closed : Closed keeps)
    (reads : ∀ raw f, read raw = .ok f → keeps f) {ts : List Token} {f : Formula α}
    (found : formula read ts = .ok f) : keeps f := by
  have congruent : Congruent fun f (_ : Formula α) => keeps f := ⟨closed.not, closed.and, closed.or⟩
  obtain ⟨-, -, kept⟩ :=
    formula_related congruent (fun raw f made => ⟨f, made, reads raw f made⟩) found
  exact kept

end Crosscut.Grammar
