import Crosscut.Collect
import Crosscut.Pointcut.Grammar

/-! The documented grammar beside the reading functions. A derivation says which formula a list of
token kinds stands for, and nothing about how it is read: where the tokens stand in the text does not
matter, nor what is read first. Reading a token list gives a formula exactly when the formula can be
derived. -/
namespace Crosscut.Derivations
open Grammar

/-- The nonterminals of the grammar. -/
inductive Level where
  | operand | conjunction | disjunction

variable {ε α : Type} {read : RawClause → Except ε (Formula α)}

/-- The formulas of a list of token kinds, given what the clauses stand for. -/
inductive Derives (read : RawClause → Except ε (Formula α)) :
    Level → List TokenKind → Formula α → Prop where
  | clause {raw : RawClause} {f : Formula α} (known : read raw = .ok f) :
      Derives read .operand [.clause raw] f
  | not {ks : List TokenKind} {f : Formula α} (inner : Derives read .operand ks f) :
      Derives read .operand (.not :: ks) f.not
  | parentheses {ks : List TokenKind} {f : Formula α} (inner : Derives read .disjunction ks f) :
      Derives read .operand (.opening :: ks ++ [.closing]) f
  | operand {ks : List TokenKind} {f : Formula α} (single : Derives read .operand ks f) :
      Derives read .conjunction ks f
  | and {ks ls : List TokenKind} {f g : Formula α} (left : Derives read .conjunction ks f)
      (right : Derives read .operand ls g) :
      Derives read .conjunction (ks ++ .and :: ls) (f.and g)
  | conjunction {ks : List TokenKind} {f : Formula α} (single : Derives read .conjunction ks f) :
      Derives read .disjunction ks f
  | or {ks ls : List TokenKind} {f g : Formula α} (left : Derives read .disjunction ks f)
      (right : Derives read .conjunction ls g) :
      Derives read .disjunction (ks ++ .or :: ls) (f.or g)

/-- A reading without the proof that it has left fewer tokens over. -/
def plain {smaller : List Token → Prop} (result : Except (Fault ε) (Formula α × Subtype smaller)) :
    Except (Fault ε) (Formula α × List Token) :=
  result.map fun (f, rest) => (f, rest.val)

/-- The tokens do not go on with a connective. -/
def Stops (stop : TokenKind) (ts : List Token) : Prop :=
  ∀ offset rest, ts ≠ ⟨stop, offset⟩ :: rest

theorem plain_conjuncts_and (left : Formula α) (offset : Nat) (rest : List Token) :
    plain (conjuncts read left (⟨.and, offset⟩ :: rest)) =
      (plain (operand read rest)).bind fun (right, after) =>
        plain (conjuncts read (left.and right) after) := by
  rw [conjuncts]
  cases operand read rest with
  | error fault => rfl
  | ok result =>
    obtain ⟨right, after, fewer⟩ := result
    dsimp only [plain, Except.map, Except.bind]
    cases conjuncts read (left.and right) after <;> rfl

theorem plain_conjuncts_of_stops {left : Formula α} {ts : List Token} (stops : Stops .and ts) :
    plain (conjuncts read left ts) = .ok (left, ts) := by
  rw [conjuncts]
  · rfl
  · exact fun offset rest same => stops offset rest same

theorem plain_conjunction (ts : List Token) :
    plain (conjunction read ts) =
      (plain (operand read ts)).bind fun (first, rest) => plain (conjuncts read first rest) := by
  rw [conjunction]
  cases operand read ts with
  | error fault => rfl
  | ok result =>
    obtain ⟨first, rest, fewer⟩ := result
    dsimp only [plain, Except.map, Except.bind]
    cases conjuncts read first rest <;> rfl

theorem plain_disjuncts_or (left : Formula α) (offset : Nat) (rest : List Token) :
    plain (disjuncts read left (⟨.or, offset⟩ :: rest)) =
      (plain (conjunction read rest)).bind fun (right, after) =>
        plain (disjuncts read (left.or right) after) := by
  rw [disjuncts]
  cases conjunction read rest with
  | error fault => rfl
  | ok result =>
    obtain ⟨right, after, fewer⟩ := result
    dsimp only [plain, Except.map, Except.bind]
    cases disjuncts read (left.or right) after <;> rfl

theorem plain_disjuncts_of_stops {left : Formula α} {ts : List Token} (stops : Stops .or ts) :
    plain (disjuncts read left ts) = .ok (left, ts) := by
  rw [disjuncts]
  · rfl
  · exact fun offset rest same => stops offset rest same

theorem plain_disjunction (ts : List Token) :
    plain (disjunction read ts) =
      (plain (conjunction read ts)).bind fun (first, rest) => plain (disjuncts read first rest) := by
  rw [disjunction]
  cases conjunction read ts with
  | error fault => rfl
  | ok result =>
    obtain ⟨first, rest, fewer⟩ := result
    dsimp only [plain, Except.map, Except.bind]
    cases disjuncts read first rest <;> rfl

theorem plain_operand_clause (raw : RawClause) (offset : Nat) (rest : List Token) :
    plain (operand read (⟨.clause raw, offset⟩ :: rest)) =
      match read raw with
      | .error cause => .error (.clause cause)
      | .ok f => .ok (f, rest) := by
  rw [operand]
  cases read raw <;> rfl

theorem plain_operand_not (offset : Nat) (rest : List Token) :
    plain (operand read (⟨.not, offset⟩ :: rest)) =
      (plain (operand read rest)).bind fun (f, after) => .ok (f.not, after) := by
  rw [operand]
  cases operand read rest <;> rfl

theorem plain_operand_opening (offset : Nat) (rest : List Token) :
    plain (operand read (⟨.opening, offset⟩ :: rest)) =
      (plain (disjunction read rest)).bind fun (f, after) =>
        match after with
        | ⟨.closing, _⟩ :: after => .ok (f, after)
        | _ => .error (.unbalanced offset) := by
  rw [operand]
  rcases disjunction read rest with fault | ⟨f, ⟨_ | ⟨⟨kind, place⟩, more⟩, fewer⟩⟩
  · rfl
  · rfl
  · cases kind <;> rfl

/-- How a derived formula is read off the front of a token list. What is behind it decides where the
reading stops, so a conjunction and a disjunction are read up to the question how they go on. -/
def ReadOff (read : RawClause → Except ε (Formula α)) (ks : List TokenKind) (f : Formula α) :
    Level → Prop
  | .operand => ∀ ts rest, ts.map Token.kind = ks →
      plain (operand read (ts ++ rest)) = .ok (f, rest)
  | .conjunction => ∀ ts rest, ts.map Token.kind = ks →
      plain (conjunction read (ts ++ rest)) = plain (conjuncts read f rest)
  | .disjunction => ∀ ts rest, ts.map Token.kind = ks → Stops .and rest →
      plain (disjunction read (ts ++ rest)) = plain (disjuncts read f rest)

/-- Every derived formula is read. -/
theorem readOff_of_derives {level : Level} {ks : List TokenKind} {f : Formula α}
    (derived : Derives read level ks f) : ReadOff read ks f level := by
  induction derived with
  | clause known =>
    intro ts rest kinds
    obtain ⟨⟨kind, offset⟩, others, rfl, rfl, none⟩ := List.map_eq_cons_iff.mp kinds
    obtain rfl := List.map_eq_nil_iff.mp none
    rw [List.singleton_append, plain_operand_clause, known]
  | not inner ih =>
    intro ts rest kinds
    obtain ⟨⟨kind, offset⟩, others, rfl, rfl, more⟩ := List.map_eq_cons_iff.mp kinds
    rw [List.cons_append, plain_operand_not, ih others rest more]
    rfl
  | parentheses inner ih =>
    intro ts rest kinds
    obtain ⟨⟨kind, offset⟩, others, rfl, rfl, more⟩ := List.map_eq_cons_iff.mp kinds
    obtain ⟨front, last, rfl, kindsOfFront, closes⟩ := List.map_eq_append_iff.mp more
    obtain ⟨⟨kind, place⟩, none, rfl, rfl, nothing⟩ := List.map_eq_cons_iff.mp closes
    obtain rfl := List.map_eq_nil_iff.mp nothing
    rw [List.cons_append, plain_operand_opening, List.append_assoc,
      ih front _ kindsOfFront (by simp [Stops]), List.singleton_append,
      plain_disjuncts_of_stops (by simp [Stops])]
    rfl
  | operand single ih =>
    intro ts rest kinds
    rw [plain_conjunction, ih ts rest kinds]
    rfl
  | and left right ihLeft ihRight =>
    intro ts rest kinds
    obtain ⟨front, more, rfl, kindsOfFront, others⟩ := List.map_eq_append_iff.mp kinds
    obtain ⟨⟨kind, offset⟩, last, rfl, rfl, kindsOfLast⟩ := List.map_eq_cons_iff.mp others
    rw [List.append_assoc, ihLeft front _ kindsOfFront, List.cons_append, plain_conjuncts_and,
      ihRight last rest kindsOfLast]
    rfl
  | conjunction single ih =>
    intro ts rest kinds stops
    rw [plain_disjunction, ih ts rest kinds, plain_conjuncts_of_stops stops]
    rfl
  | or left right ihLeft ihRight =>
    intro ts rest kinds stops
    obtain ⟨front, more, rfl, kindsOfFront, others⟩ := List.map_eq_append_iff.mp kinds
    obtain ⟨⟨kind, offset⟩, last, rfl, rfl, kindsOfLast⟩ := List.map_eq_cons_iff.mp others
    rw [List.append_assoc, ihLeft front _ kindsOfFront (by simp [Stops]), List.cons_append,
      plain_disjuncts_or, ihRight last rest kindsOfLast, plain_conjuncts_of_stops stops]
    rfl

/-- What is left over is what the reading has promised. -/
theorem smaller_of_plain {smaller : List Token → Prop}
    {result : Except (Fault ε) (Formula α × Subtype smaller)} {f : Formula α} {rest : List Token}
    (made : plain result = .ok (f, rest)) : smaller rest := by
  obtain ⟨⟨g, left⟩, -, same⟩ := map_eq_ok.mp made
  cases same
  exact left.property

/-- The tokens before a rest, behind some kinds, stand for a formula. -/
def Stands (read : RawClause → Except ε (Formula α)) (level : Level) (before : List TokenKind)
    (ts : List Token) (f : Formula α) (rest : List Token) : Prop :=
  ∃ front, ts = front ++ rest ∧ Derives read level (before ++ front.map Token.kind) f

mutual

theorem operand_stands (ts : List Token) {f : Formula α} {rest : List Token}
    (made : plain (operand read ts) = .ok (f, rest)) : Stands read .operand [] ts f rest := by
  match ts with
  | [] | ⟨.closing, _⟩ :: _ | ⟨.and, _⟩ :: _ | ⟨.or, _⟩ :: _ =>
    rw [operand] at made
    cases made
  | ⟨.clause raw, offset⟩ :: others =>
    rw [plain_operand_clause] at made
    split at made
    · cases made
    · rename_i known
      cases made
      exact ⟨[⟨.clause raw, offset⟩], rfl, .clause known⟩
  | ⟨.not, offset⟩ :: others =>
    rw [plain_operand_not] at made
    obtain ⟨⟨g, after⟩, inner, same⟩ := bind_eq_ok.mp made
    cases same
    obtain ⟨front, rfl, derived⟩ := operand_stands others inner
    exact ⟨⟨.not, offset⟩ :: front, rfl, .not derived⟩
  | ⟨.opening, offset⟩ :: others =>
    rw [plain_operand_opening] at made
    obtain ⟨⟨g, after⟩, inner, closes⟩ := bind_eq_ok.mp made
    dsimp only at closes
    split at closes
    · rename_i place more
      cases closes
      obtain ⟨front, rfl, derived⟩ := disjunction_stands others inner
      refine ⟨⟨.opening, offset⟩ :: front ++ [⟨.closing, place⟩], by simp, ?_⟩
      simpa using Derives.parentheses derived
    · cases closes
termination_by 5 * ts.length
decreasing_by all_goals (simp only [List.length_cons]; omega)

theorem conjuncts_stand (ts : List Token) {left f : Formula α} {rest : List Token}
    (made : plain (conjuncts read left ts) = .ok (f, rest)) {before : List TokenKind}
    (derived : Derives read .conjunction before left) : Stands read .conjunction before ts f rest := by
  match ts with
  | ⟨.and, offset⟩ :: others =>
    rw [plain_conjuncts_and] at made
    obtain ⟨⟨right, after⟩, inner, more⟩ := bind_eq_ok.mp made
    have fewer := smaller_of_plain inner
    obtain ⟨front, rfl, onRight⟩ := operand_stands others inner
    obtain ⟨further, rfl, whole⟩ := conjuncts_stand after more (.and derived onRight)
    refine ⟨⟨.and, offset⟩ :: front ++ further, by simp, ?_⟩
    simpa using whole
  | [] | ⟨.clause _, _⟩ :: _ | ⟨.not, _⟩ :: _ | ⟨.opening, _⟩ :: _ | ⟨.closing, _⟩ :: _
  | ⟨.or, _⟩ :: _ =>
    rw [plain_conjuncts_of_stops (by simp [Stops])] at made
    cases made
    exact ⟨[], rfl, by simpa using derived⟩
termination_by 5 * ts.length + 1
decreasing_by all_goals (simp only [List.length_cons] at *; omega)

theorem conjunction_stands (ts : List Token) {f : Formula α} {rest : List Token}
    (made : plain (conjunction read ts) = .ok (f, rest)) : Stands read .conjunction [] ts f rest := by
  rw [plain_conjunction] at made
  obtain ⟨⟨first, after⟩, inner, more⟩ := bind_eq_ok.mp made
  have fewer := smaller_of_plain inner
  obtain ⟨front, rfl, onFirst⟩ := operand_stands ts inner
  obtain ⟨further, rfl, whole⟩ := conjuncts_stand after more (.operand onFirst)
  exact ⟨front ++ further, by simp, by simpa using whole⟩
termination_by 5 * ts.length + 2
decreasing_by all_goals omega

theorem disjuncts_stand (ts : List Token) {left f : Formula α} {rest : List Token}
    (made : plain (disjuncts read left ts) = .ok (f, rest)) {before : List TokenKind}
    (derived : Derives read .disjunction before left) : Stands read .disjunction before ts f rest := by
  match ts with
  | ⟨.or, offset⟩ :: others =>
    rw [plain_disjuncts_or] at made
    obtain ⟨⟨right, after⟩, inner, more⟩ := bind_eq_ok.mp made
    have fewer := smaller_of_plain inner
    obtain ⟨front, rfl, onRight⟩ := conjunction_stands others inner
    obtain ⟨further, rfl, whole⟩ := disjuncts_stand after more (.or derived onRight)
    refine ⟨⟨.or, offset⟩ :: front ++ further, by simp, ?_⟩
    simpa using whole
  | [] | ⟨.clause _, _⟩ :: _ | ⟨.not, _⟩ :: _ | ⟨.opening, _⟩ :: _ | ⟨.closing, _⟩ :: _
  | ⟨.and, _⟩ :: _ =>
    rw [plain_disjuncts_of_stops (by simp [Stops])] at made
    cases made
    exact ⟨[], rfl, by simpa using derived⟩
termination_by 5 * ts.length + 3
decreasing_by all_goals (simp only [List.length_cons] at *; omega)

theorem disjunction_stands (ts : List Token) {f : Formula α} {rest : List Token}
    (made : plain (disjunction read ts) = .ok (f, rest)) : Stands read .disjunction [] ts f rest := by
  rw [plain_disjunction] at made
  obtain ⟨⟨first, after⟩, inner, more⟩ := bind_eq_ok.mp made
  have fewer := smaller_of_plain inner
  obtain ⟨front, rfl, onFirst⟩ := conjunction_stands ts inner
  obtain ⟨further, rfl, whole⟩ := disjuncts_stand after more (.conjunction onFirst)
  exact ⟨front ++ further, by simp, by simpa using whole⟩
termination_by 5 * ts.length + 4
decreasing_by all_goals omega

end

/-- A token list is read as a formula exactly when the kinds of its tokens derive it. -/
theorem formula_eq_ok {ts : List Token} {f : Formula α} :
    formula read ts = .ok f ↔ Derives read .disjunction (ts.map Token.kind) f := by
  have whole : formula read ts = .ok f ↔ plain (disjunction read ts) = .ok (f, []) := by
    unfold formula
    rcases disjunction read ts with fault | ⟨g, ⟨_ | ⟨⟨kind, offset⟩, more⟩, fewer⟩⟩
    · simp [plain, Except.map]
    · simp [plain, Except.map]
    · cases kind <;> simp [plain, Except.map]
  rw [whole]
  constructor
  · intro made
    obtain ⟨front, rfl, derived⟩ := disjunction_stands ts made
    simpa using derived
  · intro derived
    have read := readOff_of_derives derived ts [] rfl (by simp [Stops])
    rw [List.append_nil] at read
    rw [read, plain_disjuncts_of_stops (by simp [Stops])]

theorem ne_nil_of_derives {level : Level} {ks : List TokenKind} {f : Formula α}
    (derived : Derives read level ks f) : ks ≠ [] := by
  induction derived with
  | operand _ ih | conjunction _ ih => exact ih
  | _ => simp

/-- What is derived with one reader is derived with another one that gives the same formulas. -/
theorem derives_of_agreeing {δ : Type} {other : RawClause → Except δ (Formula α)}
    (agree : ∀ raw f, read raw = .ok f → other raw = .ok f) {level : Level} {ks : List TokenKind}
    {f : Formula α} (derived : Derives read level ks f) : Derives other level ks f := by
  induction derived with
  | clause known => exact .clause (agree _ _ known)
  | not _ inner => exact .not inner
  | parentheses _ inner => exact .parentheses inner
  | operand _ single => exact .operand single
  | and _ _ left right => exact .and left right
  | conjunction _ single => exact .conjunction single
  | or _ _ left right => exact .or left right

end Crosscut.Derivations
