import Crosscut.Proofs.Derivations

/-! The grammar read token by token. The reading functions call each other where groups are nested. What
they do can be told in one pass from left to right: all that has to be known of the tokens in front is
which parentheses are open, and whether an operand or a connective comes next. A token list is refused
where a token does not fit for the first time, or at its end, and the state there decides which fault is
reported. -/
namespace Crosscut.TokenScan
open Grammar Derivations

/-- What has to come next, if the tokens are to go on. -/
inductive Turn where
  | operand | connective

/-- What is expected where a turn is not taken. -/
def Turn.expectation : Turn → Expectation
  | .operand => .operand
  | .connective => .connective

/-- The turn behind a token that fits, apart from the nesting of groups. -/
def Turn.next? : Turn → TokenKind → Option Turn
  | .operand, .clause _ => some .connective
  | .operand, .not | .operand, .opening => some .operand
  | .connective, .and | .connective, .or => some .operand
  | .connective, .closing => some .connective
  | _, _ => none

/-- The open parentheses behind a token; outside of all groups there is none to be closed. -/
def nest? (opened : List Nat) (t : Token) : Option (List Nat) :=
  match t.kind with
  | .opening => some (t.offset :: opened)
  | .closing => opened.tail?
  | _ => some opened

/-- How far a token list has been read: where the parentheses stand that are open, the innermost first,
and what comes next. -/
structure State where
  opened : List Nat
  turn : Turn

namespace State

def start : State := ⟨[], .operand⟩

/-- Reads a token that fits. -/
def step? (s : State) (t : Token) : Option State :=
  (s.turn.next? t.kind).bind fun turn => (nest? s.opened t).map (⟨·, turn⟩)

/-- Reads tokens as long as they fit. -/
def run? (s : State) (ts : List Token) : Option State :=
  ts.foldlM step? s

/-- The fault of a token that does not fit. -/
def refusal {ε : Type} (s : State) (t : Token) : Fault ε :=
  match s.turn, s.opened with
  | .connective, offset :: _ => .unbalanced offset
  | turn, _ =>
    if t.kind = .closing then .unbalanced t.offset else .unexpected (some t) turn.expectation

/-- What the end of the tokens means. -/
def ending {ε : Type} (s : State) : Except (Fault ε) Unit :=
  match s.turn, s.opened with
  | .connective, [] => .ok ()
  | .connective, offset :: _ => .error (.unbalanced offset)
  | .operand, _ => .error (.unexpected none .operand)

end State

variable {ε α : Type} (read : RawClause → Except ε (Formula α))

/-- Reads the clause that a token is. -/
def asked (t : Token) : Except (Fault ε) Unit :=
  match t.kind with
  | .clause raw => ((read raw).mapError .clause).map fun _ => ()
  | _ => .ok ()

/-- Reads tokens one after the other. -/
def scan (s : State) : List Token → Except (Fault ε) Unit
  | [] => s.ending
  | t :: rest =>
    match s.step? t with
    | some next => (asked read t).bind fun _ => scan next rest
    | none => .error (s.refusal t)

/-- Reads on behind a formula. -/
def onward (opened : List Nat) (result : Except (Fault ε) (Formula α × List Token)) :
    Except (Fault ε) Unit :=
  result.bind fun (_, rest) => scan read ⟨opened, .connective⟩ rest

variable {read}

/-! ### One pass -/

/-- Reading on behind a part and what goes on from it is reading on behind the part. -/
theorem onward_bind {opened inner : List Nat} {first : Except (Fault ε) (Formula α × List Token)}
    {next : Formula α × List Token → Except (Fault ε) (Formula α × List Token)}
    (same : ∀ f rest, first = .ok (f, rest) →
      onward read opened (next (f, rest)) = scan read ⟨inner, .connective⟩ rest) :
    onward read opened (first.bind next) = onward read inner first := by
  cases first with
  | error fault => rfl
  | ok result => exact same result.1 result.2 rfl

/-- Tokens go on with a connective, or they do not. -/
theorem stops_or_goes_on (stop : TokenKind) (ts : List Token) :
    Stops stop ts ∨ ∃ offset rest, ts = ⟨stop, offset⟩ :: rest := by
  by_cases goes : ∃ offset rest, ts = ⟨stop, offset⟩ :: rest
  · exact .inr goes
  · exact .inl fun offset rest same => goes ⟨offset, rest, same⟩

/-- A conjunction has been read to its end. -/
theorem conjuncts_stop (ts : List Token) {left f : Formula α} {rest : List Token}
    (made : plain (conjuncts read left ts) = .ok (f, rest)) : Stops .and rest := by
  rcases stops_or_goes_on .and ts with stops | ⟨offset, others, goes⟩
  · rw [plain_conjuncts_of_stops stops] at made
    cases made
    exact stops
  · rw [goes, plain_conjuncts_and] at made
    obtain ⟨⟨right, after⟩, inner, more⟩ := bind_eq_ok.mp made
    have fewer : after.length < ts.length := by
      rw [goes]
      exact Nat.lt_succ_of_lt (smaller_of_plain inner)
    exact conjuncts_stop after more
termination_by ts.length
decreasing_by exact fewer

theorem conjunction_stops {ts : List Token} {f : Formula α} {rest : List Token}
    (made : plain (conjunction read ts) = .ok (f, rest)) : Stops .and rest := by
  rw [plain_conjunction] at made
  obtain ⟨⟨first, after⟩, -, more⟩ := bind_eq_ok.mp made
  exact conjuncts_stop after more

/-- A disjunction has been read to its end. -/
theorem disjuncts_stop (ts : List Token) (ended : Stops .and ts) {left f : Formula α}
    {rest : List Token} (made : plain (disjuncts read left ts) = .ok (f, rest)) :
    Stops .and rest ∧ Stops .or rest := by
  rcases stops_or_goes_on .or ts with stops | ⟨offset, others, goes⟩
  · rw [plain_disjuncts_of_stops stops] at made
    cases made
    exact ⟨ended, stops⟩
  · rw [goes, plain_disjuncts_or] at made
    obtain ⟨⟨right, after⟩, inner, more⟩ := bind_eq_ok.mp made
    have fewer : after.length < ts.length := by
      rw [goes]
      exact Nat.lt_succ_of_lt (smaller_of_plain inner)
    exact disjuncts_stop after (conjunction_stops inner) more
termination_by ts.length
decreasing_by exact fewer

theorem disjunction_stops {ts : List Token} {f : Formula α} {rest : List Token}
    (made : plain (disjunction read ts) = .ok (f, rest)) : Stops .and rest ∧ Stops .or rest := by
  rw [plain_disjunction] at made
  obtain ⟨⟨first, after⟩, inner, more⟩ := bind_eq_ok.mp made
  exact disjuncts_stop after (conjunction_stops inner) more

/-- Behind a formula in a group, anything but a closing parenthesis is a fault of the group. -/
theorem onward_group (opened : List Nat) (offset : Nat) (f : Formula α) (rest : List Token) :
    Stops .and rest ∧ Stops .or rest →
      onward read opened (match rest with
          | ⟨.closing, _⟩ :: after => .ok (f, after)
          | _ => .error (.unbalanced offset)) =
        scan read ⟨offset :: opened, .connective⟩ rest := by
  rintro ⟨noAnd, noOr⟩
  match rest with
  | [] | ⟨.clause _, _⟩ :: _ | ⟨.not, _⟩ :: _ | ⟨.opening, _⟩ :: _ | ⟨.closing, _⟩ :: _ => rfl
  | ⟨.and, place⟩ :: after => exact absurd rfl (noAnd place after)
  | ⟨.or, place⟩ :: after => exact absurd rfl (noOr place after)

mutual

theorem operand_scan (opened : List Nat) (ts : List Token) :
    onward read opened (plain (operand read ts)) = scan read ⟨opened, .operand⟩ ts := by
  match ts with
  | [] | ⟨.closing, _⟩ :: _ | ⟨.and, _⟩ :: _ | ⟨.or, _⟩ :: _ =>
    rw [operand]
    rfl
  | ⟨.clause raw, offset⟩ :: rest =>
    rw [plain_operand_clause]
    have asks : scan read ⟨opened, .operand⟩ (⟨.clause raw, offset⟩ :: rest) =
        (asked read ⟨.clause raw, offset⟩).bind fun _ => scan read ⟨opened, .connective⟩ rest := rfl
    cases known : read raw <;> simp only [asks, asked, known] <;> rfl
  | ⟨.not, offset⟩ :: rest =>
    rw [plain_operand_not, onward_bind fun f rest made => rfl]
    exact operand_scan opened rest
  | ⟨.opening, offset⟩ :: rest =>
    rw [plain_operand_opening,
      onward_bind fun f after made => onward_group opened offset f after (disjunction_stops made)]
    exact disjunction_scan (offset :: opened) rest
termination_by 5 * ts.length
decreasing_by all_goals (simp only [List.length_cons]; omega)

theorem conjuncts_scan (opened : List Nat) (left : Formula α) (ts : List Token) :
    onward read opened (plain (conjuncts read left ts)) = scan read ⟨opened, .connective⟩ ts := by
  match ts with
  | ⟨.and, offset⟩ :: rest =>
    have behind : ∀ right after, plain (operand read rest) = .ok (right, after) →
        onward read opened (plain (conjuncts read (left.and right) after)) =
          scan read ⟨opened, .connective⟩ after := by
      intro right after inner
      have fewer := smaller_of_plain inner
      exact conjuncts_scan opened (left.and right) after
    rw [plain_conjuncts_and, onward_bind behind]
    exact operand_scan opened rest
  | [] | ⟨.clause _, _⟩ :: _ | ⟨.not, _⟩ :: _ | ⟨.opening, _⟩ :: _ | ⟨.closing, _⟩ :: _
  | ⟨.or, _⟩ :: _ =>
    rw [plain_conjuncts_of_stops (by simp [Stops])]
    rfl
termination_by 5 * ts.length + 1
decreasing_by all_goals (simp only [List.length_cons] at *; omega)

theorem conjunction_scan (opened : List Nat) (ts : List Token) :
    onward read opened (plain (conjunction read ts)) = scan read ⟨opened, .operand⟩ ts := by
  have behind : ∀ first rest, plain (operand read ts) = .ok (first, rest) →
      onward read opened (plain (conjuncts read first rest)) =
        scan read ⟨opened, .connective⟩ rest := by
    intro first rest inner
    have fewer := smaller_of_plain inner
    exact conjuncts_scan opened first rest
  rw [plain_conjunction, onward_bind behind]
  exact operand_scan opened ts
termination_by 5 * ts.length + 2
decreasing_by all_goals omega

theorem disjuncts_scan (opened : List Nat) (left : Formula α) (ts : List Token) :
    onward read opened (plain (disjuncts read left ts)) = scan read ⟨opened, .connective⟩ ts := by
  match ts with
  | ⟨.or, offset⟩ :: rest =>
    have behind : ∀ right after, plain (conjunction read rest) = .ok (right, after) →
        onward read opened (plain (disjuncts read (left.or right) after)) =
          scan read ⟨opened, .connective⟩ after := by
      intro right after inner
      have fewer := smaller_of_plain inner
      exact disjuncts_scan opened (left.or right) after
    rw [plain_disjuncts_or, onward_bind behind]
    exact conjunction_scan opened rest
  | [] | ⟨.clause _, _⟩ :: _ | ⟨.not, _⟩ :: _ | ⟨.opening, _⟩ :: _ | ⟨.closing, _⟩ :: _
  | ⟨.and, _⟩ :: _ =>
    rw [plain_disjuncts_of_stops (by simp [Stops])]
    rfl
termination_by 5 * ts.length + 3
decreasing_by all_goals (simp only [List.length_cons] at *; omega)

theorem disjunction_scan (opened : List Nat) (ts : List Token) :
    onward read opened (plain (disjunction read ts)) = scan read ⟨opened, .operand⟩ ts := by
  have behind : ∀ first rest, plain (conjunction read ts) = .ok (first, rest) →
      onward read opened (plain (disjuncts read first rest)) =
        scan read ⟨opened, .connective⟩ rest := by
    intro first rest inner
    have fewer := smaller_of_plain inner
    exact disjuncts_scan opened first rest
  rw [plain_disjunction, onward_bind behind]
  exact conjunction_scan opened ts
termination_by 5 * ts.length + 4
decreasing_by all_goals omega

end

/-- Reading a whole token list and reading its tokens one after the other is the same, but for the
formula. -/
theorem formula_scan (ts : List Token) :
    (formula read ts).map (fun _ => ()) = scan read .start ts := by
  rw [State.start, ← disjunction_scan]
  unfold formula
  rcases made : disjunction read ts with fault | ⟨f, ⟨rest, fewer⟩⟩
  · rfl
  · have whole : plain (disjunction read ts) = .ok (f, rest) := by
      rw [made]
      rfl
    obtain ⟨noAnd, noOr⟩ := disjunction_stops whole
    rcases rest with _ | ⟨⟨kind, offset⟩, more⟩
    · rfl
    · cases kind with
      | and => exact absurd rfl (noAnd offset more)
      | or => exact absurd rfl (noOr offset more)
      | clause _ | not | opening | closing => rfl

/-! ### Where it stops -/

/-- Reads the clauses among some tokens. -/
def askedAll (read : RawClause → Except ε (Formula α)) : List Token → Except (Fault ε) Unit
  | [] => .ok ()
  | t :: rest => (asked read t).bind fun _ => askedAll read rest

variable {s reached : State} {before rest ts : List Token} {t : Token}

theorem step?_eq_some : s.step? t = some reached ↔
    s.turn.next? t.kind = some reached.turn ∧ nest? s.opened t = some reached.opened := by
  constructor
  · intro steps
    obtain ⟨turn, follows, made⟩ := Option.bind_eq_some_iff.mp steps
    obtain ⟨opened, nests, rfl⟩ := Option.map_eq_some_iff.mp made
    exact ⟨follows, nests⟩
  · rintro ⟨follows, nests⟩
    rw [State.step?, follows, Option.bind_some, nests]
    rfl

theorem run?_cons : s.run? (t :: ts) = (s.step? t).bind (·.run? ts) := by
  unfold State.run?
  rw [List.foldlM_cons]
  rfl

/-- Tokens that fit are read, each clause among them in its turn. -/
theorem scan_append (read : RawClause → Except ε (Formula α)) (runs : s.run? before = some reached)
    (rest : List Token) :
    scan read s (before ++ rest) = (askedAll read before).bind fun _ => scan read reached rest := by
  induction before generalizing s with
  | nil =>
    cases runs
    rfl
  | cons t before ih =>
    rw [run?_cons] at runs
    obtain ⟨next, steps, runs⟩ := Option.bind_eq_some_iff.mp runs
    rw [List.cons_append, scan, steps]
    dsimp only
    rw [ih runs, askedAll]
    cases asked read t <;> rfl

/-- The tokens of a list fit up to one that does not, or up to the end. -/
theorem runs_or_stops (s : State) (ts : List Token) :
    (∃ reached, s.run? ts = some reached) ∨ ∃ before t rest reached, ts = before ++ t :: rest ∧
      s.run? before = some reached ∧ reached.step? t = none := by
  induction ts generalizing s with
  | nil => exact .inl ⟨s, rfl⟩
  | cons t ts ih =>
    cases steps : s.step? t with
    | none => exact .inr ⟨[], t, ts, s, rfl, rfl, steps⟩
    | some next =>
      rcases ih next with ⟨reached, runs⟩ | ⟨before, u, rest, reached, rfl, runs, stops⟩
      · exact .inl ⟨reached, by rw [run?_cons, steps, Option.bind_some, runs]⟩
      · refine .inr ⟨t :: before, u, rest, reached, rfl, ?_, stops⟩
        rw [run?_cons, steps, Option.bind_some, runs]

/-- Tokens that fit to the end are refused for a clause among them, or for what is missing. -/
theorem formula_of_run (read : RawClause → Except ε (Formula α))
    (runs : State.start.run? ts = some reached) :
    (formula read ts).map (fun _ => ()) = (askedAll read ts).bind fun _ => reached.ending := by
  have all := scan_append read runs []
  rw [List.append_nil] at all
  rw [formula_scan, all]
  rfl

/-- A token that does not fit is refused, unless a clause in front of it is. -/
theorem formula_of_stop (read : RawClause → Except ε (Formula α))
    (runs : State.start.run? before = some reached) (stops : reached.step? t = none)
    (rest : List Token) :
    (formula read (before ++ t :: rest)).map (fun _ => ()) =
      (askedAll read before).bind fun _ => .error (reached.refusal t) := by
  rw [formula_scan, scan_append read runs, scan, stops]

/-- What is refused while clauses are read is one of them. -/
theorem askedAll_eq_error {fault : Fault ε} (failed : askedAll read ts = .error fault) :
    ∃ raw offset cause, ⟨.clause raw, offset⟩ ∈ ts ∧ read raw = .error cause ∧
      fault = .clause cause := by
  induction ts with
  | nil => cases failed
  | cons t rest ih =>
    rw [askedAll] at failed
    cases asks : asked read t with
    | ok _ =>
      rw [asks] at failed
      obtain ⟨raw, offset, cause, member, refused, same⟩ := ih failed
      exact ⟨raw, offset, cause, List.mem_cons_of_mem t member, refused, same⟩
    | error other =>
      rw [asks] at failed
      cases failed
      obtain ⟨kind, offset⟩ := t
      cases kind with
      | clause raw =>
        have same : asked read ⟨.clause raw, offset⟩ =
            ((read raw).mapError .clause).map fun _ => () := rfl
        cases known : read raw with
        | ok f =>
          rw [same, known] at asks
          cases asks
        | error cause =>
          rw [same, known] at asks
          cases asks
          exact ⟨raw, offset, cause, List.mem_cons_self, known, rfl⟩
      | and | or | not | opening | closing => cases asks

/-- A fault is the refusal of a clause, or that of the first token that does not fit, or what the end
of the tokens lacks. -/
theorem fault_of_formula {fault : Fault ε} (failed : formula read ts = .error fault) :
    (∃ raw offset cause, ⟨.clause raw, offset⟩ ∈ ts ∧ read raw = .error cause ∧
        fault = .clause cause) ∨
      (∃ reached, State.start.run? ts = some reached ∧ reached.ending = .error fault) ∨
      ∃ before t rest reached, ts = before ++ t :: rest ∧ State.start.run? before = some reached ∧
        reached.step? t = none ∧ fault = reached.refusal t := by
  rcases runs_or_stops .start ts with ⟨reached, runs⟩ | ⟨before, t, rest, reached, rfl, runs, stops⟩
  · have all := formula_of_run read runs
    rw [failed] at all
    cases asks : askedAll read ts with
    | error other =>
      rw [asks] at all
      cases all
      exact .inl (askedAll_eq_error asks)
    | ok _ =>
      rw [asks] at all
      exact .inr (.inl ⟨reached, runs, all.symm⟩)
  · have all := formula_of_stop read runs stops rest
    rw [failed] at all
    cases asks : askedAll read before with
    | error other =>
      rw [asks] at all
      cases all
      obtain ⟨raw, offset, cause, member, refused⟩ := askedAll_eq_error asks
      exact .inl ⟨raw, offset, cause, List.mem_append_left _ member, refused⟩
    | ok _ =>
      rw [asks] at all
      cases all
      exact .inr (.inr ⟨before, t, rest, reached, rfl, runs, stops, rfl⟩)

/-- How a token that does not fit is refused: in a group where a connective is to come, for the group;
else for itself, as a parenthesis without a partner if it is a closing one. -/
theorem refusal_cases {ε : Type} (stops : s.step? t = none) :
    (∃ offset outer, s = ⟨offset :: outer, .connective⟩ ∧ s.turn.next? t.kind = none ∧
        (s.refusal t : Fault ε) = .unbalanced offset) ∨
      (s.turn = .operand ∨ s.opened = []) ∧
        (t.kind = .closing ∧ (s.refusal t : Fault ε) = .unbalanced t.offset ∨
          t.kind ≠ .closing ∧ s.turn.next? t.kind = none ∧
            (s.refusal t : Fault ε) = .unexpected (some t) s.turn.expectation) := by
  obtain ⟨opened, turn⟩ := s
  obtain ⟨kind, offset⟩ := t
  cases turn with
  | operand => cases kind <;> simp_all [State.step?, State.refusal, Turn.next?, nest?]
  | connective =>
    cases opened <;> cases kind <;> simp_all [State.step?, State.refusal, Turn.next?, nest?]

end Crosscut.TokenScan
