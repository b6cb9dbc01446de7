import Crosscut.Pointcut.Parse
import Crosscut.Proofs.Partners
import Crosscut.Proofs.SyntaxTrees
import Crosscut.Proofs.TextPieces
import Crosscut.Proofs.TokenScan

/-! What an error about parentheses tells. A token list stops being readable at its first token that does
not fit. If that is a parenthesis without a partner, or a parenthesis without a partner is open there,
the error says so. But the error is the same where a closing parenthesis stands in the place of an
operand, and where any token but a connective stands behind an operand in a group, although the group is
closed further back. A text whose parentheses all have partners is refused for its parentheses in these
two cases, and for the token itself in every other one. -/
namespace Crosscut.ParenthesisErrors
open Token TokenTexts Lexemes TextPieces Partners Grammar TokenScan SyntaxTrees

/-! ### Nesting -/

/-- The parenthesis that a token is. -/
def mark (t : Token) : List Char :=
  match t.kind with
  | .opening => ['(']
  | .closing => [')']
  | _ => []

/-- Tokens whose parentheses all have partners among them. -/
def Nested (ts : List Token) : Prop :=
  Closes 0 (ts.flatMap mark)

/-- Tokens that follow each other as the grammar allows, apart from the nesting of groups, and whose turn
it is behind them. -/
def Follows (ts : List Token) (turn : Turn) : Prop :=
  (ts.map Token.kind).foldlM Turn.next? .operand = some turn

/-- Groups that are open behind tokens: the innermost one was opened last, and all that was opened in it
is closed. -/
inductive Opened : List Token → List Nat → Prop
  | none {ts : List Token} (nested : Nested ts) : Opened ts []
  | group {front inside : List Token} {opened : List Nat} {offset : Nat} (outer : Opened front opened)
      (nested : Nested inside) : Opened (front ++ ⟨.opening, offset⟩ :: inside) (offset :: opened)

/-- A token that is out of place in a group that is closed properly is reported as a parenthesis without
a partner: a closing one where an operand is to come, at its own place, and any token that would start
an operand where a connective is to come, at the place where the group was opened. -/
inductive Misreported (ts : List Token) (offset : Nat) : Prop
  | closing {front inside rest : List Token} {opening : Nat}
      (whole : ts = front ++ ⟨.opening, opening⟩ :: inside ++ ⟨.closing, offset⟩ :: rest)
      (nested : Nested inside) (turn : Follows (front ++ ⟨.opening, opening⟩ :: inside) .operand)
  | other {front inside rest : List Token} {t : Token}
      (whole : ts = front ++ ⟨.opening, offset⟩ :: inside ++ t :: rest)
      (nested : Nested inside) (turn : Follows (front ++ ⟨.opening, offset⟩ :: inside) .connective)
      (misplaced : Turn.connective.next? t.kind = none)

/-- The tokens of a list fit up to a place where one does not, or where an operand is missing. -/
structure FirstMisplaced (ts before rest : List Token) (turn : Turn) : Prop where
  whole : ts = before ++ rest
  follows : Follows before turn
  misplaced : ∀ t, rest.head? = some t → turn.next? t.kind = none
  missing : rest = [] → turn = .operand

variable {ts before rest inside : List Token} {t : Token} {s reached : State} {opened : List Nat}

theorem nested_nil : Nested [] :=
  closes_nil.mpr rfl

theorem nested_append (inner : Nested before) : Nested (before ++ ts) ↔ Nested ts := by
  rw [Nested, List.flatMap_append, closes_append inner]
  rfl

theorem nested_single (plain : mark t = []) : Nested [t] := by
  rw [Nested, List.flatMap_cons, plain]
  exact closes_nil.mpr rfl

theorem nested_group (inner : Nested inside) (opening closing : Nat) :
    Nested (⟨.opening, opening⟩ :: inside ++ [⟨.closing, closing⟩]) := by
  have around := closes_group inner
  simpa [Nested, mark] using around

theorem Opened.append (outer : Opened before opened) (nested : Nested ts) :
    Opened (before ++ ts) opened := by
  cases outer with
  | none inner => exact .none ((nested_append inner).mpr nested)
  | group outer inner =>
    rw [List.append_assoc, List.cons_append]
    exact .group outer ((nested_append inner).mpr nested)

/-- What is open behind one more token. -/
theorem opened_nest {after : List Nat} (opens : Opened before opened)
    (nests : nest? opened t = some after) : Opened (before ++ [t]) after := by
  obtain ⟨kind, offset⟩ := t
  cases kind with
  | clause _ | and | or | not =>
    cases nests
    exact opens.append (nested_single rfl)
  | opening =>
    cases nests
    exact .group opens nested_nil
  | closing =>
    cases opens with
    | none _ => cases nests
    | group outer inner =>
      cases nests
      rw [List.append_assoc]
      exact outer.append (nested_group inner _ offset)

/-- What is open behind tokens that have been read. -/
theorem opened_run (opens : Opened before s.opened) (runs : s.run? ts = some reached) :
    Opened (before ++ ts) reached.opened := by
  induction ts generalizing before s with
  | nil =>
    cases runs
    rwa [List.append_nil]
  | cons t rest ih =>
    rw [run?_cons] at runs
    obtain ⟨next, steps, runs⟩ := Option.bind_eq_some_iff.mp runs
    have further := ih (opened_nest opens (step?_eq_some.mp steps).2) runs
    rwa [List.append_assoc] at further

theorem follows_run (runs : s.run? ts = some reached) :
    (ts.map Token.kind).foldlM Turn.next? s.turn = some reached.turn := by
  induction ts generalizing s with
  | nil =>
    cases runs
    rfl
  | cons t rest ih =>
    rw [run?_cons] at runs
    obtain ⟨next, steps, runs⟩ := Option.bind_eq_some_iff.mp runs
    rw [List.map_cons, List.foldlM_cons, (step?_eq_some.mp steps).1]
    exact ih runs

/-- What has been read up to a state. -/
theorem read_of_run (runs : State.start.run? ts = some s) : Opened ts s.opened ∧ Follows ts s.turn := by
  have none : Opened [] State.start.opened := .none nested_nil
  exact ⟨opened_run none runs, follows_run runs⟩

/-! ### Tokens in texts -/

variable {cs : List Char} {pieces : List Piece} {offset depth : Nat}

theorem closes_plain (plain : ∀ c ∈ cs, c ≠ '(' ∧ c ≠ ')') : Closes 0 cs := by
  induction cs with
  | nil => exact closes_nil.mpr rfl
  | cons c rest ih =>
    obtain ⟨here, behind⟩ := List.forall_mem_cons.mp plain
    exact (closes_other here.2 here.1).mpr (ih behind)

/-- A clause closes the parentheses that it opens. -/
theorem closes_clause {text : List Char} {raw : RawClause} (lexeme : Lexeme text (.clause raw)) :
    Closes 0 text := by
  cases lexeme with
  | @clause word spacing body kind keyword means blank balanced =>
    obtain ⟨first, name, rfl, starts, plain⟩ := exists_of_keyword keyword
    have noName : ∀ c, isNameChar c = true → c ≠ '(' ∧ c ≠ ')' := by
      rintro c known
      constructor <;> rintro rfl <;> exact absurd known (by decide +kernel)
    have noStart : first ≠ '(' ∧ first ≠ ')' := by
      constructor <;> rintro rfl <;> exact absurd starts (by decide +kernel)
    have noBlank : ∀ c, Text.isBlank c = true → c ≠ '(' ∧ c ≠ ')' := by
      rintro c known
      constructor <;> rintro rfl <;> exact absurd known (by decide)
    have inWord : Closes 0 (first :: name) :=
      closes_plain (List.forall_mem_cons.mpr ⟨noStart, fun c member => noName c (plain c member)⟩)
    have inSpacing : Closes 0 spacing := closes_plain fun c member => noBlank c (blank c member)
    rw [List.append_assoc, List.append_assoc, closes_append inWord, closes_append inSpacing]
    exact closes_group balanced

/-- The parentheses of a text that have to be matched are those that are tokens. -/
theorem closes_pieces (valid : ∀ piece ∈ pieces, piece.Valid) (offset depth : Nat) :
    Closes depth (pieces.flatMap Piece.chars) ↔
      Closes depth ((Piece.tokens offset pieces).flatMap mark) := by
  induction pieces generalizing offset depth with
  | nil => exact Iff.rfl
  | cons piece rest ih =>
    obtain ⟨here, behind⟩ := List.forall_mem_cons.mp valid
    rw [List.flatMap_cons]
    cases piece with
    | blank c =>
      have blank : Text.isBlank c = true := here
      have plain : c ≠ '(' ∧ c ≠ ')' := by
        constructor <;> rintro rfl <;> exact absurd blank (by decide)
      exact (closes_append (closes_single plain.1 plain.2)).trans (ih behind _ depth)
    | lexeme text kind =>
      rw [Piece.tokens, List.flatMap_cons]
      cases kind with
      | opening =>
        cases here
        exact closes_opening.trans ((ih behind _ _).trans closes_opening.symm)
      | closing =>
        cases here
        exact closes_closing.trans ((and_congr_right fun _ => ih behind _ _).trans closes_closing.symm)
      | clause raw => exact (closes_append (closes_clause here)).trans (ih behind _ depth)
      | and | or | not =>
        cases here
        exact (closes_append (closes_plain (by simp [Piece.chars]))).trans (ih behind _ depth)

/-- A token comes from a lexeme in the text, behind the pieces of the tokens in front of it. -/
theorem pieces_of_token (tokens : Piece.tokens offset pieces = before ++ t :: rest) :
    ∃ front text back, pieces = front ++ .lexeme text t.kind :: back ∧
      Piece.tokens offset front = before ∧
      t.offset = offset + Text.byteLength (front.flatMap Piece.chars) ∧
      Piece.tokens (t.offset + Text.byteLength text) back = rest := by
  induction pieces generalizing offset before with
  | nil => simp [Piece.tokens] at tokens
  | cons piece others ih =>
    cases piece with
    | blank c =>
      obtain ⟨front, text, back, rfl, inFront, place, behind⟩ := ih tokens
      refine ⟨.blank c :: front, text, back, rfl, inFront, ?_, behind⟩
      rw [place, List.flatMap_cons, byteLength_append]
      exact Nat.add_assoc _ _ _
    | lexeme word kind =>
      rw [Piece.tokens] at tokens
      cases before with
      | nil =>
        cases tokens
        exact ⟨[], word, others, rfl, rfl, rfl, rfl⟩
      | cons first more =>
        obtain ⟨rfl, later⟩ := List.cons.inj tokens
        obtain ⟨front, text, back, rfl, inFront, place, behind⟩ := ih later
        refine ⟨.lexeme word kind :: front, text, back, rfl, by rw [Piece.tokens, inFront], ?_, behind⟩
        rw [place, List.flatMap_cons, byteLength_append]
        exact Nat.add_assoc _ _ _

/-- A text is balanced exactly if its tokens are. -/
theorem balanced_iff_nested (cut : lex 0 cs = .ok ts) : Closes 0 cs ↔ Nested ts := by
  obtain ⟨pieces, ⟨valid, rfl⟩, rfl⟩ := cuts_of_lex cut
  exact closes_pieces valid 0 0

/-- A closing parenthesis has no partner if those in front of it have theirs there. -/
theorem unpaired_of_closing (cut : lex 0 cs = .ok (before ++ ⟨.closing, offset⟩ :: rest))
    (nested : Nested before) : Unpaired cs offset := by
  obtain ⟨pieces, ⟨valid, rfl⟩, tokens⟩ := cuts_of_lex cut
  obtain ⟨front, text, back, rfl, rfl, place, -⟩ := pieces_of_token tokens
  obtain ⟨inFront, here, -⟩ := List.forall_mem_append.mp valid |>.imp id List.forall_mem_cons.mp
  cases here
  dsimp only at place
  rw [place, Nat.zero_add, List.flatMap_append, List.flatMap_cons]
  exact unpaired_closing ((closes_pieces inFront 0 0).mpr nested) _

/-- An opening parenthesis has no partner if those behind it have theirs there. -/
theorem unpaired_of_opening (cut : lex 0 cs = .ok (before ++ ⟨.opening, offset⟩ :: inside))
    (nested : Nested inside) : Unpaired cs offset := by
  obtain ⟨pieces, ⟨valid, rfl⟩, tokens⟩ := cuts_of_lex cut
  obtain ⟨front, text, back, rfl, -, place, rfl⟩ := pieces_of_token tokens
  obtain ⟨-, here, behind⟩ := List.forall_mem_append.mp valid |>.imp id List.forall_mem_cons.mp
  cases here
  dsimp only at place
  rw [place, Nat.zero_add, List.flatMap_append, List.flatMap_cons]
  exact unpaired_opening ((closes_pieces behind _ 0).mpr nested) _

/-! ### Clauses without an end -/

/-- A parenthesis at a place of a text is not closed behind it. -/
def Unclosed (offset : Nat) (cs : List Char) (place : Nat) : Prop :=
  ∃ front back, cs = front ++ '(' :: back ∧ place = offset + Text.byteLength front ∧
    untilClosed 0 back = none

theorem unclosed_append {place : Nat} (text : List Char)
    (unclosed : Unclosed (offset + Text.byteLength text) cs place) :
    Unclosed offset (text ++ cs) place := by
  obtain ⟨front, back, rfl, rfl, never⟩ := unclosed
  exact ⟨text ++ front, back, by simp, by rw [byteLength_append, Nat.add_assoc], never⟩

theorem unclosed_of_readClause {first : Char} {place : Nat}
    (failed : readClause offset first cs = .error (.unclosed place)) :
    Unclosed offset (first :: cs) place := by
  simp only [readClause] at failed
  split at failed
  · rename_i inside opens
    split at failed
    · rename_i unclosed
      cases failed
      refine ⟨first :: cs.takeWhile isNameChar ++ (cs.dropWhile isNameChar).takeWhile Text.isBlank,
        inside, ?_, by rw [byteLength_append, Nat.add_assoc], unclosed⟩
      rw [List.append_assoc, ← opens, List.takeWhile_append_dropWhile, List.cons_append,
        List.takeWhile_append_dropWhile]
    · split at failed <;> cases failed
  · cases failed

/-- A text that ends within a clause has an opening parenthesis without a partner there. -/
theorem unclosed_of_lex {place : Nat} (failed : lex offset cs = .error (.unclosed place)) :
    Unclosed offset cs place := by
  have token : ∀ (text : List Char) {rest : List Char} {kind : TokenKind} {next offset : Nat},
      next = offset + Text.byteLength text →
      (lex next rest = .error (.unclosed place) → Unclosed next rest place) →
      (lex next rest).map (⟨kind, offset⟩ :: ·) = .error (.unclosed place) →
      Unclosed offset (text ++ rest) place := by
    rintro text rest kind _ offset rfl behind failed
    exact unclosed_append text (behind (map_eq_error.mp failed))
  fun_induction lex offset cs with
  | case1 => cases failed
  | case2 offset rest ih => exact token ['!'] rfl ih failed
  | case3 offset rest ih => exact token ['('] rfl ih failed
  | case4 offset rest ih => exact token [')'] rfl ih failed
  | case5 offset rest ih => exact token ['&', '&'] rfl ih failed
  | case6 offset rest ih => exact token ['|', '|'] rfl ih failed
  | case7 offset c rest _ _ _ _ _ blank ih => exact unclosed_append [c] (ih failed)
  | case8 offset c rest _ _ _ _ _ solid starts other made =>
    cases failed
    exact unclosed_of_readClause made
  | case9 offset c rest _ _ _ _ _ solid starts raw next after made ih =>
    obtain ⟨text, whole, lexeme, place⟩ := lexeme_of_readClause starts made
    rw [whole]
    exact token text place ih failed
  | case10 offset c rest => cases failed

theorem unpaired_of_unclosed {place : Nat} (unclosed : Unclosed 0 cs place) : Unpaired cs place := by
  obtain ⟨front, back, whole, rfl, never⟩ := unclosed
  refine .opening whole (Nat.zero_add _).symm ?_
  rintro inside behind rfl even
  cases never.symm.trans (untilClosed_of_closes even behind)

/-! ### Reports -/

variable {ε α : Type} {read : RawClause → Except ε (Formula α)}

/-- A token list whose reading fails for a parenthesis lacks a partner for it, or is misreported. -/
theorem unpaired_or_misreported (cut : lex 0 cs = .ok ts)
    (failed : formula read ts = .error (.unbalanced offset)) :
    Unpaired cs offset ∨ Misreported ts offset := by
  rcases fault_of_formula failed with ⟨_, _, _, -, -, other⟩ | ⟨s, runs, ends⟩ |
    ⟨before, t, rest, s, rfl, runs, stops, refused⟩
  · cases other
  · obtain ⟨opens, -⟩ := read_of_run runs
    obtain ⟨opened, turn⟩ := s
    cases turn with
    | operand => cases ends
    | connective =>
      cases opens with
      | none nested => cases ends
      | group outer nested =>
        cases ends
        exact .inl (unpaired_of_opening cut nested)
  · obtain ⟨opens, turn⟩ := read_of_run runs
    rcases refusal_cases stops with ⟨place, outer, rfl, misplaced, tells⟩ |
      ⟨free, ⟨closing, tells⟩ | ⟨-, -, tells⟩⟩
    · cases refused.trans tells
      cases opens with
      | group _ nested => exact .inr (.other rfl nested turn misplaced)
    · cases refused.trans tells
      obtain ⟨kind, offset⟩ := t
      cases closing
      obtain ⟨opened, awaited⟩ := s
      cases opens with
      | none nested => exact .inl (unpaired_of_closing cut nested)
      | group outer nested =>
        rcases free with rfl | other
        · exact .inr (.closing rfl nested turn)
        · cases other
    · cases refused.trans tells

variable {ctx : PointcutContext} {active : List String} {scope : Scope} {expression shown : String}

/-- A parenthesis without a partner in a text, or one that is misreported. -/
def Explained (shown : String) (offset : Nat) : Prop :=
  Unpaired shown.toList offset ∨ ∃ ts, tokenize shown = .ok ts ∧ Misreported ts offset

/-- A clause reports parentheses only of the expression that it refers to. -/
theorem inner_of_readClause {raw : RawClause}
    (failed : Pointcut.readClause ctx active scope expression raw =
      .error (.unbalancedParentheses shown offset)) :
    ∃ inner : { e : Expansion // e.key ∈ ctx.keys ∧ e.key ∉ active },
      Pointcut.expand ctx (active ++ [inner.val.key]) inner.val.scope inner.val.body =
        .error (.unbalancedParentheses shown offset) := by
  have expanded : raw.expansion ctx active scope expression ≠
      .error (.unbalancedParentheses shown offset) := by
    intro refused
    unfold RawClause.expansion at refused
    split at refused
    · cases refused
    · split at refused
      · cases refused
      · split at refused
        · cases refused
        · dsimp only at refused
          split at refused
          · split at refused
            · rename_i unknown
              cases refused
              obtain ⟨name, other⟩ | ⟨fault, other⟩ := RawClause.error_of_passAll unknown
              all_goals cases other
            · cases refused
          · cases refused
  unfold Pointcut.readClause at failed
  split at failed
  · rename_i d kind
    unfold RawClause.toClause at failed
    cases read : ClauseSpec.read scope raw.body d with
    | error fault =>
      rw [read] at failed
      cases fault <;> cases failed
    | ok spec => simp [read, Except.map] at failed
  · split at failed
    · rename_i e refused
      cases failed
      exact absurd refused expanded
    · rename_i inner known entered
      split at failed
      · rename_i e inside
        cases failed
        exact ⟨⟨inner, known⟩, inside⟩
      · cases failed

theorem unpaired_of_tokenize
    (failed : tokenize expression = .error (.unbalancedParentheses shown offset)) :
    expression = shown ∧ Unpaired shown.toList offset := by
  unfold tokenize at failed
  cases stopped : lex 0 expression.toList with
  | ok ts =>
    rw [stopped] at failed
    cases failed
  | error fault =>
    rw [stopped] at failed
    cases fault with
    | unclosed place =>
      cases failed
      exact ⟨rfl, unpaired_of_unclosed (unclosed_of_lex stopped)⟩
    | stray _ _ | noBody _ _ | unknownWord _ _ => cases failed

/-- However deep in nested expansions parentheses are reported, the report is explained by the text that
it shows. -/
theorem explained_of_expand (failed : Pointcut.expand ctx active scope expression =
    .error (.unbalancedParentheses shown offset)) : Explained shown offset := by
  induction active, scope, expression using Pointcut.expand_induction with
  | step active scope expression ih =>
    rw [Pointcut.expand_eq] at failed
    cases cut : tokenize expression with
    | error e =>
      rw [cut] at failed
      cases failed
      exact .inl (unpaired_of_tokenize cut).2
    | ok ts =>
      rw [cut] at failed
      cases ts with
      | nil => cases failed
      | cons first rest =>
        dsimp only at failed
        split at failed
        · rename_i fault made
          rcases fault with ⟨_ | found, expected⟩ | place | cause
          · cases failed
          · cases failed
          · cases failed
            rcases unpaired_or_misreported (tokenize_eq_ok.mp cut) made with unpaired | misreported
            · exact .inl unpaired
            · exact .inr ⟨_, cut, misreported⟩
          · cases failed
            obtain ⟨raw, place, -, refused, -⟩ :=
              formula_refused congruent_eq (fun raw f made => ⟨f, made, rfl⟩) made
            obtain ⟨inner, inside⟩ := inner_of_readClause refused
            exact ih inner.val inner.property inside
        · cases failed

/-! ### Balanced texts -/

variable {others more : List Token} {turn next : Turn}

theorem follows_append : Follows (before ++ more) next ↔
    ∃ turn, Follows before turn ∧ (more.map Token.kind).foldlM Turn.next? turn = some next := by
  unfold Follows
  rw [List.map_append, List.foldlM_append]
  exact Option.bind_eq_some_iff

/-- The tokens that fit do not reach beyond the first one that does not. -/
theorem FirstMisplaced.eq_nil (first : FirstMisplaced ts before (more ++ rest) turn)
    (follows : Follows (before ++ more) next) : more = [] := by
  cases more with
  | nil => rfl
  | cons t more =>
    obtain ⟨reached, fits, further⟩ := follows_append.mp follows
    cases fits.symm.trans first.follows
    rw [List.map_cons, List.foldlM_cons, first.misplaced t rfl] at further
    cases further

/-- There is one first place where the tokens do not fit. -/
theorem FirstMisplaced.unique (first : FirstMisplaced ts before rest turn)
    (other : FirstMisplaced ts more others next) : before = more ∧ rest = others ∧ turn = next := by
  have same : before = more ∧ rest = others := by
    rcases List.append_eq_append_iff.mp (first.whole.symm.trans other.whole) with
      ⟨between, rfl, rfl⟩ | ⟨between, rfl, rfl⟩
    · obtain rfl := first.eq_nil other.follows
      simp
    · obtain rfl := other.eq_nil first.follows
      simp
  obtain ⟨rfl, rfl⟩ := same
  exact ⟨rfl, rfl, Option.some.inj (first.follows.symm.trans other.follows)⟩

/-- A token that is misreported is the first one out of place. -/
theorem Misreported.first (misreported : Misreported ts offset) :
    ∃ before rest turn, FirstMisplaced ts before rest turn ∧
      (turn = .operand ∧ (∃ behind, rest = ⟨.closing, offset⟩ :: behind) ∨
        turn = .connective ∧ ¬ Nested before) := by
  rcases misreported with ⟨rfl, nested, follows⟩ | ⟨rfl, nested, follows, misplaced⟩
  · refine ⟨_, _, _, ⟨rfl, follows, ?_, by simp⟩, .inl ⟨rfl, _, rfl⟩⟩
    rintro t ⟨⟩
    rfl
  · refine ⟨_, _, _, ⟨rfl, follows, ?_, by simp⟩, .inr ⟨rfl, ?_⟩⟩
    · rintro t ⟨⟩
      exact misplaced
    · rw [Nested, List.flatMap_append, List.flatMap_cons]
      exact not_closes_of_opening nested

/-- Nothing is open behind nested tokens. -/
theorem Opened.eq_nil (opens : Opened ts opened) (nested : Nested ts) : opened = [] := by
  cases opens with
  | none _ => rfl
  | group outer inner =>
    rw [Nested, List.flatMap_append, List.flatMap_cons] at nested
    exact absurd nested (not_closes_of_opening inner)

/-- Tokens that fit to the end, with nothing open and nothing missing, are spelled by a tree. -/
theorem spelled_of_run (runs : State.start.run? ts = some ⟨[], .connective⟩) :
    ∃ t : Tree .disjunction, t.kinds = ts.map Token.kind := by
  let free (raw : RawClause) : Except Empty (Formula RawClause) := .ok (.leaf raw)
  have accepted := formula_of_run free runs
  cases made : formula free ts with
  | ok f =>
    obtain ⟨-, -, t, ⟨spelled, -⟩, -⟩ := acceptable_of_formula made
    exact ⟨t, spelled⟩
  | error fault =>
    rw [made] at accepted
    cases asks : askedAll free ts with
    | ok _ =>
      rw [asks] at accepted
      cases accepted
    | error other =>
      obtain ⟨_, _, cause, -⟩ := askedAll_eq_error asks
      exact cause.elim

/-- What is reported of nested tokens that no tree spells, unless a clause in front is refused: the first
token that is out of place, or a parenthesis where one is misreported. -/
theorem report_of_nested (nested : Nested ts)
    (unspelled : ∀ t : Tree .disjunction, t.kinds ≠ ts.map Token.kind) :
    ∃ before rest turn fault, FirstMisplaced ts before rest turn ∧
      (formula read ts).map (fun _ => ()) = (askedAll read before).bind (fun _ => .error fault) ∧
      ((∃ offset, Misreported ts offset ∧ fault = .unbalanced offset) ∨
        (∀ offset, ¬ Misreported ts offset) ∧ fault = .unexpected rest.head? turn.expectation) := by
  rcases runs_or_stops .start ts with ⟨s, runs⟩ | ⟨before, t, rest, s, rfl, runs, stops⟩
  · obtain ⟨opens, follows⟩ := read_of_run runs
    obtain ⟨opened, turn⟩ := s
    obtain rfl : opened = [] := opens.eq_nil nested
    cases turn with
    | connective =>
      obtain ⟨t, spelled⟩ := spelled_of_run runs
      exact absurd spelled (unspelled t)
    | operand =>
      have first : FirstMisplaced ts ts [] .operand := ⟨by simp, follows, by simp, fun _ => rfl⟩
      refine ⟨ts, [], .operand, .unexpected none .operand, first, formula_of_run read runs,
        .inr ⟨fun offset misreported => ?_, rfl⟩⟩
      obtain ⟨_, _, _, other, ⟨-, behind, rfl⟩ | ⟨rfl, -⟩⟩ := misreported.first
      · cases (first.unique other).2.1
      · cases (first.unique other).2.2
  · obtain ⟨opens, follows⟩ := read_of_run runs
    have report : (formula read (before ++ t :: rest)).map (fun _ => ()) =
        (askedAll read before).bind fun _ => .error (s.refusal t) := formula_of_stop read runs stops rest
    rcases refusal_cases stops with ⟨place, outer, rfl, misplaced, tells⟩ |
      ⟨free, ⟨closing, tells⟩ | ⟨noClosing, misplaced, tells⟩⟩
    · have first : FirstMisplaced (before ++ t :: rest) before (t :: rest) .connective :=
        ⟨rfl, follows, by rintro _ ⟨⟩; exact misplaced, by simp⟩
      refine ⟨_, _, _, _, first, report, .inl ⟨place, ?_, tells⟩⟩
      cases opens with
      | group _ inner => exact .other rfl inner follows misplaced
    · obtain ⟨kind, offset⟩ := t
      cases closing
      obtain ⟨opened, turn⟩ := s
      cases opens with
      | none inner =>
        rw [Nested, List.flatMap_append, List.flatMap_cons] at nested
        exact absurd nested (not_closes_of_closing inner)
      | group outer inner =>
        obtain rfl : turn = .operand := free.resolve_right (by simp)
        refine ⟨_, _, .operand, _, ⟨rfl, follows, ?_, by simp⟩, report,
          .inl ⟨offset, .closing rfl inner follows, tells⟩⟩
        rintro _ ⟨⟩
        rfl
    · have first : FirstMisplaced (before ++ t :: rest) before (t :: rest) s.turn :=
        ⟨rfl, follows, by rintro _ ⟨⟩; exact misplaced, by simp⟩
      refine ⟨_, _, _, _, first, report, .inr ⟨fun offset misreported => ?_, tells⟩⟩
      obtain ⟨_, _, _, other, ⟨-, behind, rfl⟩ | ⟨same, unnested⟩⟩ := misreported.first
      · cases (first.unique other).2.1
        exact noClosing rfl
      · obtain ⟨rfl, -, rfl⟩ := first.unique other
        rcases free with operand | outside
        · cases operand.symm.trans same
        · rw [outside] at opens
          cases opens with
          | none inner => exact unnested inner

/-- A fault of the tokens is what parsing the expression reports. -/
theorem parse_of_fault (cut : tokenize expression = .ok ts) (given : ts ≠ []) {fault : Fault ParseError}
    (failed : formula (Pointcut.readClause ctx [] (.ofParameters ctx.parameters) expression) ts =
      .error fault) : Pointcut.parse ctx expression = .error (fault.toError expression) := by
  have expanded : Pointcut.expand ctx [] (.ofParameters ctx.parameters) expression =
      .error (fault.toError expression) := by
    rw [Pointcut.expand_eq, cut]
    cases ts with
    | nil => exact absurd rfl given
    | cons first rest =>
      dsimp only
      rw [failed]
  rw [Pointcut.parse, expanded]

/-- Parsing an expression reports a clause in front of the first token that is out of place, or else the
fault there. -/
theorem parse_of_report (cut : tokenize expression = .ok ts) (given : ts ≠ []) {fault : Fault ParseError}
    (report : (formula (Pointcut.readClause ctx [] (.ofParameters ctx.parameters) expression) ts).map
        (fun _ => ()) =
      (askedAll (Pointcut.readClause ctx [] (.ofParameters ctx.parameters) expression) before).bind
        fun _ => .error fault) :
    (∃ raw offset e, ⟨.clause raw, offset⟩ ∈ before ∧
        Pointcut.readClause ctx [] (.ofParameters ctx.parameters) expression raw = .error e ∧
        Pointcut.parse ctx expression = .error e) ∨
      Pointcut.parse ctx expression = .error (fault.toError expression) := by
  cases asks :
    askedAll (Pointcut.readClause ctx [] (.ofParameters ctx.parameters) expression) before with
  | error other =>
    rw [asks] at report
    obtain ⟨raw, offset, cause, member, refused, rfl⟩ := askedAll_eq_error asks
    exact .inl ⟨raw, offset, cause, member, refused, parse_of_fault cut given (map_eq_error.mp report)⟩
  | ok _ =>
    rw [asks] at report
    exact .inr (parse_of_fault cut given (map_eq_error.mp report))

/-- An error about parentheses names one that has no partner in the text that it shows, which is then not
balanced, or one that is misreported. If all parentheses of an expression have partners, but no tree
spells its tokens, the error is that of a clause in front of the first token that is out of place, or it
is about parentheses exactly if that token is misreported, and else about the token. -/
theorem parenthesis_errors (ctx : PointcutContext) (expression : String) :
    (∀ shown offset, Pointcut.parse ctx expression = .error (.unbalancedParentheses shown offset) →
      (Unpaired shown.toList offset ∧ ¬ Closes 0 shown.toList) ∨
        ∃ ts, tokenize shown = .ok ts ∧ Misreported ts offset) ∧
    ∀ ts, tokenize expression = .ok ts → ts ≠ [] → Closes 0 expression.toList →
      (∀ t : Tree .disjunction, t.kinds ≠ ts.map Token.kind) →
      ∃ before rest turn, FirstMisplaced ts before rest turn ∧
        ((∃ raw offset e, ⟨.clause raw, offset⟩ ∈ before ∧
            Pointcut.readClause ctx [] (.ofParameters ctx.parameters) expression raw = .error e ∧
            Pointcut.parse ctx expression = .error e) ∨
          (∃ offset, Misreported ts offset ∧
            Pointcut.parse ctx expression = .error (.unbalancedParentheses expression offset)) ∨
          (∀ offset, ¬ Misreported ts offset) ∧ Pointcut.parse ctx expression =
            .error ((Fault.unexpected rest.head? turn.expectation).toError expression)) := by
  constructor
  · intro shown offset failed
    have expanded : Pointcut.expand ctx [] (.ofParameters ctx.parameters) expression =
        .error (.unbalancedParentheses shown offset) := by
      unfold Pointcut.parse at failed
      split at failed
      · rename_i e refused
        cases failed
        exact refused
      · split at failed
        · rename_i fault _
          cases fault <;> cases failed
        · cases failed
    rcases explained_of_expand expanded with unpaired | misreported
    · exact .inl ⟨unpaired, fun balanced => not_unpaired_of_balanced balanced unpaired⟩
    · exact .inr misreported
  · intro ts cut given balanced unspelled
    have nested := (balanced_iff_nested (tokenize_eq_ok.mp cut)).mp balanced
    obtain ⟨before, rest, turn, fault, first, report, reason⟩ := report_of_nested nested unspelled
    refine ⟨before, rest, turn, first, ?_⟩
    rcases parse_of_report cut given report with refused | failed
    · exact .inl refused
    · rcases reason with ⟨offset, misreported, rfl⟩ | ⟨reported, rfl⟩
      · exact .inr (.inl ⟨offset, misreported, failed⟩)
      · exact .inr (.inr ⟨reported, failed⟩)

/-! ### Reports on some expressions -/

/-- The error of an expression that refers to no named pointcuts. -/
def refusal? (expression : String) : Option ParseError :=
  match Pointcut.parse {} expression with
  | .error e => some e
  | .ok _ => none

theorem parse_of_refusal? {e : ParseError} (seen : refusal? expression = some e) :
    Pointcut.parse {} expression = .error e := by
  unfold refusal? at seen
  split at seen
  · rename_i refused
    cases seen
    exact refused
  · cases seen

/-- A text that is a body of balanced parentheses. -/
theorem balanced_of_untilClosed (closed : untilClosed 0 (cs ++ [')']) = some (cs, [])) : Closes 0 cs :=
  (untilClosed_eq_some.mp closed).2

/-- Without a group nothing is misreported. -/
theorem not_misreported_of_flat (flat : ∀ t ∈ ts, t.kind ≠ .opening) : ¬ Misreported ts offset := by
  rintro (@⟨front, inside, rest, opening, rfl, -, -⟩ | @⟨front, inside, rest, t, rfl, -, -, -⟩)
  · exact flat ⟨.opening, opening⟩ (by simp) rfl
  · exact flat ⟨.opening, offset⟩ (by simp) rfl

/-- No tree spells tokens that do not fit when they are read one after the other. -/
theorem unspelled_of_scan {fault : Fault Empty}
    (refused : scan (fun raw => .ok (Formula.leaf raw)) .start ts = .error fault)
    (t : Tree .disjunction) : t.kinds ≠ ts.map Token.kind := by
  intro spelled
  have known : Acceptable (fun raw => (.ok (.leaf raw) : Except Empty (Formula RawClause))) .leaf ts :=
    fun _ _ _ => rfl
  have made := (formula_eq_ok_iff_tree known).mpr ⟨t, spelled, rfl⟩
  rw [← formula_scan, made] at refused
  cases refused

/-- A clause in parentheses, and another one behind it. -/
def twoClauses : List Token :=
  [⟨.opening, 0⟩, ⟨.clause ⟨"within", .designator .within, "a"⟩, 1⟩, ⟨.closing, 10⟩,
    ⟨.clause ⟨"within", .designator .within, "b"⟩, 12⟩]

/-- The second closing parenthesis closes nothing, and is reported. Where the parentheses are balanced,
a second clause without a connective is reported itself. -/
theorem surplus_parenthesis_and_second_clause :
    (Pointcut.parse {} "within(a))" = .error (.unbalancedParentheses "within(a))" 9) ∧
      Unpaired "within(a))".toList 9) ∧
    Pointcut.parse {} "(within(a)) within(b)" =
        .error (.unexpectedToken "(within(a)) within(b)" 12 "within(b)" .connective) ∧
      ∃ before rest turn, FirstMisplaced twoClauses before rest turn ∧
        ∀ offset, ¬ Misreported twoClauses offset := by
  refine ⟨?surplus, ?second⟩
  case surplus =>
    have failed : Pointcut.parse {} "within(a))" = .error (.unbalancedParentheses "within(a))" 9) :=
      parse_of_refusal? (by decide +kernel)
    refine ⟨failed, ?_⟩
    rcases (parenthesis_errors {} "within(a))").1 _ _ failed with ⟨unpaired, -⟩ | ⟨ts, cut, misreported⟩
    · exact unpaired
    · have tokens : tokenize "within(a))" =
          .ok [⟨.clause ⟨"within", .designator .within, "a"⟩, 0⟩, ⟨.closing, 9⟩] := by decide +kernel
      cases tokens.symm.trans cut
      exact absurd misreported (not_misreported_of_flat (by simp))
  case second =>
    have failed : Pointcut.parse {} "(within(a)) within(b)" =
        .error (.unexpectedToken "(within(a)) within(b)" 12 "within(b)" .connective) :=
      parse_of_refusal? (by decide +kernel)
    have cut : tokenize "(within(a)) within(b)" = .ok twoClauses := by decide +kernel
    have balanced : Closes 0 "(within(a)) within(b)".toList :=
      balanced_of_untilClosed (by decide +kernel)
    have refused : scan (fun raw => (.ok (.leaf raw) : Except Empty (Formula RawClause))) .start
        twoClauses = .error (.unexpected
          (some ⟨.clause ⟨"within", .designator .within, "b"⟩, 12⟩) .connective) := rfl
    have readable : ∀ raw offset, ⟨.clause raw, offset⟩ ∈ twoClauses →
        (Pointcut.readClause {} [] [] "(within(a)) within(b)" raw).toOption.isSome = true := by
      intro raw offset member
      simp only [twoClauses, List.mem_cons, Token.mk.injEq, TokenKind.clause.injEq, reduceCtorEq,
        false_and, List.not_mem_nil, or_false, false_or] at member
      rcases member with ⟨rfl, -⟩ | ⟨rfl, -⟩ <;> decide +kernel
    refine ⟨failed, ?_⟩
    have reports := (parenthesis_errors {} "(within(a)) within(b)").2 twoClauses cut
      (by simp [twoClauses]) balanced (unspelled_of_scan refused)
    obtain ⟨before, rest, turn, first, outcome⟩ := reports
    rcases outcome with ⟨raw, offset, e, member, unread, -⟩ | ⟨_, -, other⟩ | ⟨reported, -⟩
    · have listed : ⟨.clause raw, offset⟩ ∈ twoClauses := by
        rw [first.whole]
        exact List.mem_append_left rest member
      have read := readable raw offset listed
      rw [show Pointcut.readClause {} [] [] "(within(a)) within(b)" raw = .error e from unread] at read
      cases read
    · cases failed.symm.trans other
    · exact ⟨before, rest, turn, first, reported⟩

/-- The parentheses of both expressions have partners. In the first one an operand is missing, and in
the second one a connective, but the errors are about parentheses. -/
theorem paired_parentheses_are_reported :
    (Closes 0 "(within(a) && )".toList ∧ (∀ offset, ¬ Unpaired "(within(a) && )".toList offset) ∧
      Pointcut.parse {} "(within(a) && )" =
        .error (.unbalancedParentheses "(within(a) && )" 14)) ∧
    Closes 0 "(within(a) within(b))".toList ∧
      (∀ offset, ¬ Unpaired "(within(a) within(b))".toList offset) ∧
      Pointcut.parse {} "(within(a) within(b))" =
        .error (.unbalancedParentheses "(within(a) within(b))" 0) := by
  have first : Closes 0 "(within(a) && )".toList := balanced_of_untilClosed (by decide +kernel)
  have second : Closes 0 "(within(a) within(b))".toList := balanced_of_untilClosed (by decide +kernel)
  exact ⟨⟨first, balanced_iff.mp first, parse_of_refusal? (by decide +kernel)⟩,
    second, balanced_iff.mp second, parse_of_refusal? (by decide +kernel)⟩

end Crosscut.ParenthesisErrors
