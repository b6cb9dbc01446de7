import Crosscut.Proofs.Derivations
import Mathlib.Logic.ExistsUnique

/-! The documented grammar as trees. A disjunction is a conjunction and any number of further ones,
each behind `||`; a conjunction is an operand and any number of further ones, each behind `&&`; an
operand is a negated operand, a disjunction in parentheses, or a clause. A tree spells its tokens and
stands for a formula, in which both connectives take all that stands before them as their left side
and parentheses leave nothing. No two trees spell the same tokens, and a token list is read exactly
when a tree spells it. -/
namespace Crosscut.SyntaxTrees
open Grammar Derivations

/-- The parts of the grammar, with the repetitions as parts of their own. -/
inductive Part where
  | operand | conjuncts | conjunction | disjuncts | disjunction

/-- The derivations of the grammar. -/
inductive Tree : Part → Type where
  | clause (raw : RawClause) : Tree .operand
  | not (inner : Tree .operand) : Tree .operand
  | parentheses (inner : Tree .disjunction) : Tree .operand
  | noConjunct : Tree .conjuncts
  | conjunct (next : Tree .operand) (more : Tree .conjuncts) : Tree .conjuncts
  | conjunction (first : Tree .operand) (more : Tree .conjuncts) : Tree .conjunction
  | noDisjunct : Tree .disjuncts
  | disjunct (next : Tree .conjunction) (more : Tree .disjuncts) : Tree .disjuncts
  | disjunction (first : Tree .conjunction) (more : Tree .disjuncts) : Tree .disjunction

/-- What a part stands for: a formula, or what a repetition makes of the formula before it. -/
abbrev Part.Meaning (α : Type) : Part → Type
  | .conjuncts | .disjuncts => Formula α → Formula α
  | .operand | .conjunction | .disjunction => Formula α

variable {ε α : Type} {read : RawClause → Except ε (Formula α)}

namespace Tree

/-- The tokens that a tree spells. -/
def kinds : {part : Part} → Tree part → List TokenKind
  | _, .clause raw => [.clause raw]
  | _, .not inner => .not :: inner.kinds
  | _, .parentheses inner => .opening :: inner.kinds ++ [.closing]
  | _, .noConjunct | _, .noDisjunct => []
  | _, .conjunct next more => .and :: next.kinds ++ more.kinds
  | _, .disjunct next more => .or :: next.kinds ++ more.kinds
  | _, .conjunction first more | _, .disjunction first more => first.kinds ++ more.kinds

/-- What a tree stands for, given what the clauses stand for. -/
def meaning (stands : RawClause → Formula α) : {part : Part} → Tree part → part.Meaning α
  | _, .clause raw => stands raw
  | _, .not inner => .not (inner.meaning stands)
  | _, .parentheses inner => inner.meaning stands
  | _, .noConjunct | _, .noDisjunct => fun left => left
  | _, .conjunct next more => fun left => more.meaning stands (.and left (next.meaning stands))
  | _, .disjunct next more => fun left => more.meaning stands (.or left (next.meaning stands))
  | _, .conjunction first more | _, .disjunction first more =>
    more.meaning stands (first.meaning stands)

end Tree

/-! ### Unambiguity -/

/-- The tokens behind a part do not continue it. -/
def Ends (rest : List TokenKind) : Part → Prop
  | .operand => True
  | .conjuncts | .conjunction => rest.head? ≠ some .and
  | .disjuncts | .disjunction => rest.head? ≠ some .and ∧ rest.head? ≠ some .or

/-- A repetition does not start with the connective of the tighter one. -/
theorem head?_disjuncts (more : Tree .disjuncts) {rest : List TokenKind}
    (ends : Ends rest .disjuncts) : (more.kinds ++ rest).head? ≠ some .and := by
  cases more with
  | noDisjunct => exact ends.1
  | disjunct next more => simp [Tree.kinds]

/-- Where two trees of one part spell the start of the same tokens and neither can be continued, they
are the same tree. The induction is on the first tree; the first token decides which rule the second
one has used. -/
theorem tree_of_start {part : Part} (s t : Tree part) {rest tail : List TokenKind}
    (endsFirst : Ends rest part) (endsSecond : Ends tail part)
    (same : s.kinds ++ rest = t.kinds ++ tail) : s = t ∧ rest = tail := by
  induction s generalizing rest tail with
  | clause raw =>
    cases t with
    | clause other =>
      simp only [Tree.kinds, List.singleton_append, List.cons.injEq, TokenKind.clause.injEq] at same
      exact ⟨congrArg Tree.clause same.1, same.2⟩
    | not _ | parentheses _ => simp [Tree.kinds] at same
  | not inner ih =>
    cases t with
    | not other =>
      simp only [Tree.kinds, List.cons_append, List.cons.injEq, true_and] at same
      obtain ⟨rfl, left⟩ := ih other trivial trivial same
      exact ⟨rfl, left⟩
    | clause _ | parentheses _ => simp [Tree.kinds] at same
  | parentheses inner ih =>
    cases t with
    | parentheses other =>
      simp only [Tree.kinds, List.cons_append, List.append_assoc, List.cons.injEq, true_and] at same
      obtain ⟨rfl, left⟩ := ih other (by simp [Ends]) (by simp [Ends]) same
      exact ⟨rfl, by simpa using left⟩
    | clause _ | not _ => simp [Tree.kinds] at same
  | noConjunct =>
    cases t with
    | noConjunct => exact ⟨rfl, same⟩
    | conjunct next more =>
      rw [show rest = _ from same] at endsFirst
      simp [Ends, Tree.kinds] at endsFirst
  | conjunct next more ihNext ihMore =>
    cases t with
    | noConjunct =>
      rw [show tail = _ from same.symm] at endsSecond
      simp [Ends, Tree.kinds] at endsSecond
    | conjunct other others =>
      simp only [Tree.kinds, List.cons_append, List.append_assoc, List.cons.injEq, true_and] at same
      obtain ⟨rfl, behind⟩ := ihNext other trivial trivial same
      obtain ⟨rfl, left⟩ := ihMore others endsFirst endsSecond behind
      exact ⟨rfl, left⟩
  | conjunction first more ihFirst ihMore =>
    cases t with
    | conjunction other others =>
      simp only [Tree.kinds, List.append_assoc] at same
      obtain ⟨rfl, behind⟩ := ihFirst other trivial trivial same
      obtain ⟨rfl, left⟩ := ihMore others endsFirst endsSecond behind
      exact ⟨rfl, left⟩
  | noDisjunct =>
    cases t with
    | noDisjunct => exact ⟨rfl, same⟩
    | disjunct next more =>
      rw [show rest = _ from same] at endsFirst
      simp [Ends, Tree.kinds] at endsFirst
  | disjunct next more ihNext ihMore =>
    cases t with
    | noDisjunct =>
      rw [show tail = _ from same.symm] at endsSecond
      simp [Ends, Tree.kinds] at endsSecond
    | disjunct other others =>
      simp only [Tree.kinds, List.cons_append, List.append_assoc, List.cons.injEq, true_and] at same
      obtain ⟨rfl, behind⟩ :=
        ihNext other (head?_disjuncts more endsFirst) (head?_disjuncts others endsSecond) same
      obtain ⟨rfl, left⟩ := ihMore others endsFirst endsSecond behind
      exact ⟨rfl, left⟩
  | disjunction first more ihFirst ihMore =>
    cases t with
    | disjunction other others =>
      simp only [Tree.kinds, List.append_assoc] at same
      obtain ⟨rfl, behind⟩ :=
        ihFirst other (head?_disjuncts more endsFirst) (head?_disjuncts others endsSecond) same
      obtain ⟨rfl, left⟩ := ihMore others endsFirst endsSecond behind
      exact ⟨rfl, left⟩

/-- The grammar is unambiguous. -/
theorem tree_of_kinds {s t : Tree .disjunction} (same : s.kinds = t.kinds) : s = t := by
  have alone : s.kinds ++ [] = t.kinds ++ [] := by rw [same]
  exact (tree_of_start s t (by simp [Ends]) (by simp [Ends]) alone).1

/-! ### Trees and derivations -/

variable {stands : RawClause → Formula α}

/-- What a tree derives; a repetition derives a whole with what stands before it. -/
def Derived (read : RawClause → Except ε (Formula α)) (stands : RawClause → Formula α) :
    {part : Part} → Tree part → Prop
  | .operand, t => Derives read .operand t.kinds (t.meaning stands)
  | .conjunction, t => Derives read .conjunction t.kinds (t.meaning stands)
  | .disjunction, t => Derives read .disjunction t.kinds (t.meaning stands)
  | .conjuncts, t => ∀ before left, Derives read .conjunction before left →
      Derives read .conjunction (before ++ t.kinds) (t.meaning stands left)
  | .disjuncts, t => ∀ before left, Derives read .disjunction before left →
      Derives read .disjunction (before ++ t.kinds) (t.meaning stands left)

/-- The tokens of a tree derive what it stands for. -/
theorem derived_of_tree {part : Part} (t : Tree part)
    (known : ∀ raw, .clause raw ∈ t.kinds → read raw = .ok (stands raw)) : Derived read stands t := by
  induction t with
  | clause raw => exact .clause (known raw (by simp [Tree.kinds]))
  | not inner ih => exact .not (ih fun raw member => known raw (by simp [Tree.kinds, member]))
  | parentheses inner ih =>
    exact .parentheses (ih fun raw member => known raw (by simp [Tree.kinds, member]))
  | noConjunct | noDisjunct =>
    intro before left derived
    simpa [Tree.kinds, Tree.meaning] using derived
  | conjunct next more ihNext ihMore =>
    intro before left derived
    have right := ihNext fun raw member => known raw (by simp [Tree.kinds, member])
    have whole := ihMore (fun raw member => known raw (by simp [Tree.kinds, member])) _ _
      (.and derived right)
    simpa [Tree.kinds, Tree.meaning] using whole
  | disjunct next more ihNext ihMore =>
    intro before left derived
    have right := ihNext fun raw member => known raw (by simp [Tree.kinds, member])
    have whole := ihMore (fun raw member => known raw (by simp [Tree.kinds, member])) _ _
      (.or derived right)
    simpa [Tree.kinds, Tree.meaning] using whole
  | conjunction first more ihFirst ihMore =>
    exact ihMore (fun raw member => known raw (by simp [Tree.kinds, member])) _ _
      (.operand (ihFirst fun raw member => known raw (by simp [Tree.kinds, member])))
  | disjunction first more ihFirst ihMore =>
    exact ihMore (fun raw member => known raw (by simp [Tree.kinds, member])) _ _
      (.conjunction (ihFirst fun raw member => known raw (by simp [Tree.kinds, member])))

namespace Tree

/-- A repetition with one more operand at its end. -/
def conjunctsBefore (last : Tree .operand) : Tree .conjuncts → Tree .conjuncts
  | .noConjunct => .conjunct last .noConjunct
  | .conjunct next more => .conjunct next (conjunctsBefore last more)

/-- A repetition with one more conjunction at its end. -/
def disjunctsBefore (last : Tree .conjunction) : Tree .disjuncts → Tree .disjuncts
  | .noDisjunct => .disjunct last .noDisjunct
  | .disjunct next more => .disjunct next (disjunctsBefore last more)

theorem kinds_conjunctsBefore (last : Tree .operand) : (more : Tree .conjuncts) →
    (conjunctsBefore last more).kinds = more.kinds ++ .and :: last.kinds
  | .noConjunct => by simp [conjunctsBefore, kinds]
  | .conjunct next more => by simp [conjunctsBefore, kinds, kinds_conjunctsBefore last more]

theorem meaning_conjunctsBefore (last : Tree .operand) (stands : RawClause → Formula α) :
    (more : Tree .conjuncts) → (left : Formula α) →
    (conjunctsBefore last more).meaning stands left =
      .and (more.meaning stands left) (last.meaning stands)
  | .noConjunct, left => by simp only [conjunctsBefore, meaning]
  | .conjunct next more, left => by
    simp only [conjunctsBefore, meaning, meaning_conjunctsBefore last stands more]

theorem kinds_disjunctsBefore (last : Tree .conjunction) : (more : Tree .disjuncts) →
    (disjunctsBefore last more).kinds = more.kinds ++ .or :: last.kinds
  | .noDisjunct => by simp [disjunctsBefore, kinds]
  | .disjunct next more => by simp [disjunctsBefore, kinds, kinds_disjunctsBefore last more]

theorem meaning_disjunctsBefore (last : Tree .conjunction) (stands : RawClause → Formula α) :
    (more : Tree .disjuncts) → (left : Formula α) →
    (disjunctsBefore last more).meaning stands left =
      .or (more.meaning stands left) (last.meaning stands)
  | .noDisjunct, left => by simp only [disjunctsBefore, meaning]
  | .disjunct next more, left => by
    simp only [disjunctsBefore, meaning, meaning_disjunctsBefore last stands more]

end Tree

/-- Some tree spells the tokens and stands for the formula. -/
def Spelled (stands : RawClause → Formula α) (ks : List TokenKind) (f : Formula α) : Level → Prop
  | .operand => ∃ t : Tree .operand, t.kinds = ks ∧ t.meaning stands = f
  | .conjunction => ∃ t : Tree .conjunction, t.kinds = ks ∧ t.meaning stands = f
  | .disjunction => ∃ t : Tree .disjunction, t.kinds = ks ∧ t.meaning stands = f

/-- What is derived has a tree. -/
theorem spelled_of_derives {level : Level} {ks : List TokenKind} {f : Formula α}
    (derived : Derives read level ks f)
    (known : ∀ raw, .clause raw ∈ ks → read raw = .ok (stands raw)) : Spelled stands ks f level := by
  induction derived with
  | @clause raw f made =>
    have same := (known raw (List.mem_singleton_self _)).symm.trans made
    exact ⟨.clause raw, by simp only [Tree.kinds],
      by simpa only [Tree.meaning] using Except.ok.inj same⟩
  | not _ ih =>
    obtain ⟨inner, rfl, rfl⟩ := ih fun raw member => known raw (by simp [member])
    exact ⟨.not inner, by simp only [Tree.kinds], by simp only [Tree.meaning]⟩
  | parentheses _ ih =>
    obtain ⟨inner, rfl, rfl⟩ := ih fun raw member => known raw (by simp [member])
    exact ⟨.parentheses inner, by simp only [Tree.kinds], by simp only [Tree.meaning]⟩
  | operand _ ih =>
    obtain ⟨single, rfl, rfl⟩ := ih known
    exact ⟨.conjunction single .noConjunct, by simp [Tree.kinds], by simp only [Tree.meaning]⟩
  | and _ _ ihLeft ihRight =>
    obtain ⟨t, rfl, rfl⟩ := ihLeft fun raw member => known raw (by simp [member])
    obtain ⟨last, rfl, rfl⟩ := ihRight fun raw member => known raw (by simp [member])
    cases t with
    | conjunction first more =>
      refine ⟨.conjunction first (Tree.conjunctsBefore last more), ?_, ?_⟩
      · simp [Tree.kinds, Tree.kinds_conjunctsBefore]
      · simp only [Tree.meaning, Tree.meaning_conjunctsBefore]
  | conjunction _ ih =>
    obtain ⟨single, rfl, rfl⟩ := ih known
    exact ⟨.disjunction single .noDisjunct, by simp [Tree.kinds], by simp only [Tree.meaning]⟩
  | or _ _ ihLeft ihRight =>
    obtain ⟨t, rfl, rfl⟩ := ihLeft fun raw member => known raw (by simp [member])
    obtain ⟨last, rfl, rfl⟩ := ihRight fun raw member => known raw (by simp [member])
    cases t with
    | disjunction first more =>
      refine ⟨.disjunction first (Tree.disjunctsBefore last more), ?_, ?_⟩
      · simp [Tree.kinds, Tree.kinds_disjunctsBefore]
      · simp only [Tree.meaning, Tree.meaning_disjunctsBefore]

/-- Each clause among the tokens can be read by itself, and stands for what is read. -/
def Acceptable (read : RawClause → Except ε (Formula α)) (stands : RawClause → Formula α)
    (ts : List Token) : Prop :=
  ∀ raw offset, ⟨.clause raw, offset⟩ ∈ ts → read raw = .ok (stands raw)

/-- A token list whose clauses can be read is read as what its tree stands for. -/
theorem formula_eq_ok_iff_tree {ts : List Token} {f : Formula α} (known : Acceptable read stands ts) :
    formula read ts = .ok f ↔
      ∃ t : Tree .disjunction, t.kinds = ts.map Token.kind ∧ t.meaning stands = f := by
  have listed : ∀ raw, .clause raw ∈ ts.map Token.kind → read raw = .ok (stands raw) := by
    intro raw member
    obtain ⟨⟨kind, offset⟩, inside, rfl⟩ := List.mem_map.mp member
    exact known raw offset inside
  rw [formula_eq_ok]
  constructor
  · intro derived
    exact spelled_of_derives derived listed
  · rintro ⟨t, spelled, rfl⟩
    rw [← spelled] at listed ⊢
    exact derived_of_tree t listed

/-- The clauses of a token list that is read can be read, and there is one tree for it. -/
theorem acceptable_of_formula {ts : List Token} {f : Formula α} (made : formula read ts = .ok f) :
    ∃ stands, Acceptable read stands ts ∧
      ∃! t : Tree .disjunction, t.kinds = ts.map Token.kind ∧ t.meaning stands = f := by
  classical
  let stands (raw : RawClause) : Formula α := if h : ∃ g, read raw = .ok g then h.choose else f
  have known : Acceptable read stands ts := by
    intro raw offset member
    have readable := formula_reads_all made member
    simp only [stands, dif_pos readable]
    exact readable.choose_spec
  obtain ⟨t, spelled, means⟩ := (formula_eq_ok_iff_tree known).mp made
  refine ⟨stands, known, t, ⟨spelled, means⟩, ?_⟩
  rintro other ⟨spelledToo, -⟩
  exact tree_of_kinds (spelledToo.trans spelled.symm)

end Crosscut.SyntaxTrees
