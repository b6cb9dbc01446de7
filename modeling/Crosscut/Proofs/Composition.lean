import Crosscut.Proofs.BindingRule
import Crosscut.Proofs.ClauseNumbers
import Crosscut.Proofs.Scoping
import Crosscut.Proofs.TokenTexts

/-! Expressions put together from expressions. What an expression stands for depends on its own text
and on the scope, and not on what stands around it: the expression that a clause is read in is only
told in errors, and every expansion starts from the pointcuts that are open at its place. So two
expressions in parentheses with a connective between them stand for the connective over what each
stands for alone. Where no parameters are declared, nothing is bound, and such an expression is always
accepted. -/
namespace Crosscut.Composition
open BindingRule ClauseNumbers Derivations Scoping TokenTexts

variable {ctx : PointcutContext} {active : List String} {scope : Scope} {e₁ e₂ : String}
  {f g : Formula Clause}

/-! What is read in an expression is read in any other one. -/

section
variable {raw : RawClause} {expression : String} (other : String)

theorem toClause_elsewhere {d : Designator} {clause : Clause}
    (made : raw.toClause expression scope d = .ok clause) :
    raw.toClause other scope d = .ok clause := by
  obtain ⟨spec, read, rfl⟩ := RawClause.toClause_eq_ok.mp made
  exact RawClause.toClause_eq_ok.mpr ⟨spec, read, rfl⟩

theorem passedMeaning_elsewhere {text : List Char} {meaning : Meaning}
    (made : raw.passedMeaning expression scope text = .ok meaning) :
    raw.passedMeaning other scope text = .ok meaning := by
  unfold RawClause.passedMeaning at made ⊢
  split at made
  · cases made
  · exact made
  · split at made
    · rename_i readable
      rw [if_pos readable]
      exact made
    · cases made

theorem passAll_elsewhere {passed : List (String × List Char)} {inner : Scope}
    (made : raw.passAll expression scope passed = .ok inner) :
    raw.passAll other scope passed = .ok inner := by
  refine collect_of_agreeing ?_ made
  rintro ⟨name, text⟩ entry found
  obtain ⟨meaning, known, rfl⟩ := map_eq_ok.mp found
  exact map_eq_ok.mpr ⟨meaning, passedMeaning_elsewhere other known, rfl⟩

theorem expansion_elsewhere {inner : { e : Expansion // e.key ∈ ctx.keys ∧ e.key ∉ active }}
    (made : raw.expansion ctx active scope expression = .ok inner) :
    raw.expansion ctx active scope other = .ok inner := by
  obtain ⟨p, found, key, named, fits, passed⟩ := RawClause.expansion_eq_ok.mp made
  exact RawClause.expansion_eq_ok.mpr ⟨p, found, key, named, fits, passAll_elsewhere other passed⟩

theorem readClause_elsewhere (made : Pointcut.readClause ctx active scope expression raw = .ok f) :
    Pointcut.readClause ctx active scope other raw = .ok f := by
  rcases Pointcut.readClause_eq_ok.mp made with
    ⟨d, clause, kind, test, rfl⟩ | ⟨inner, tokens, body, kind, entered, expanded, rfl⟩
  · exact Pointcut.readClause_eq_ok.mpr (.inl ⟨d, clause, kind, toClause_elsewhere other test, rfl⟩)
  · exact Pointcut.readClause_eq_ok.mpr
      (.inr ⟨inner, tokens, body, kind, expansion_elsewhere other entered, expanded, rfl⟩)

end

/-- An expression in parentheses is an operand, in whatever expression it stands and whatever follows
it there. -/
theorem operand_of_expand {expression : String} {tokens : List Token}
    (expanded : Pointcut.expand ctx active scope expression = .ok (tokens, f)) (whole : String) :
    ∃ ks, Derives (Pointcut.readClause ctx active scope whole) .operand ks f ∧
      ∀ ds ls, Spells ds ls → Spells ('(' :: expression.toList ++ ')' :: ds) (ks ++ ls) := by
  obtain ⟨cut, -, read⟩ := Pointcut.expand_eq_ok.mp expanded
  have derived := derives_of_agreeing (fun _ _ => readClause_elsewhere whole) (formula_eq_ok.mp read)
  refine ⟨_, .parentheses derived, fun ds ls behind => ?_⟩
  have spelled := spells_opening (spells_append (tokenize_eq_ok.mp cut) (spells_closing behind))
  simpa using spelled

/-- A text is expanded to what its tokens derive. -/
theorem expand_of_derives {whole : String} {ks : List TokenKind} (spelled : Spells whole.toList ks)
    (derived : Derives (Pointcut.readClause ctx active scope whole) .disjunction ks f) :
    ∃ tokens, Pointcut.expand ctx active scope whole = .ok (tokens, f) := by
  obtain ⟨tokens, cut, rfl⟩ := spelled 0
  have filled : tokens ≠ [] := by
    rintro rfl
    exact ne_nil_of_derives derived rfl
  exact ⟨tokens, Pointcut.expand_eq_ok.mpr
    ⟨tokenize_eq_ok.mpr cut, filled, formula_eq_ok.mpr derived⟩⟩

variable {ts us : List Token}

theorem expand_and (first : Pointcut.expand ctx active scope e₁ = .ok (ts, f))
    (second : Pointcut.expand ctx active scope e₂ = .ok (us, g)) :
    ∃ tokens, Pointcut.expand ctx active scope ("(" ++ e₁ ++ ") && (" ++ e₂ ++ ")") =
      .ok (tokens, f.and g) := by
  obtain ⟨ks, left, before⟩ := operand_of_expand first ("(" ++ e₁ ++ ") && (" ++ e₂ ++ ")")
  obtain ⟨ls, right, behind⟩ := operand_of_expand second ("(" ++ e₁ ++ ") && (" ++ e₂ ++ ")")
  have spelled := before _ _ (spells_blank (c := ' ') (by decide)
    (spells_and (spells_blank (c := ' ') (by decide) (behind [] [] spells_nil))))
  refine expand_of_derives ?_ (.conjunction (.and (.operand left) right))
  simpa [String.toList_append] using spelled

theorem expand_or (first : Pointcut.expand ctx active scope e₁ = .ok (ts, f))
    (second : Pointcut.expand ctx active scope e₂ = .ok (us, g)) :
    ∃ tokens, Pointcut.expand ctx active scope ("(" ++ e₁ ++ ") || (" ++ e₂ ++ ")") =
      .ok (tokens, f.or g) := by
  obtain ⟨ks, left, before⟩ := operand_of_expand first ("(" ++ e₁ ++ ") || (" ++ e₂ ++ ")")
  obtain ⟨ls, right, behind⟩ := operand_of_expand second ("(" ++ e₁ ++ ") || (" ++ e₂ ++ ")")
  have spelled := before _ _ (spells_blank (c := ' ') (by decide)
    (spells_or (spells_blank (c := ' ') (by decide) (behind [] [] spells_nil))))
  refine expand_of_derives ?_ (.or (.conjunction (.operand left)) (.operand right))
  simpa [String.toList_append] using spelled

theorem expand_not (first : Pointcut.expand ctx active scope e₁ = .ok (ts, f)) :
    ∃ tokens, Pointcut.expand ctx active scope ("!(" ++ e₁ ++ ")") = .ok (tokens, f.not) := by
  obtain ⟨ks, inner, spelled⟩ := operand_of_expand first ("!(" ++ e₁ ++ ")")
  refine expand_of_derives ?_ (.conjunction (.operand (.not inner)))
  simpa [String.toList_append] using spells_not (spelled [] [] spells_nil)

/-- Where no parameters are declared, everything that can be expanded is accepted. -/
theorem parse_of_expand {expression : String} {tokens : List Token} (undeclared : ctx.parameters = [])
    (expanded : Pointcut.expand ctx [] (.ofParameters ctx.parameters) expression =
      .ok (tokens, f)) : Pointcut.parse ctx expression = .ok ⟨expression, tokens, f⟩ := by
  have respects := allRespect_of_expand (within_ofParameters ctx.parameters) expanded
  have nothing : boundNames f = [] := by
    refine boundNames_eq_nil.mpr fun clause member => List.eq_nil_iff_forall_not_mem.mpr ?_
    intro name bound
    obtain ⟨typeName, binds⟩ := mem_boundNames.mp bound
    obtain ⟨b, declared, -⟩ := respects clause member name typeName binds
    rw [undeclared] at declared
    cases declared
  have obeyed : Obeyed f ctx.parameters :=
    ⟨decided_of_boundNames nothing, by simp [nothing], by simp [undeclared]⟩
  exact Pointcut.parse_eq_ok.mpr ⟨tokens, f, expanded, checkBindings_eq_ok.mpr obeyed, rfl⟩

variable {matcher : Matcher}

theorem matcher_of_expand {expression : String} {tokens : List Token}
    (undeclared : ctx.parameters = [])
    (expanded : Pointcut.expand ctx [] (.ofParameters ctx.parameters) expression =
      .ok (tokens, f)) :
    Matcher.parse ctx expression = .ok ⟨⟨expression, tokens, f⟩, [], .empty⟩ := by
  rw [Matcher.parse, parse_of_expand undeclared expanded, undeclared]
  rfl

theorem expand_of_matcher {expression : String} (accepted : Matcher.parse ctx expression = .ok matcher) :
    ∃ tokens, Pointcut.expand ctx [] (.ofParameters ctx.parameters) expression =
      .ok (tokens, matcher.pointcut.root) := by
  obtain ⟨parsed, -, -⟩ := Matcher.parts_of_parse accepted
  obtain ⟨tokens, root, expanded, -, same⟩ := Pointcut.parse_eq_ok.mp parsed
  exact ⟨tokens, same ▸ expanded⟩

/-- Without declared parameters, the result of a match is its truth. -/
theorem matchOn_of_undeclared (undeclared : matcher.parameters = []) (t : HostType) (m : Method) :
    matcher.matchOn t m = ⟨(matcher.pointcut.root.match? (.on t m)).isSome, m.key, []⟩ := by
  unfold Matcher.matchOn Matcher.evaluate Pointcut.match?
  cases matcher.pointcut.root.match? (.on t m) with
  | none => rfl
  | some found =>
    simp only [undeclared, Sources.select, List.filterMap_nil]
    rfl

theorem isSome_match?_not (c : Candidate) :
    (f.not.match? c).isSome = !(f.match? c).isSome := by
  rw [Formula.match?]
  cases (f.match? c).isSome <;> rfl

theorem isSome_match?_and (c : Candidate) :
    ((f.and g).match? c).isSome = ((f.match? c).isSome && (g.match? c).isSome) := by
  rw [Formula.match?]
  cases f.match? c <;> simp

theorem isSome_match?_or (c : Candidate) :
    ((f.or g).match? c).isSome = ((f.match? c).isSome || (g.match? c).isSome) := by
  rw [Formula.match?]
  cases f.match? c <;> simp

/-- The clauses of a matcher are those that its expression enters, from left to right, into one list that
is empty at first, and its formula refers to them by their places in that list. -/
def ListsClauses (ctx : PointcutContext) (matcher : Matcher) : Prop :=
  ∀ after numbered,
    Enters ctx [] (.ofParameters ctx.parameters) matcher.pointcut.source .disjunction
        (matcher.pointcut.tokens.map Token.kind) [] after numbered ↔
      after = matcher.pointcut.clauses ∧ numbered = matcher.pointcut.root.numbered

theorem listsClauses_of_parse {expression : String}
    (accepted : Matcher.parse ctx expression = .ok matcher) : ListsClauses ctx matcher := by
  obtain ⟨parsed, -, -⟩ := Matcher.parts_of_parse accepted
  have source : matcher.pointcut.source = expression := by
    obtain ⟨tokens, root, -, -, same⟩ := Pointcut.parse_eq_ok.mp parsed
    rw [← same]
  intro after numbered
  rw [source]
  exact enters_iff_of_parse parsed

/-- Where no parameters are declared, two accepted expressions in parentheses can be joined by a
connective, and one can be negated. The clauses of the whole are those of the parts, one after the
other, and the whole matches a method on a type exactly when the connective holds of what the parts
answer. -/
theorem composites_are_accepted (undeclared : ctx.parameters = []) {m₁ m₂ : Matcher}
    (first : Matcher.parse ctx e₁ = .ok m₁) (second : Matcher.parse ctx e₂ = .ok m₂) :
    ∃ both either negated,
      Matcher.parse ctx ("(" ++ e₁ ++ ") && (" ++ e₂ ++ ")") = .ok both ∧
      Matcher.parse ctx ("(" ++ e₁ ++ ") || (" ++ e₂ ++ ")") = .ok either ∧
      Matcher.parse ctx ("!(" ++ e₁ ++ ")") = .ok negated ∧
      both.pointcut.clauses = m₁.pointcut.clauses ++ m₂.pointcut.clauses ∧
      either.pointcut.clauses = m₁.pointcut.clauses ++ m₂.pointcut.clauses ∧
      negated.pointcut.clauses = m₁.pointcut.clauses ∧
      (∀ matcher ∈ [m₁, m₂, both, either, negated], ListsClauses ctx matcher) ∧
      ∀ t m,
        both.matchOn t m = ⟨(m₁.matchOn t m).matched && (m₂.matchOn t m).matched, m.key, []⟩ ∧
        either.matchOn t m = ⟨(m₁.matchOn t m).matched || (m₂.matchOn t m).matched, m.key, []⟩ ∧
        negated.matchOn t m = ⟨!(m₁.matchOn t m).matched, m.key, []⟩ := by
  obtain ⟨ts, left⟩ := expand_of_matcher first
  obtain ⟨us, right⟩ := expand_of_matcher second
  obtain ⟨_, both⟩ := expand_and left right
  obtain ⟨_, either⟩ := expand_or left right
  obtain ⟨_, negated⟩ := expand_not left
  have both := matcher_of_expand undeclared both
  have either := matcher_of_expand undeclared either
  have negated := matcher_of_expand undeclared negated
  refine ⟨_, _, _, both, either, negated, Formula.leaves_and _ _, Formula.leaves_or _ _,
    Formula.leaves_not _, ?_, fun t m => ?_⟩
  · simp only [List.forall_mem_cons]
    exact ⟨listsClauses_of_parse first, listsClauses_of_parse second, listsClauses_of_parse both,
      listsClauses_of_parse either, listsClauses_of_parse negated, by simp⟩
  have onFirst := matchOn_of_undeclared ((Matcher.parts_of_parse first).2.1.trans undeclared) t m
  have onSecond := matchOn_of_undeclared ((Matcher.parts_of_parse second).2.1.trans undeclared) t m
  rw [onFirst, onSecond, ← isSome_match?_and, ← isSome_match?_or, ← isSome_match?_not]
  exact ⟨matchOn_of_undeclared rfl t m, matchOn_of_undeclared rfl t m, matchOn_of_undeclared rfl t m⟩

/-- A desk where orders are placed and cancelled. -/
def desk : HostType :=
  .mk "demo.Desk" 1 [] [] [⟨"place", .bare "void", [], [.isPublic], []⟩,
    ⟨"cancel", .bare "void", [], [.isPublic], []⟩]

def cancel : Method :=
  ⟨some desk, ⟨"cancel", .bare "void", [], [.isPublic], []⟩⟩

/-- An aspect with a pointcut for both methods that refers to one for the first of them. -/
def watching : PointcutContext where
  aspect := some (.mk "demo.Watch" 2 [] []
    [⟨"placing", .bare "void", [], [],
        [⟨"Pointcut", [("value", .text "execution(* place(..))")]⟩]⟩,
      ⟨"ordering", .bare "void", [], [],
        [⟨"Pointcut", [("value", .text "placing() || execution(* cancel(..))")]⟩]⟩])

/-- Both parts refer to the same pointcut, and the whole is no cycle. -/
theorem ordering_without_placing :
    watching.parameters = [] ∧
      ∃ m₁ m₂, Matcher.parse watching "ordering() && within(demo..*)" = .ok m₁ ∧
        Matcher.parse watching "!placing()" = .ok m₂ ∧
        ∃ both either negated,
          Matcher.parse watching "(ordering() && within(demo..*)) && (!placing())" = .ok both ∧
          Matcher.parse watching "(ordering() && within(demo..*)) || (!placing())" = .ok either ∧
          Matcher.parse watching "!(ordering() && within(demo..*))" = .ok negated ∧
          both.pointcut.clauses = m₁.pointcut.clauses ++ m₂.pointcut.clauses ∧
          both.matchOn desk cancel = ⟨true, cancel.key, []⟩ ∧
          negated.matchOn desk cancel = ⟨false, cancel.key, []⟩ := by
  have onFirst : (Matcher.parse watching "ordering() && within(demo..*)").toOption.map
      (fun matcher => (matcher.matchOn desk cancel).matched) = some true := by
    decide +kernel
  have onSecond : (Matcher.parse watching "!placing()").toOption.map
      (fun matcher => (matcher.matchOn desk cancel).matched) = some true := by
    decide +kernel
  obtain ⟨m₁, first, holds⟩ := exists_ok_of_map onFirst
  obtain ⟨m₂, second, holdsToo⟩ := exists_ok_of_map onSecond
  obtain ⟨both, either, negated, joined, alternative, negation, clauses, -, -, -, results⟩ :=
    composites_are_accepted rfl first second
  obtain ⟨conjunction, -, opposite⟩ := results desk cancel
  rw [holds, holdsToo] at conjunction
  rw [holds] at opposite
  exact ⟨rfl, m₁, m₂, first, second, both, either, negated, joined, alternative, negation,
    clauses, conjunction, opposite⟩

end Crosscut.Composition
