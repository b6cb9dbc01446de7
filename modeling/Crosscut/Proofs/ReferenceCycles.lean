import Crosscut.Pointcut.Parse
import Mathlib.Data.List.Chain
import Mathlib.Data.List.Dedup
import Mathlib.Data.List.Perm.Subperm
import Mathlib.Data.List.TakeWhile
import Mathlib.Logic.Relation

/-! Expanding references comes to an end although nothing in the expressions themselves gets smaller:
an expansion is entered only for a pointcut that is not being expanded already, so never more of them
are open than there are pointcuts to refer to. A parser that is given just that many levels never runs
out of them. What is reported as a cycle is one: the references lead from each pointcut of the chain to
the next, and the last one leads back. Using a pointcut again on another branch closes no cycle. -/
namespace Crosscut.ReferenceCycles

/-- The named pointcuts that references may denote. -/
def pointcuts (ctx : PointcutContext) : List NamedPointcut :=
  match ctx.aspect with
  | some aspect => NamedPointcut.listed ctx.pointcutAnnotation aspect
  | none => []

/-- The distinct identities of the named pointcuts that references may denote. -/
def pointcutKeys (ctx : PointcutContext) : List String :=
  ((pointcuts ctx).map (·.key)).dedup

/-- The named pointcut that a token refers to. -/
def denoted? (ctx : PointcutContext) (t : Token) : Option NamedPointcut :=
  match t.kind with
  | .clause raw => if raw.kind = .reference then ctx.find? raw.keyword else none
  | _ => none

/-- The named pointcuts that the references in an expression denote. -/
def mentioned (ctx : PointcutContext) (expression : String) : List NamedPointcut :=
  match Token.tokenize expression with
  | .ok tokens => tokens.filterMap (denoted? ctx)
  | .error _ => []

/-- The expression of one pointcut holds a reference to another. -/
def Refers (ctx : PointcutContext) (p q : NamedPointcut) : Prop :=
  ∃ body, p.expression? = some body ∧ q ∈ mentioned ctx body

/-- The pointcuts that an expression refers to, itself or through others. -/
inductive Reached (ctx : PointcutContext) (expression : String) : NamedPointcut → Prop where
  | named {p : NamedPointcut} (mention : p ∈ mentioned ctx expression) : Reached ctx expression p
  | further {p q : NamedPointcut} (reached : Reached ctx expression p) (refers : Refers ctx p q) :
      Reached ctx expression q

/-- The graph of keys that can be reached from an expression. -/
def Leads (ctx : PointcutContext) (expression key next : String) : Prop :=
  ∃ p q, Reached ctx expression p ∧ Refers ctx p q ∧ p.key = key ∧ q.key = next

/-- A chain of keys that starts and ends with one key, repeats no other, and follows references from
each pointcut to the next. -/
def Genuine (ctx : PointcutContext) (expression : String) (chain : List String) : Prop :=
  ∃ (first : NamedPointcut) (between : List NamedPointcut) (last : NamedPointcut),
    chain = (first :: between ++ [last]).map (·.key) ∧ last.key = first.key ∧
    ((first :: between).map (·.key)).Nodup ∧ (first :: between ++ [last]).IsChain (Refers ctx) ∧
    ∀ p ∈ first :: between, Reached ctx expression p

variable {ctx : PointcutContext} {active : List String} {scope : Scope} {expression top : String}

theorem find?_mem_pointcuts {reference : String} {p : NamedPointcut}
    (found : ctx.find? reference = some p) : p ∈ pointcuts ctx := by
  unfold PointcutContext.find? at found
  unfold pointcuts
  cases aspect : ctx.aspect with
  | none => simp [aspect] at found
  | some aspect' =>
    rw [aspect] at found
    exact NamedPointcut.mem_listed found

theorem mem_mentioned {raw : RawClause} {offset : Nat} {tokens : List Token} {p : NamedPointcut}
    (scanned : Token.tokenize expression = .ok tokens) (member : ⟨.clause raw, offset⟩ ∈ tokens)
    (kind : raw.kind = .reference) (found : ctx.find? raw.keyword = some p) :
    p ∈ mentioned ctx expression := by
  unfold mentioned
  rw [scanned]
  exact List.mem_filterMap.mpr ⟨_, member, by simp only [denoted?, kind, ↓reduceIte, found]⟩

/-- A mention is a reference among the tokens. -/
theorem reference_of_mentioned {p : NamedPointcut} (mention : p ∈ mentioned ctx expression) :
    ∃ tokens raw offset, Token.tokenize expression = .ok tokens ∧ ⟨.clause raw, offset⟩ ∈ tokens ∧
      raw.kind = .reference ∧ ctx.find? raw.keyword = some p := by
  unfold mentioned at mention
  split at mention
  · rename_i tokens scanned
    obtain ⟨⟨kind, offset⟩, member, denoted⟩ := List.mem_filterMap.mp mention
    unfold denoted? at denoted
    split at denoted
    · rename_i raw same
      cases same
      split at denoted
      · rename_i refers
        exact ⟨tokens, raw, offset, scanned, member, refers, denoted⟩
      · cases denoted
    · cases denoted
  · simp at mention

/-! The parser with a limit on how many expansions may be open at once. It is the same parser, but
where the limit is reached it stops with an answer of its own. -/

/-- Reads a clause; how an expansion goes on is left open. -/
def readVia (ctx : PointcutContext) (active : List String) (scope : Scope) (expression : String)
    (enter : Expansion → Except (Option ParseError) (List Token × Formula Clause)) (raw : RawClause) :
    Except (Option ParseError) (Formula Clause) :=
  match raw.kind with
  | .designator d => ((raw.toClause expression scope d).map .leaf).mapError some
  | .reference =>
    match raw.expansion ctx active scope expression with
    | .error e => .error (some e)
    | .ok ⟨inner, _⟩ => (enter inner).map fun (_, body) => .reference raw.keyword body

/-- The error for tokens without a reading, where the reader may have reached the limit. -/
def limited (expression : String) : Grammar.Fault (Option ParseError) → Option ParseError
  | .unexpected found expected => some ((Grammar.Fault.unexpected found expected).toError expression)
  | .unbalanced offset => some ((Grammar.Fault.unbalanced offset).toError expression)
  | .clause cause => cause

/-- One level of the parser; how an expansion goes on is left open. -/
def expandVia (ctx : PointcutContext)
    (enter : List String → Expansion → Except (Option ParseError) (List Token × Formula Clause))
    (active : List String) (scope : Scope) (expression : String) :
    Except (Option ParseError) (List Token × Formula Clause) :=
  match Token.tokenize expression with
  | .error e => .error (some e)
  | .ok [] => .error (some .empty)
  | .ok tokens =>
    match Grammar.formula (readVia ctx active scope expression (enter active)) tokens with
    | .error fault => .error (limited expression fault)
    | .ok root => .ok (tokens, root)

/-- Parses an expression with a number of further expansions that may be open at once. There is no
error to report where the limit is reached. -/
def expandWithin (ctx : PointcutContext) : (limit : Nat) → List String → Scope → String →
    Except (Option ParseError) (List Token × Formula Clause)
  | 0 => expandVia ctx fun _ _ => .error none
  | limit + 1 => expandVia ctx fun active inner =>
      expandWithin ctx limit (active ++ [inner.key]) inner.scope inner.body

/-- Parses an expression with at most so many expansions open at once. -/
def parseWithin (limit : Nat) (ctx : PointcutContext) (expression : String) :
    Except (Option ParseError) Pointcut :=
  match expandWithin ctx limit [] (.ofParameters ctx.parameters) expression with
  | .error e => .error e
  | .ok (tokens, root) =>
    match root.checkBindings ctx.parameters with
    | .error fault => .error (some (fault.toError expression))
    | .ok () => .ok ⟨expression, tokens, root⟩

/-- A level of the parser whose expansions go on as they should is a level of the real parser. -/
theorem expandVia_eq
    {enter : List String → Expansion → Except (Option ParseError) (List Token × Formula Clause)}
    (same : ∀ (raw : RawClause) inner, raw.expansion ctx active scope expression = .ok inner →
      enter active inner.val =
        (Pointcut.expand ctx (active ++ [inner.val.key]) inner.val.scope inner.val.body).mapError some) :
    expandVia ctx enter active scope expression =
      (Pointcut.expand ctx active scope expression).mapError some := by
  have clauses : readVia ctx active scope expression (enter active) =
      fun raw => (Pointcut.readClause ctx active scope expression raw).mapError some := by
    funext raw
    unfold readVia Pointcut.readClause
    cases raw.kind with
    | designator d => rfl
    | reference =>
      cases entered : raw.expansion ctx active scope expression with
      | error e => rfl
      | ok inner =>
        dsimp only
        rw [same raw inner entered]
        cases Pointcut.expand ctx (active ++ [inner.val.key]) inner.val.scope inner.val.body <;> rfl
  rw [Pointcut.expand_eq, expandVia, clauses]
  cases Token.tokenize expression with
  | error e => rfl
  | ok tokens =>
    cases tokens with
    | nil => rfl
    | cons first rest =>
      dsimp only
      rw [Grammar.formula_mapError]
      cases Grammar.formula (Pointcut.readClause ctx active scope expression) (first :: rest) with
      | ok root => rfl
      | error fault => cases fault <;> rfl

/-- The pointcut of an expansion is one more beside those that are open. -/
theorem opened {raw : RawClause} {inner : { e : Expansion // e.key ∈ ctx.keys ∧ e.key ∉ active }}
    (entered : raw.expansion ctx active scope expression = .ok inner) (distinct : active.Nodup)
    (known : active ⊆ pointcutKeys ctx) :
    (active ++ [inner.val.key]).Nodup ∧ active ++ [inner.val.key] ⊆ pointcutKeys ctx := by
  obtain ⟨p, found, key, -, -, -⟩ := RawClause.expansion_eq_ok.mp entered
  have listed : inner.val.key ∈ pointcutKeys ctx := by
    rw [key]
    exact List.mem_dedup.mpr (List.mem_map_of_mem (find?_mem_pointcuts found))
  constructor
  · exact List.nodup_append.mpr ⟨distinct, List.nodup_singleton _, by
      intro a member b alone same
      rw [List.mem_singleton.mp alone] at same
      exact inner.property.2 (same ▸ member)⟩
  · exact List.append_subset.mpr ⟨known, List.cons_subset.mpr ⟨listed, List.nil_subset _⟩⟩

/-- With a level for every key that is not open, the limit is never reached. -/
theorem expandWithin_eq {limit : Nat} (distinct : active.Nodup) (known : active ⊆ pointcutKeys ctx)
    (enough : (pointcutKeys ctx).length ≤ limit + active.length) :
    expandWithin ctx limit active scope expression =
      (Pointcut.expand ctx active scope expression).mapError some := by
  induction limit generalizing active scope expression with
  | zero =>
    -- all keys are open, so an expansion that were entered would be one too many
    apply expandVia_eq
    intro raw inner entered
    obtain ⟨distinct', known'⟩ := opened entered distinct known
    have bounded := (List.subperm_of_subset distinct' known').length_le
    rw [List.length_append, List.length_singleton] at bounded
    omega
  | succ limit ih =>
    apply expandVia_eq
    intro raw inner entered
    obtain ⟨distinct', known'⟩ := opened entered distinct known
    apply ih distinct' known'
    rw [List.length_append, List.length_singleton]
    omega

/-- A parser that may have as many expansions open as there are keys parses like the real one. -/
theorem parseWithin_eq (ctx : PointcutContext) (expression : String) :
    parseWithin (pointcutKeys ctx).length ctx expression =
      (Pointcut.parse ctx expression).mapError some := by
  unfold parseWithin Pointcut.parse
  rw [expandWithin_eq List.nodup_nil (List.nil_subset _) (Nat.le_add_right _ _)]
  cases Pointcut.expand ctx [] (.ofParameters ctx.parameters) expression with
  | error e => rfl
  | ok result =>
    dsimp only [Except.mapError]
    cases result.2.checkBindings ctx.parameters <;> rfl

/-! What is reported as a cycle. Only a reference to a pointcut that is open reports one, so the error is
followed down to that reference. On the way the open pointcuts are kept as a trail. -/

/-- The pointcuts whose expansions are open while an expression is parsed, outermost first: none at the
top, and one more in the expression of a pointcut that is mentioned. -/
inductive Trail (ctx : PointcutContext) (top : String) : List NamedPointcut → String → Prop where
  | top : Trail ctx top [] top
  | enter {opened : List NamedPointcut} {expression body : String} {p : NamedPointcut}
      (outside : Trail ctx top opened expression) (mention : p ∈ mentioned ctx expression)
      (named : p.expression? = some body) : Trail ctx top (opened ++ [p]) body

/-- What is mentioned at the end of a trail is reached from its start. -/
theorem reached_of_trail {opened : List NamedPointcut} {q : NamedPointcut}
    (trail : Trail ctx top opened expression) (mention : q ∈ mentioned ctx expression) :
    Reached ctx top q := by
  induction trail generalizing q with
  | top => exact .named mention
  | enter outside earlier named ih => exact .further (ih earlier) ⟨_, named, mention⟩

/-- All that is open on a trail is reached from its start. -/
theorem all_reached_of_trail {opened : List NamedPointcut} (trail : Trail ctx top opened expression) :
    ∀ p ∈ opened, Reached ctx top p := by
  induction trail with
  | top => simp
  | enter outside mention named ih =>
    intro p member
    rcases List.mem_append.mp member with before | last
    · exact ih p before
    · rw [List.mem_singleton.mp last]
      exact reached_of_trail outside mention

/-- The pointcuts of a trail refer to each other in order, and the last one to all that its expression
mentions. -/
theorem chain_of_trail {opened : List NamedPointcut} {q : NamedPointcut}
    (trail : Trail ctx top opened expression) (mention : q ∈ mentioned ctx expression) :
    (opened ++ [q]).IsChain (Refers ctx) := by
  induction trail generalizing q with
  | top => exact List.isChain_singleton q
  | enter outside earlier named ih =>
    apply List.IsChain.append (ih earlier) (List.isChain_singleton q)
    intro p last next first
    rw [List.getLast?_concat] at last
    cases last
    cases first
    exact ⟨_, named, mention⟩

/-- The errors that only references report. -/
def ofReference : ParseError → Bool
  | .unknownPointcut .. | .pointcutArity .. | .referenceCycle _ => true
  | _ => false

/-- What makes a reference itself report such an error: its name denotes nothing, its pointcut is open,
or it passes too few or too many texts. -/
inductive Refusal (ctx : PointcutContext) (active : List String) (expression : String)
    (raw : RawClause) : ParseError → Prop where
  | unknown (absent : ctx.find? raw.keyword = none) :
      Refusal ctx active expression raw (.unknownPointcut expression raw.keyword)
  | again {p : NamedPointcut} (found : ctx.find? raw.keyword = some p) (opened : p.key ∈ active) :
      Refusal ctx active expression raw
        (.referenceCycle (active.dropWhile (· != p.key) ++ [p.key]))
  | arity {p : NamedPointcut} (found : ctx.find? raw.keyword = some p)
      (other : (Text.items raw.body.toList).length ≠ p.parameterNames.length) :
      Refusal ctx active expression raw (.pointcutArity expression raw.keyword
        p.parameterNames.length (Text.items raw.body.toList).length)

theorem refusal_of_expansion {raw : RawClause} {e : ParseError} (reported : ofReference e = true)
    (failed : raw.expansion ctx active scope expression = .error e) :
    Refusal ctx active expression raw e := by
  unfold RawClause.expansion at failed
  split at failed
  · rename_i absent
    cases failed
    exact .unknown absent
  · rename_i p found
    split at failed
    · rename_i opened
      cases failed
      exact .again found opened
    · split at failed
      · cases failed
        cases reported
      · dsimp only at failed
        split at failed
        · split at failed
          · rename_i refused
            cases failed
            obtain ⟨name, rfl⟩ | ⟨fault, rfl⟩ := RawClause.error_of_passAll refused
            all_goals cases reported
          · cases failed
        · rename_i other
          cases failed
          exact .arity found other

/-- A reference reports a cycle itself only if its pointcut is open. -/
theorem open_of_expansion {raw : RawClause} {chain : List String}
    (failed : raw.expansion ctx active scope expression = .error (.referenceCycle chain)) :
    ∃ p, ctx.find? raw.keyword = some p ∧ p.key ∈ active ∧
      chain = active.dropWhile (· != p.key) ++ [p.key] := by
  cases refusal_of_expansion rfl failed with
  | again found opened => exact ⟨_, found, opened, rfl⟩

/-- A clause reports such an error if it is a reference that does so itself, or the expansion of which
does. -/
theorem reference_of_readClause {raw : RawClause} {e : ParseError} (reported : ofReference e = true)
    (failed : Pointcut.readClause ctx active scope expression raw = .error e) :
    raw.kind = .reference ∧
      (raw.expansion ctx active scope expression = .error e ∨
        ∃ inner, raw.expansion ctx active scope expression = .ok inner ∧
          Pointcut.expand ctx (active ++ [inner.val.key]) inner.val.scope inner.val.body = .error e) := by
  unfold Pointcut.readClause at failed
  split at failed
  · rename_i d kind
    unfold RawClause.toClause at failed
    cases read : ClauseSpec.read scope raw.body d with
    | error fault =>
      rw [read] at failed
      cases fault <;> cases failed <;> cases reported
    | ok spec => simp [read, Except.map] at failed
  · rename_i kind
    refine ⟨kind, ?_⟩
    split at failed
    · rename_i e refused
      cases failed
      exact .inl refused
    · rename_i inner known entered
      split at failed
      · rename_i e inside
        cases failed
        exact .inr ⟨⟨inner, known⟩, entered, inside⟩
      · cases failed

/-- An expression reports such an error if one of its clauses does. -/
theorem clause_of_expand {e : ParseError} (reported : ofReference e = true)
    (failed : Pointcut.expand ctx active scope expression = .error e) :
    ∃ tokens raw offset, Token.tokenize expression = .ok tokens ∧ ⟨.clause raw, offset⟩ ∈ tokens ∧
      Pointcut.readClause ctx active scope expression raw = .error e := by
  rw [Pointcut.expand_eq] at failed
  cases scanned : Token.tokenize expression with
  | error e =>
    rw [scanned] at failed
    unfold Token.tokenize at scanned
    cases lexed : Token.lex 0 expression.toList with
    | error fault =>
      rw [lexed] at scanned
      cases fault <;> cases scanned <;> cases failed <;> cases reported
    | ok tokens =>
      rw [lexed] at scanned
      cases scanned
  | ok tokens =>
    rw [scanned] at failed
    cases tokens with
    | nil =>
      cases failed
      cases reported
    | cons first rest =>
      dsimp only at failed
      split at failed
      · rename_i fault read
        rcases fault with ⟨_ | found, expected⟩ | offset | cause
        · cases failed
          cases reported
        · cases failed
          cases reported
        · cases failed
          cases reported
        · cases failed
          obtain ⟨raw, offset, member, refused, -⟩ :=
            Grammar.formula_refused Grammar.congruent_eq (fun raw f made => ⟨f, made, rfl⟩) read
          exact ⟨_, raw, offset, rfl, member, refused⟩
      · cases failed

/-- The part of a trail from the first pointcut of a key on is a cycle when that key is mentioned
again. -/
theorem genuine_of_again {opened : List NamedPointcut} {p : NamedPointcut}
    (trail : Trail ctx top opened expression) (distinct : (opened.map (·.key)).Nodup)
    (mention : p ∈ mentioned ctx expression) (again : p.key ∈ opened.map (·.key)) :
    Genuine ctx top ((opened.map (·.key)).dropWhile (· != p.key) ++ [p.key]) := by
  have cut : (opened.map (·.key)).dropWhile (· != p.key) =
      (opened.dropWhile (·.key != p.key)).map (·.key) := List.dropWhile_map
  have suffix : opened.dropWhile (·.key != p.key) <:+ opened := List.dropWhile_suffix _
  have filled : opened.dropWhile (·.key != p.key) ≠ [] := by
    intro empty
    obtain ⟨q, member, same⟩ := List.mem_map.mp again
    rw [List.dropWhile_eq_nil_iff] at empty
    simpa [same] using empty q member
  have here := List.head_dropWhile_not (fun q : NamedPointcut => q.key != p.key) filled
  rw [cut]
  -- the part that is kept starts with the pointcut that is mentioned again
  generalize opened.dropWhile (·.key != p.key) = kept at suffix filled here
  obtain ⟨first, between, rfl⟩ := List.exists_cons_of_ne_nil filled
  have same : first.key = p.key := by simpa using here
  refine ⟨first, between, p, by simp, same.symm, ?_, ?_, ?_⟩
  · exact distinct.sublist (suffix.sublist.map _)
  · obtain ⟨before, rfl⟩ := suffix
    have chain := chain_of_trail trail mention
    rw [List.append_assoc] at chain
    exact chain.right_of_append
  · intro q member
    exact all_reached_of_trail trail q (suffix.subset member)

/-- Whatever expression on a trail reports a cycle, the trail holds it. -/
theorem genuine_of_expand {opened : List NamedPointcut} {chain : List String}
    (trail : Trail ctx top opened expression) (stack : opened.map (·.key) = active)
    (distinct : active.Nodup)
    (failed : Pointcut.expand ctx active scope expression = .error (.referenceCycle chain)) :
    Genuine ctx top chain := by
  induction active, scope, expression using Pointcut.expand_induction generalizing opened with
  | step active scope expression ih =>
    obtain ⟨tokens, raw, offset, scanned, member, refused⟩ := clause_of_expand rfl failed
    obtain ⟨kind, closed | ⟨inner, entered, inside⟩⟩ := reference_of_readClause rfl refused
    · obtain ⟨p, found, again, rfl⟩ := open_of_expansion closed
      subst stack
      exact genuine_of_again trail distinct (mem_mentioned scanned member kind found) again
    · obtain ⟨p, found, key, named, -, -⟩ := RawClause.expansion_eq_ok.mp entered
      have deeper : Trail ctx top (opened ++ [p]) inner.val.body :=
        .enter trail (mem_mentioned scanned member kind found) named
      refine ih inner inner.property deeper (by simp [stack, key]) ?_ inside
      have fresh := inner.property.2
      rw [List.nodup_append]
      refine ⟨distinct, List.nodup_singleton _, ?_⟩
      intro a open' b alone same
      rw [List.mem_singleton.mp alone] at same
      exact fresh (same ▸ open')

/-- Following the references of a chain leads from the key of its first pointcut to that of its last. -/
theorem leads_of_chain {first last : NamedPointcut} {between : List NamedPointcut}
    (chain : (first :: between ++ [last]).IsChain (Refers ctx))
    (reached : ∀ p ∈ first :: between, Reached ctx expression p) :
    Relation.TransGen (Leads ctx expression) first.key last.key := by
  induction between generalizing first with
  | nil =>
    obtain ⟨refers, -⟩ := List.isChain_cons_cons.mp chain
    exact .single ⟨first, last, reached first List.mem_cons_self, refers, rfl, rfl⟩
  | cons second rest ih =>
    obtain ⟨refers, behind⟩ := List.isChain_cons_cons.mp chain
    have step : Leads ctx expression first.key second.key :=
      ⟨first, second, reached first List.mem_cons_self, refers, rfl, rfl⟩
    have later := ih behind fun p member => reached p (List.mem_cons_of_mem _ member)
    exact .head step later

/-- Checking the binding rule reports no such error. -/
theorem expand_of_parse {e : ParseError} (reported : ofReference e = true)
    (failed : Pointcut.parse ctx expression = .error e) :
    Pointcut.expand ctx [] (.ofParameters ctx.parameters) expression = .error e := by
  unfold Pointcut.parse at failed
  split at failed
  · rename_i e refused
    cases failed
    exact refused
  · split at failed
    · rename_i fault violated
      cases fault <;> cases failed <;> cases reported
    · cases failed

/-- Parsing ends, with never more expansions open at once than there are distinct keys of named
pointcuts in the hierarchy. A cycle that it reports is one of the references that it followed. Where
the keys that can be reached form no cycle, it reports none, however often a pointcut is used. -/
theorem parse_ends_and_reports_real_cycles (ctx : PointcutContext) (expression : String) :
    parseWithin (pointcutKeys ctx).length ctx expression =
        (Pointcut.parse ctx expression).mapError some ∧
      (∀ chain, Pointcut.parse ctx expression = .error (.referenceCycle chain) →
        Genuine ctx expression chain) ∧
      ((∀ key, ¬ Relation.TransGen (Leads ctx expression) key key) →
        ∀ chain, Pointcut.parse ctx expression ≠ .error (.referenceCycle chain)) := by
  have genuine : ∀ chain, Pointcut.parse ctx expression = .error (.referenceCycle chain) →
      Genuine ctx expression chain := by
    intro chain failed
    exact genuine_of_expand .top rfl List.nodup_nil (expand_of_parse rfl failed)
  refine ⟨parseWithin_eq ctx expression, genuine, ?_⟩
  intro acyclic chain failed
  obtain ⟨first, between, last, -, closed, -, linked, reached⟩ := genuine chain failed
  have loop := leads_of_chain linked reached
  rw [closed] at loop
  exact acyclic first.key loop

/-! An accepted expression reaches no cycle of pointcuts. -/

/-- References followed down from an accepted expression come to an end. -/
theorem founded_of_expand {tokens : List Token} {f : Formula Clause} {p : NamedPointcut}
    (expanded : Pointcut.expand ctx active scope expression = .ok (tokens, f))
    (mention : p ∈ mentioned ctx expression) : Acc (fun inner outer => Refers ctx outer inner) p := by
  induction active, scope, expression using Pointcut.expand_induction generalizing tokens f p with
  | step active scope expression ih =>
    obtain ⟨scanned, -, read⟩ := Pointcut.expand_eq_ok.mp expanded
    obtain ⟨tokens', raw, offset, scanned', member, kind, found⟩ := reference_of_mentioned mention
    cases scanned.symm.trans scanned'
    obtain ⟨g, stands⟩ := Grammar.formula_reads_all read member
    rcases Pointcut.readClause_eq_ok.mp stands with
      ⟨d, -, other, -, -⟩ | ⟨inner, innerTokens, body, -, entered, inside, -⟩
    · cases kind.symm.trans other
    · obtain ⟨q, denoted, -, named, -, -⟩ := RawClause.expansion_eq_ok.mp entered
      cases found.symm.trans denoted
      apply Acc.intro
      rintro next ⟨body', named', further⟩
      cases named.symm.trans named'
      exact ih inner inner.property inside further

/-- No pointcut that an accepted expression reaches leads back to itself. -/
theorem accepted_reaches_no_cycle {accepted : Pointcut}
    (parsed : Pointcut.parse ctx expression = .ok accepted) {p : NamedPointcut}
    (reached : Reached ctx expression p) : ¬ Relation.TransGen (Refers ctx) p p := by
  have founded : Acc (fun inner outer => Refers ctx outer inner) p := by
    induction reached with
    | named mention =>
      obtain ⟨tokens, root, expanded, -⟩ := Pointcut.parse_eq_ok.mp parsed
      exact founded_of_expand expanded mention
    | further _ refers ih => exact ih.inv refers
  intro loop
  have backwards : Relation.TransGen (fun inner outer => Refers ctx outer inner) p p :=
    Relation.transGen_swap.mpr loop
  -- a descent along the references that comes back to its start never ends
  have irreflexive := founded.transGen
  clear founded loop reached
  induction irreflexive with
  | intro p _ ih => exact ih p backwards backwards

/-- A rank that falls along all references shows that there are no cycles. -/
theorem acyclic_of_rank (rank : String → Nat)
    (falls : ∀ p ∈ pointcuts ctx, ∀ body ∈ p.expression?.toList, ∀ q ∈ mentioned ctx body,
      rank q.key < rank p.key) (key : String) :
    ¬ Relation.TransGen (Leads ctx expression) key key := by
  have below : ∀ {key next}, Relation.TransGen (Leads ctx expression) key next →
      rank next < rank key := by
    intro key next leads
    have step : ∀ {key next}, Leads ctx expression key next → rank next < rank key := by
      rintro _ _ ⟨p, q, reached, ⟨body, named, mention⟩, rfl, rfl⟩
      have listed : p ∈ pointcuts ctx := by
        cases reached with
        | named first =>
          obtain ⟨-, raw, -, -, -, -, found⟩ := reference_of_mentioned first
          exact find?_mem_pointcuts found
        | further _ refers =>
          obtain ⟨body, -, first⟩ := refers
          obtain ⟨-, raw, -, -, -, -, found⟩ := reference_of_mentioned first
          exact find?_mem_pointcuts found
      exact falls p listed body (by simp [named]) q mention
    induction leads with
    | single first => exact step first
    | tail _ last ih => exact lt_trans (step last) ih
  exact fun loop => lt_irrefl _ (below loop)

/-- A method that names an expression. -/
def pointcut (name value : String) : Declaration HostType :=
  ⟨name, .bare "void", [], [.isPublic], [⟨"Pointcut", [("value", .text value)]⟩]⟩

/-- An aspect whose pointcuts `inner` and `outer` refer to each other. -/
def looping : PointcutContext where
  aspect := some (.mk "demo.Loop" 1 [⟨"Aspect", []⟩] []
    [pointcut "entry" "args(..) && outer()", pointcut "outer" "!inner()",
      pointcut "inner" "target(demo.Service) || outer()"])

/-- An aspect on which two pointcuts use a third one twice. -/
def sharing : PointcutContext where
  aspect := some (.mk "demo.Share" 1 [⟨"Aspect", []⟩] []
    [pointcut "both" "left() || right()", pointcut "left" "base() && !base()",
      pointcut "right" "base()", pointcut "base" "args(..)"])

/-- How many references lie between a pointcut and the shared one. -/
def distance (key : String) : Nat :=
  if key = "demo.Share.both" then 2 else if key = "demo.Share.base" then 0 else 1

/-- The error that an expression is rejected with. -/
def complaint? (ctx : PointcutContext) (expression : String) : Option ParseError :=
  match Pointcut.parse ctx expression with
  | .ok _ => none
  | .error e => some e

/-- The loop is reported from where it is entered, though the reference that enters it is no part of
it. The shared pointcut, used four times, is no loop. -/
theorem loop_is_reported_and_sharing_is_none :
    Pointcut.parse looping "entry()" =
        .error (.referenceCycle ["demo.Loop.outer", "demo.Loop.inner", "demo.Loop.outer"]) ∧
      Genuine looping "entry()" ["demo.Loop.outer", "demo.Loop.inner", "demo.Loop.outer"] ∧
      (∀ key, ¬ Relation.TransGen (Leads sharing "both() && base()") key key) ∧
      ∀ chain, Pointcut.parse sharing "both() && base()" ≠ .error (.referenceCycle chain) := by
  have seen : complaint? looping "entry()" =
      some (.referenceCycle ["demo.Loop.outer", "demo.Loop.inner", "demo.Loop.outer"]) := by
    decide +kernel
  have failed : Pointcut.parse looping "entry()" =
      .error (.referenceCycle ["demo.Loop.outer", "demo.Loop.inner", "demo.Loop.outer"]) := by
    unfold complaint? at seen
    split at seen
    · cases seen
    · rename_i refused
      cases seen
      exact refused
  have acyclic : ∀ key, ¬ Relation.TransGen (Leads sharing "both() && base()") key key :=
    acyclic_of_rank distance (by decide +kernel)
  obtain ⟨-, genuine, -⟩ := parse_ends_and_reports_real_cycles looping "entry()"
  obtain ⟨-, -, never⟩ := parse_ends_and_reports_real_cycles sharing "both() && base()"
  exact ⟨failed, genuine _ failed, acyclic, never acyclic⟩

end Crosscut.ReferenceCycles
