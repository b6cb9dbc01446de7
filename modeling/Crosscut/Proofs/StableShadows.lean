import Crosscut.Proofs.BindingSources
import Crosscut.Proofs.Commits

/-! The shadow of a method is the same on every type. The type on which a method is considered may
decide which branch of a disjunction matches and which negation holds, but by the binding rule none
of these places binds anything. Every place that does bind takes part in every match, and what it
binds depends on the clause and the parameters of the method alone. So two matches of one method
give equal shadows, and committing one after the other replaces nothing. -/
namespace Crosscut.StableShadows
open BindingRule BindingSources Commits

variable {c d : Candidate}

/-- A clause promises the same for two candidates with the same parameters. -/
theorem sources_of_clause {clause : Clause} {first second : Sources}
    (same : c.method.parameters = d.method.parameters) (onFirst : clause.match? c = some first)
    (onSecond : clause.match? d = some second) : first = second := by
  unfold Clause.match? at onFirst onSecond
  cases spec : clause.spec with
  | execution signature | within pattern =>
    simp only [spec, Option.ite_none_right_eq_some, Option.some.injEq] at onFirst onSecond
    exact onFirst.2.symm.trans onSecond.2
  | object role subject | annotated site pattern =>
    simp only [spec, Option.ite_none_right_eq_some, Option.some.injEq] at onFirst onSecond
    exact onFirst.2.symm.trans onSecond.2
  | args items =>
    -- The positions are found on the parameter types, which the candidates share.
    simp only [spec, same] at onFirst onSecond
    exact Option.some.inj (onFirst.symm.trans onSecond)

/-- A match that binds no name has no sources. -/
private theorem sources_eq_nil {f : Formula Clause} {found : Sources}
    (nothing : boundNames f = []) (matched : f.match? c = some found) : found = [] := by
  have names : found.map (·.1) = boundNames f :=
    names_of_formula (decided_of_boundNames nothing) matched
  rw [nothing] at names
  exact List.map_eq_nil_iff.mp names

/-- A formula whose undecided places bind nothing promises the same for two candidates with the same
parameters, whichever branches of it they take. -/
theorem sources_of_formula {f : Formula Clause} {first second : Sources}
    (decided : ∀ clause ∈ undecided f, clause.boundNames = [])
    (same : c.method.parameters = d.method.parameters) (onFirst : f.match? c = some first)
    (onSecond : f.match? d = some second) : first = second := by
  induction f generalizing first second with
  | leaf clause => exact sources_of_clause same onFirst onSecond
  | not inner ih => rw [match?_not onFirst, match?_not onSecond]
  | and left right ihLeft ihRight =>
    obtain ⟨l₁, r₁, left₁, right₁, rfl⟩ := match?_and.mp onFirst
    obtain ⟨l₂, r₂, left₂, right₂, rfl⟩ := match?_and.mp onSecond
    have sameLeft : l₁ = l₂ :=
      ihLeft (fun clause member => decided clause (List.mem_append_left _ member)) left₁ left₂
    have sameRight : r₁ = r₂ :=
      ihRight (fun clause member => decided clause (List.mem_append_right _ member)) right₁ right₂
    rw [sameLeft, sameRight]
  | or left right _ _ =>
    -- The candidates may take different branches, but neither branch binds anything.
    have nothing : boundNames (left.or right) = [] := by
      apply boundNames_eq_nil.mpr
      rw [Formula.leaves_or]
      exact decided
    rw [sources_eq_nil nothing onFirst, sources_eq_nil nothing onSecond]
  | reference name body ih => exact ih decided onFirst onSecond

variable {ctx : PointcutContext} {expression : String} {matcher : Matcher} {m : Method}

/-- Two matches of one method leave the same shadow. -/
theorem shadow_evaluate (accepted : Matcher.parse ctx expression = .ok matcher)
    {target other : Option HostType} (matched : (matcher.evaluate ⟨m, target⟩).matched = true)
    (otherMatched : (matcher.evaluate ⟨m, other⟩).matched = true) :
    (matcher.evaluate ⟨m, target⟩).shadow = (matcher.evaluate ⟨m, other⟩).shadow := by
  obtain ⟨parsed, -, -⟩ := Matcher.parts_of_parse accepted
  have obeyed : Obeyed matcher.pointcut.root ctx.parameters := parsed_obeys parsed
  rw [Matcher.matched_evaluate] at matched otherMatched
  obtain ⟨first, onFirst⟩ := Option.isSome_iff_exists.mp matched
  obtain ⟨second, onSecond⟩ := Option.isSome_iff_exists.mp otherMatched
  have agree : first = second :=
    sources_of_formula (c := ⟨m, target⟩) (d := ⟨m, other⟩) obeyed.decided rfl onFirst onSecond
  simp only [Matcher.evaluate, onFirst, onSecond, agree]

/-- Commits that concern a method only with answers about it: under the identity of the method, they
commit for the method itself what the matcher said of it, on whatever type and at whatever moment. -/
def AnswersFor (matcher : Matcher) (m : Method) (commits : List Commit) : Prop :=
  ∀ commit ∈ commits, commit.1.key = m.key →
    commit.1 = m ∧ ∃ earlier target, commit.2 = (commitAll matcher earlier).evaluate ⟨m, target⟩

/-- Every answer that matches has the shadow of any other match of the method. -/
theorem shadow_of_answer (accepted : Matcher.parse ctx expression = .ok matcher)
    {target : Option HostType} (matched : (matcher.evaluate ⟨m, target⟩).matched = true)
    {commits : List Commit} (answers : AnswersFor matcher m commits) {commit : Commit}
    (member : commit ∈ commits) (successful : commit.2.matched = true)
    (same : commit.1.key = m.key) : commit.2.shadow = (matcher.evaluate ⟨m, target⟩).shadow := by
  obtain ⟨-, earlier, other, said⟩ := answers commit member same
  rw [evaluate_commitAll] at said
  rw [said] at successful ⊢
  exact shadow_evaluate accepted successful matched

/-- A committed match stands, whatever the matcher said of the method is committed after it. -/
theorem shadow?_of_answers (accepted : Matcher.parse ctx expression = .ok matcher)
    {target : Option HostType} (matched : (matcher.evaluate ⟨m, target⟩).matched = true)
    (before : List Commit) {after : List Commit} (answers : AnswersFor matcher m after) :
    (commitAll matcher (before ++ (m, matcher.evaluate ⟨m, target⟩) :: after)).shadow? m =
      some (matcher.evaluate ⟨m, target⟩).shadow := by
  have later : last? ((m, matcher.evaluate ⟨m, target⟩) :: after) m.key =
      some (matcher.evaluate ⟨m, target⟩).shadow := by
    apply last?_of_agreeing
    · intro commit member successful same
      rcases List.mem_cons.mp member with rfl | member
      · rfl
      · exact shadow_of_answer accepted matched answers member successful same
    · exact ⟨_, List.mem_cons_self, matched, rfl⟩
  have regrouped : commitAll matcher (before ++ (m, matcher.evaluate ⟨m, target⟩) :: after) =
      commitAll (commitAll matcher before) ((m, matcher.evaluate ⟨m, target⟩) :: after) :=
    List.foldl_append
  rw [regrouped, shadow?_commitAll, later]
  rfl

/-- The matches of a method by an accepted expression have equal shadows, whatever the types. So a
committed shadow of the method is never replaced by a different one, as long as what is committed for
the method are answers of the matcher about it. -/
theorem same_shadow_on_every_type (accepted : Matcher.parse ctx expression = .ok matcher)
    (m : Method) :
    (∀ s t, (matcher.matchOn s m).matched = true → (matcher.matchOn t m).matched = true →
      (matcher.matchOn s m).shadow = (matcher.matchOn t m).shadow) ∧
    ∀ before after shadow, AnswersFor matcher m (before ++ after) →
      (commitAll matcher before).shadow? m = some shadow →
        (commitAll matcher (before ++ after)).shadow? m = some shadow := by
  constructor
  · intro s t matched otherMatched
    exact shadow_evaluate accepted matched otherMatched
  · intro before after shadow answers committed
    have fresh : matcher.shadow? m = none := by
      rw [Matcher.shadow?, (Matcher.parts_of_parse accepted).2.2]
      rfl
    rw [shadow?_commitAll, fresh, Option.or_none] at committed ⊢
    obtain ⟨commit, member, successful, same, rfl⟩ := exists_of_last? committed
    have listed : commit ∈ before ++ after := List.mem_append_left after member
    -- The commit that left the shadow is itself an answer, to which all others are compared.
    obtain ⟨-, earlier, target, said⟩ := answers commit listed same
    rw [evaluate_commitAll] at said
    have matched : (matcher.evaluate ⟨m, target⟩).matched = true := said ▸ successful
    apply last?_of_agreeing
    · intro other otherListed otherSuccessful otherSame
      rw [shadow_of_answer accepted matched answers otherListed otherSuccessful otherSame, said]
    · exact ⟨commit, listed, successful, same⟩

/-- An account on which entries are posted. -/
def account : HostType :=
  .mk "demo.Account" 1 [] []
    [⟨"post", .bare "void", [⟨"entry", .bare "demo.Entry", []⟩], [.isPublic], []⟩]

def savings : HostType :=
  .mk "demo.Savings" 2 [⟨"demo.Frozen", []⟩] [account] []

def checking : HostType :=
  .mk "demo.Checking" 3 [] [account] []

/-- The method that posts an entry. -/
def post : Method :=
  ⟨some account, ⟨"post", .bare "void", [⟨"entry", .bare "demo.Entry", []⟩], [.isPublic], []⟩⟩

/-- The parameters of an advice that audits what is posted where. -/
def auditing : PointcutContext where
  parameters := [⟨"where", account⟩, ⟨"what", .bare "demo.Entry"⟩]

/-- A pointcut that matches on one type through its disjunction, on another through its negation. -/
def audited : String :=
  "args(what) && (target(demo.Savings) || !@target(demo.Frozen)) && target(where)"

/-- The two types match for different reasons, and the second match replaces nothing. -/
theorem post_has_one_shadow :
    ∃ matcher, Matcher.parse auditing audited = .ok matcher ∧
      (matcher.matchOn savings post).matched = true ∧
      (matcher.matchOn checking post).matched = true ∧
      (matcher.matchOn savings post).shadow = (matcher.matchOn checking post).shadow ∧
      (commitAll matcher ([(post, matcher.matchOn savings post)] ++
          [(post, matcher.matchOn checking post)])).shadow? post =
        some (matcher.matchOn savings post).shadow := by
  have seen : (Matcher.parse auditing audited).toOption.map (fun matcher =>
      ((matcher.matchOn savings post).matched, (matcher.matchOn checking post).matched)) =
        some (true, true) := by
    decide +kernel
  obtain ⟨matcher, accepted, answered⟩ := exists_ok_of_map seen
  obtain ⟨onSavings, onChecking⟩ := Prod.mk.inj answered
  obtain ⟨equal, kept⟩ := same_shadow_on_every_type accepted post
  refine ⟨matcher, accepted, onSavings, onChecking, equal savings checking onSavings onChecking, ?_⟩
  apply kept
  · intro commit member _
    rcases List.mem_cons.mp member with rfl | member
    · exact ⟨rfl, [], some savings, rfl⟩
    · rw [List.mem_singleton.mp member]
      exact ⟨rfl, [], some checking, rfl⟩
  · have others : ∀ commit ∈ ([] : List Commit), commit.1.key ≠ post.key := nofun
    exact @shadow?_of_standing matcher [] [] post _ onSavings others

end Crosscut.StableShadows
