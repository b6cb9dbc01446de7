import Crosscut.Matching.Formula
import Crosscut.Shadow
import Crosscut.Table

/-! A matcher is a pointcut together with the shadows of the methods that were woven with it. A
match alone changes nothing; committing a successful one records its shadow under the identity of
the method, in place of an earlier one, and calls of the method read it from there. -/
namespace Crosscut

/-- What matching a method tells: whether it matches, and the shadow to commit if it does. -/
structure MatchResult where
  matched : Bool
  shadow : Shadow
deriving DecidableEq, Repr

/-- A pointcut with declared parameters and the shadows committed so far. -/
structure Matcher where
  pointcut : Pointcut
  parameters : List Binding
  shadows : Table MethodKey Shadow

/-- The first source of each declared parameter, in the order of the parameters. -/
def Sources.select (found : Sources) (parameters : List Binding) : Sources :=
  parameters.filterMap fun b => (found.of? b.name).map (b.name, ·)

/-- Selecting keeps the source of every declared parameter. -/
theorem Sources.of?_select (found : Sources) {parameters : List Binding} {b : Binding}
    (declared : b ∈ parameters) : (found.select parameters).of? b.name = found.of? b.name := by
  have selected : ∀ name source, (name, source) ∈ found.select parameters →
      found.of? name = some source := by
    intro name source member
    obtain ⟨other, -, made⟩ := List.mem_filterMap.mp member
    obtain ⟨known, first, same⟩ := Option.map_eq_some_iff.mp made
    cases same
    exact first
  cases known : (found.select parameters).of? b.name with
  | some source => exact (selected b.name source (mem_of_of? known)).symm
  | none =>
    cases listed : found.of? b.name with
    | none => rfl
    | some source =>
      have member : (b.name, source) ∈ found.select parameters :=
        List.mem_filterMap.mpr ⟨b, declared, by rw [listed]; rfl⟩
      have present := isSome_of?.mpr (List.mem_map_of_mem member)
      simp [known] at present

namespace Matcher

def parse (ctx : PointcutContext) (expression : String) : Except ParseError Matcher :=
  (Pointcut.parse ctx expression).map (⟨·, ctx.parameters, .empty⟩)

/-- Whether some method of a type may match. -/
def couldMatch (m : Matcher) (t : HostType) : Bool :=
  m.pointcut.couldMatch t

def evaluate (m : Matcher) (candidate : Candidate) : MatchResult :=
  match m.pointcut.match? candidate with
  | some found => ⟨true, candidate.method.key, found.select m.parameters⟩
  | none => ⟨false, candidate.method.key, []⟩

/-- Matches a method on the type that declares it. -/
def matchOwn (m : Matcher) (method : Method) : MatchResult :=
  m.evaluate (.own method)

/-- Matches a method on objects of a type. -/
def matchOn (m : Matcher) (t : HostType) (method : Method) : MatchResult :=
  m.evaluate (.on t method)

def choose (m : Matcher) (method : Method) (result : MatchResult) : Matcher :=
  if result.matched then { m with shadows := m.shadows.insert method.key result.shadow } else m

def shadow? (m : Matcher) (method : Method) : Option Shadow :=
  m.shadows.get? method.key

/-- The values of the declared parameters at a call. -/
def bind (m : Matcher) (call : JoinPoint) : Except JoinPointError (List BoundParameter) :=
  match m.shadow? call.method with
  | some shadow => shadow.bind call m.parameters
  | none => .error (.missingShadow call.method.key)

/-- A new matcher has the pointcut and the parameters that it was parsed from, and no shadows. -/
theorem parts_of_parse {ctx : PointcutContext} {expression : String} {m : Matcher}
    (accepted : parse ctx expression = .ok m) :
    Pointcut.parse ctx expression = .ok m.pointcut ∧ m.parameters = ctx.parameters ∧
      m.shadows = .empty := by
  obtain ⟨found, parsed, rfl⟩ := map_eq_ok.mp accepted
  exact ⟨parsed, rfl, rfl⟩

/-- A result is a match exactly when the pointcut matches. -/
theorem matched_evaluate (m : Matcher) (candidate : Candidate) :
    (m.evaluate candidate).matched = (m.pointcut.match? candidate).isSome := by
  cases found : m.pointcut.match? candidate <;> simp [evaluate, found]

/-- A match comes with the sources that it has found for the parameters. -/
theorem shadow_of_matched {m : Matcher} {candidate : Candidate}
    (matched : (m.evaluate candidate).matched = true) :
    ∃ found, m.pointcut.match? candidate = some found ∧
      (m.evaluate candidate).shadow = ⟨candidate.method.key, found.select m.parameters⟩ := by
  rw [matched_evaluate] at matched
  obtain ⟨found, shown⟩ := Option.isSome_iff_exists.mp matched
  exact ⟨found, shown, by simp only [evaluate, shown]⟩

@[simp] theorem pointcut_choose (m : Matcher) (method : Method) (result : MatchResult) :
    (m.choose method result).pointcut = m.pointcut := by
  unfold choose
  split <;> rfl

@[simp] theorem parameters_choose (m : Matcher) (method : Method) (result : MatchResult) :
    (m.choose method result).parameters = m.parameters := by
  unfold choose
  split <;> rfl

/-- A commit is seen under the identity of its method alone. -/
theorem shadow?_choose (m : Matcher) (method probe : Method) (result : MatchResult) :
    (m.choose method result).shadow? probe =
      if result.matched ∧ probe.key = method.key then some result.shadow else m.shadow? probe := by
  unfold choose shadow?
  by_cases matched : result.matched = true
  · simp [matched, Table.get?_insert]
  · simp [matched]

/-- A result that is no match is not committed. -/
theorem choose_of_unmatched (m : Matcher) (method : Method) {result : MatchResult}
    (unmatched : result.matched = false) : m.choose method result = m := by
  simp [choose, unmatched]

/-- Committing the shadow that a method has already leaves the matcher as it is. -/
theorem choose_of_kept {m : Matcher} {method : Method} {result : MatchResult}
    (kept : m.shadow? method = some result.shadow) : m.choose method result = m := by
  unfold choose
  split
  · rw [Table.insert_of_get? kept]
  · rfl

end Matcher
end Crosscut
