import Crosscut.Matcher

/-! Sessions of commits on one matcher. Commits change nothing but shadows, so whatever is matched
in a session is matched as at its beginning. A lookup finds the last successful match that was
committed under the identity of the method, whichever method it was made for. -/
namespace Crosscut.Commits

/-- A method and the result that is committed for it. -/
abbrev Commit := Method × MatchResult

/-- The matcher after a sequence of commits. -/
def commitAll (matcher : Matcher) (commits : List Commit) : Matcher :=
  commits.foldl (fun current commit => current.choose commit.1 commit.2) matcher

/-- The shadow that the last successful commit under an identity leaves behind. -/
def last? (commits : List Commit) (key : MethodKey) : Option Shadow :=
  (commits.reverse.find? fun commit => commit.2.matched && commit.1.key = key).map (·.2.shadow)

variable {matcher : Matcher} {commits : List Commit}

@[simp] theorem pointcut_commitAll : (commitAll matcher commits).pointcut = matcher.pointcut := by
  unfold commitAll
  induction commits generalizing matcher with
  | nil => rfl
  | cons commit rest ih => exact ih.trans (Matcher.pointcut_choose ..)

@[simp] theorem parameters_commitAll :
    (commitAll matcher commits).parameters = matcher.parameters := by
  unfold commitAll
  induction commits generalizing matcher with
  | nil => rfl
  | cons commit rest ih => exact ih.trans (Matcher.parameters_choose ..)

/-- Matching sees the pointcut and the parameters of a matcher, not its shadows. -/
theorem evaluate_congr {other : Matcher} (samePointcut : matcher.pointcut = other.pointcut)
    (sameParameters : matcher.parameters = other.parameters) (c : Candidate) :
    matcher.evaluate c = other.evaluate c := by
  simp only [Matcher.evaluate, samePointcut, sameParameters]

@[simp] theorem evaluate_commitAll (c : Candidate) :
    (commitAll matcher commits).evaluate c = matcher.evaluate c :=
  evaluate_congr pointcut_commitAll parameters_commitAll c

/-- A lookup finds the last successful commit under the identity of the method. -/
theorem shadow?_commitAll (probe : Method) :
    (commitAll matcher commits).shadow? probe =
      (last? commits probe.key).or (matcher.shadow? probe) := by
  unfold commitAll
  induction commits generalizing matcher with
  | nil => rfl
  | cons commit rest ih =>
    rw [List.foldl_cons, ih, Matcher.shadow?_choose]
    simp only [last?, List.reverse_cons, List.find?_append]
    cases later : rest.reverse.find? fun commit => commit.2.matched && commit.1.key = probe.key with
    | some found => rfl
    | none =>
      by_cases hit : commit.2.matched = true ∧ probe.key = commit.1.key
      · simp [hit]
      · by_cases matched : commit.2.matched = true
        · have other : commit.1.key ≠ probe.key := fun same => hit ⟨matched, same.symm⟩
          simp [matched, other, other.symm]
        · simp [matched]

/-- A method has a shadow exactly when it had one, or a successful match was committed under its
identity. -/
theorem isSome_shadow?_commitAll (probe : Method) :
    ((commitAll matcher commits).shadow? probe).isSome = true ↔
      (∃ commit ∈ commits, commit.2.matched = true ∧ commit.1.key = probe.key) ∨
        (matcher.shadow? probe).isSome = true := by
  rw [shadow?_commitAll, Option.isSome_or, Bool.or_eq_true, last?, Option.isSome_map,
    List.find?_isSome]
  simp

/-- On a new matcher a lookup finds what the commits leave behind, and nothing else. -/
theorem shadow?_of_parse {ctx : PointcutContext} {expression : String}
    (parsed : Matcher.parse ctx expression = .ok matcher) (probe : Method) :
    (commitAll matcher commits).shadow? probe = last? commits probe.key := by
  obtain ⟨-, -, fresh⟩ := Matcher.parts_of_parse parsed
  rw [shadow?_commitAll, Matcher.shadow?, fresh, Table.get?_empty, Option.or_none]

/-- A shadow is left by the last successful commit for a method of some kind: the commits for such
methods after it are of results that are no match. -/
def LeftBy (commits : List Commit) (ofKind : Method → Prop) (shadow : Shadow) : Prop :=
  ∃ before method result after, commits = before ++ (method, result) :: after ∧
    result.matched = true ∧ ofKind method ∧ result.shadow = shadow ∧
    ∀ later ∈ after, later.2.matched = true → ¬ ofKind later.1

/-- Two kinds with the same methods among the committed ones have the same shadow left. -/
theorem LeftBy.of_agreeing {ofKind alike : Method → Prop} {shadow : Shadow}
    (left : LeftBy commits ofKind shadow)
    (agree : ∀ commit ∈ commits, (ofKind commit.1 ↔ alike commit.1)) :
    LeftBy commits alike shadow := by
  obtain ⟨before, method, result, after, rfl, matched, kind, rfl, others⟩ := left
  refine ⟨before, method, result, after, rfl, matched, ?_, rfl, ?_⟩
  · exact (agree (method, result) (by simp)).mp kind
  · intro later member successful same
    exact others later member successful ((agree later (by simp [member])).mpr same)

theorem last?_eq_some {key : MethodKey} {shadow : Shadow} :
    last? commits key = some shadow ↔ LeftBy commits (·.key = key) shadow := by
  constructor
  · intro found
    obtain ⟨commit, first, rfl⟩ := Option.map_eq_some_iff.mp found
    obtain ⟨hit, after, before, turned, missed⟩ := List.find?_eq_some_iff_append.mp first
    rw [Bool.and_eq_true, decide_eq_true_iff] at hit
    refine ⟨before.reverse, commit.1, commit.2, after.reverse, ?_, hit.1, hit.2, rfl, ?_⟩
    · rw [← List.reverse_reverse commits, turned]
      simp
    · intro later member matched same
      have other := missed later (List.mem_reverse.mp member)
      simp [matched, same] at other
  · rintro ⟨before, method, result, after, rfl, matched, rfl, rfl, others⟩
    have nothing : (after.reverse.find? fun commit =>
        commit.2.matched && commit.1.key = method.key) = none := by
      rw [List.find?_eq_none]
      intro later member
      simpa using others later (List.mem_reverse.mp member)
    simp [last?, List.find?_append, nothing, matched]

theorem last?_eq_none {key : MethodKey} :
    last? commits key = none ↔
      ∀ commit ∈ commits, commit.2.matched = true → commit.1.key ≠ key := by
  simp [last?, List.find?_eq_none]

/-- What a lookup in the commits finds is the shadow of a successful one. -/
theorem exists_of_last? {key : MethodKey} {shadow : Shadow}
    (found : last? commits key = some shadow) :
    ∃ commit ∈ commits, commit.2.matched = true ∧ commit.1.key = key ∧
      commit.2.shadow = shadow := by
  obtain ⟨before, method, result, after, rfl, matched, same, left, -⟩ := last?_eq_some.mp found
  exact ⟨(method, result), by simp, matched, same, left⟩

/-- Where all successful commits under an identity leave the same shadow, a lookup finds that one. -/
theorem last?_of_agreeing {key : MethodKey} {shadow : Shadow}
    (agree : ∀ commit ∈ commits, commit.2.matched = true → commit.1.key = key →
      commit.2.shadow = shadow)
    (present : ∃ commit ∈ commits, commit.2.matched = true ∧ commit.1.key = key) :
    last? commits key = some shadow := by
  cases found : last? commits key with
  | none =>
    obtain ⟨commit, member, matched, same⟩ := present
    exact absurd same (last?_eq_none.mp found commit member matched)
  | some left =>
    obtain ⟨commit, member, matched, same, rfl⟩ := exists_of_last? found
    exact congrArg some (agree commit member matched same)

/-- A commit stands as long as only other identities are committed after it. -/
theorem shadow?_of_standing {before after : List Commit} {method : Method} {result : MatchResult}
    (matched : result.matched = true)
    (others : ∀ commit ∈ after, commit.1.key ≠ method.key) :
    (commitAll matcher (before ++ (method, result) :: after)).shadow? method = some result.shadow := by
  have last : last? (before ++ (method, result) :: after) method.key = some result.shadow :=
    last?_eq_some.mpr ⟨before, method, result, after, rfl, matched, rfl, rfl,
      fun later member _ => others later member⟩
  rw [shadow?_commitAll, last, Option.some_or]

end Crosscut.Commits
