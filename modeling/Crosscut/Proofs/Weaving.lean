import Crosscut.Interceptor
import Crosscut.Proofs.CoarseFilter
import Crosscut.Proofs.Commits

/-! Weaving an interceptor on types. It commits shadows and changes nothing else, so whatever matches
before it matches after it. The coarse question, which weaving asks first, holds back no match; hence
a shadow is left wherever the pointcut matches a method of the type. -/
namespace Crosscut.Weaving
open Commits CoarseFilter

/-- An interceptor after weaving on types. -/
def weaveAll (i : Interceptor) (types : List HostType) : Interceptor :=
  types.foldl Interceptor.weave i

/-- The pointcut of an interceptor matches a method of a type under an identity. -/
def MatchesUnder (i : Interceptor) (t : HostType) (key : MethodKey) : Prop :=
  ∃ m ∈ t.methods, m.key = key ∧ (i.matcher.matchOn t m).matched = true

variable {i : Interceptor} {t : HostType} {m : Method}

private theorem matchOn_choose {matcher : Matcher} {other : Method} {result : MatchResult} :
    (matcher.choose other result).matchOn t = matcher.matchOn t := by
  funext m
  exact evaluate_congr (Matcher.pointcut_choose ..) (Matcher.parameters_choose ..) _

/-- The matches on a type are committed one after the other, each as found at the beginning. -/
theorem matcher_commit (methods : List Method) :
    (i.commit t methods).matcher =
      commitAll i.matcher (methods.map fun m => (m, i.matcher.matchOn t m)) := by
  simp only [Interceptor.commit]
  generalize i.matcher = matcher
  induction methods generalizing matcher with
  | nil => rfl
  | cons m rest ih =>
    rw [List.foldl_cons, ih, matchOn_choose]
    rfl

theorem matchOn_weave (s : HostType) : (i.weave s).matcher.matchOn t m = i.matcher.matchOn t m := by
  unfold Interceptor.weave
  split
  · rw [matcher_commit]
    exact evaluate_commitAll _
  · rfl

theorem matchesUnder_weave {s : HostType} {key : MethodKey} :
    MatchesUnder (i.weave s) t key ↔ MatchesUnder i t key := by
  simp only [MatchesUnder, matchOn_weave]

/-- A method that matches on a type makes the interceptor apply to the type: the coarse question
never stands in the way. -/
theorem appliesTo_of_match (listed : m ∈ t.methods)
    (matched : (i.matcher.matchOn t m).matched = true) : i.appliesTo t = true := by
  have coarse : i.matcher.couldMatch t = true :=
    matched_could_match i.matcher (offered_on listed) matched
  have found : i.matchesAny t t.methods = true := List.any_eq_true.mpr ⟨m, listed, matched⟩
  rw [Interceptor.appliesTo, coarse, found]
  rfl

/-- Weaving on a type leaves a shadow exactly where there was one or the pointcut matches a method
of the type under the same identity. -/
theorem isSome_shadow?_weave :
    ((i.weave t).matcher.shadow? m).isSome = true ↔
      MatchesUnder i t m.key ∨ (i.matcher.shadow? m).isSome = true := by
  unfold Interceptor.weave
  split
  · rw [matcher_commit, isSome_shadow?_commitAll]
    apply or_congr_left
    constructor
    · rintro ⟨commit, member, matched, same⟩
      obtain ⟨other, listed, rfl⟩ := List.mem_map.mp member
      exact ⟨other, listed, same, matched⟩
    · rintro ⟨other, listed, same, matched⟩
      exact ⟨_, List.mem_map_of_mem listed, matched, same⟩
  · rename_i apart
    have nothing : ¬ MatchesUnder i t m.key := by
      rintro ⟨other, listed, -, matched⟩
      exact apart (appliesTo_of_match listed matched)
    simp only [nothing, false_or]

theorem isSome_shadow?_weaveAll (types : List HostType) :
    ((weaveAll i types).matcher.shadow? m).isSome = true ↔
      (∃ s ∈ types, MatchesUnder i s m.key) ∨ (i.matcher.shadow? m).isSome = true := by
  unfold weaveAll
  induction types generalizing i with
  | nil => simp
  | cons s rest ih =>
    rw [List.foldl_cons, ih, isSome_shadow?_weave]
    simp only [matchesUnder_weave, List.mem_cons, exists_eq_or_imp]
    rw [← or_assoc]
    exact or_congr_left or_comm

theorem matchOn_weaveAll (types : List HostType) (s : HostType) (m : Method) :
    (weaveAll i types).matcher.matchOn s m = i.matcher.matchOn s m := by
  unfold weaveAll
  induction types generalizing i with
  | nil => rfl
  | cons t rest ih => exact ih.trans (matchOn_weave t)

theorem matchesUnder_weaveAll {types : List HostType} {key : MethodKey} :
    MatchesUnder (weaveAll i types) t key ↔ MatchesUnder i t key := by
  simp only [MatchesUnder, matchOn_weaveAll]

theorem weaveAll_append (types others : List HostType) :
    weaveAll i (types ++ others) = weaveAll (weaveAll i types) others :=
  List.foldl_append

/-- An interceptor without its shadows. -/
def unwoven (i : Interceptor) : Interceptor :=
  { i with matcher := { i.matcher with shadows := .empty } }

theorem unwoven_eq {matcher : Matcher} (samePointcut : matcher.pointcut = i.matcher.pointcut)
    (sameParameters : matcher.parameters = i.matcher.parameters) :
    unwoven { i with matcher } = unwoven i := by
  simp only [unwoven, samePointcut, sameParameters]

theorem unwoven_weave (s : HostType) : unwoven (i.weave s) = unwoven i := by
  unfold Interceptor.weave
  split
  · have woven := matcher_commit (i := i) (t := s) s.methods
    apply unwoven_eq
    · exact (congrArg Matcher.pointcut woven).trans pointcut_commitAll
    · exact (congrArg Matcher.parameters woven).trans parameters_commitAll
  · rfl

/-- Interceptors that have committed nothing have no shadows to lose. -/
theorem map_unwoven_of_clean {list : List Interceptor}
    (clean : ∀ i ∈ list, i.matcher.shadows = .empty) : list.map unwoven = list := by
  have unchanged : ∀ i ∈ list, unwoven i = id i := by
    intro i member
    rw [unwoven, ← clean i member]
    rfl
  exact (List.map_congr_left unchanged).trans (List.map_id list)

end Crosscut.Weaving
