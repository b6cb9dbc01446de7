import Crosscut.Resolver.Scan
import Crosscut.Settings.Validation
import Mathlib.Data.List.Nodup

/-! What the checks on a vocabulary are for: an annotation should mark one kind of advice only, and the
plain handle on a call should not pass for the one that lets the call proceed. The checks compare the
names as they are written. Annotations and types go by their last segments as well, as soon as one of
the names has no other, so the names of an accepted vocabulary may still clash. They do not exactly if
the last segments differ. -/
namespace Crosscut.VocabularyClashes
open Annotation (sameName_iff)

/-- Reading a signature takes a first parameter of the type for the handle that lets the call proceed:
around advice is accepted with it, or advice of another kind is refused because of it. -/
def TakenForProceeding (v : Vocabulary) (t : HostType) : Prop :=
  ∃ (a : Annotation) (m : Method), m.parameters.head?.map (·.type) = some t ∧
    ((∃ s, AdviceSignature.derive v .around a m = .ok s) ∨
      ∃ kind, AdviceSignature.derive v kind a m = .error (.proceedingJoinPointNotAllowed kind m.key))

/-- No annotation marks two kinds of advice, none makes an aspect two advices of different kinds, and a
type of the name of the plain handle is not taken for the other one unless a supertype is. -/
structure Unambiguous (p : AspectPolicy) : Prop where
  oneKind : ∀ (a : Annotation) (kind other : AdviceKind),
    a.isNamed (p.vocabulary.adviceName kind) = true →
    a.isNamed (p.vocabulary.adviceName other) = true → kind = other
  oneAdvice : ∀ (t : HostType) (m : Method) (a : Annotation) (kind other : AdviceKind),
    (m, kind, a) ∈ p.advices t → (m, other, a) ∈ p.advices t → kind = other
  plainHandle : ∀ t : HostType, t.supertypes = [] → t.name = p.vocabulary.joinPoint →
    ¬ TakenForProceeding p.vocabulary t

variable {v : Vocabulary} {p : AspectPolicy}

/-- Which annotations go by two different names: those of a last segment that both names share, if the
annotation has no other, or is one of the names while the other name has no other. -/
theorem isNamed_both_iff {name other : String} (differ : name ≠ other) (a : Annotation) :
    a.isNamed name = true ∧ a.isNamed other = true ↔
      Text.simpleName name = Text.simpleName other ∧
      Text.simpleName a.typeName = Text.simpleName name ∧
      (Text.isQualified a.typeName = false ∨
        (a.typeName = name ∧ Text.isQualified other = false) ∨
        (a.typeName = other ∧ Text.isQualified name = false)) := by
  unfold Annotation.isNamed
  rw [sameName_iff, sameName_iff]
  constructor
  · rintro ⟨rfl | ⟨plain, same⟩, rfl | ⟨plain', same'⟩⟩
    · exact absurd rfl differ
    · refine ⟨same', rfl, ?_⟩
      rcases plain' with here | there
      · exact .inl here
      · exact .inr (.inl ⟨rfl, there⟩)
    · refine ⟨same.symm, same, ?_⟩
      rcases plain with here | there
      · exact .inl here
      · exact .inr (.inr ⟨rfl, there⟩)
    · refine ⟨same.symm.trans same', same, ?_⟩
      by_cases here : Text.isQualified a.typeName = false
      · exact .inl here
      · have first := plain.resolve_left here
        have second := plain'.resolve_left here
        have equal : name = other := by
          rw [← Text.simpleName_of_unqualified first, ← Text.simpleName_of_unqualified second]
          exact same.symm.trans same'
        exact absurd equal differ
  · rintro ⟨shared, same, here | ⟨rfl, there⟩ | ⟨rfl, there⟩⟩
    · exact ⟨.inr ⟨.inl here, same⟩, .inr ⟨.inl here, same.trans shared⟩⟩
    · exact ⟨.inl rfl, .inr ⟨.inr there, shared⟩⟩
    · exact ⟨.inr ⟨.inr there, same⟩, .inl rfl⟩

/-- An advice is listed under a kind whose name its annotation goes by. -/
theorem isNamed_of_advices {t : HostType} {m : Method} {kind : AdviceKind} {a : Annotation}
    (listed : (m, kind, a) ∈ p.advices t) : a.isNamed (p.vocabulary.adviceName kind) = true := by
  obtain ⟨method, -, inside⟩ := List.mem_flatMap.mp listed
  obtain ⟨k, -, made⟩ := List.mem_filterMap.mp inside
  obtain ⟨marker, found, same⟩ := Option.map_eq_some_iff.mp made
  cases same
  exact Annotation.isNamed_of_first? found

theorem startsWith_of_head {m : Method} {t : HostType} (first : m.parameters.head?.map (·.type) = some t)
    (name : String) : AdviceSignature.startsWith m name = t.goesBy name := by
  obtain ⟨parameter, here, rfl⟩ := Option.map_eq_some_iff.mp first
  rw [AdviceSignature.startsWith, here]
  rfl

/-- Only a first parameter that goes by the name of the handle that lets the call proceed is refused. -/
theorem startsWith_of_refused {a : Annotation} {m : Method} {kind : AdviceKind}
    (refused : AdviceSignature.derive v kind a m = .error (.proceedingJoinPointNotAllowed kind m.key)) :
    AdviceSignature.startsWith m v.proceedingJoinPoint = true := by
  unfold AdviceSignature.derive at refused
  split at refused
  · cases refused
  · split at refused
    · rename_i e unfit
      cases refused
      unfold AdviceSignature.takesJoinPoint at unfit
      dsimp only at unfit
      split at unfit
      · split at unfit <;> cases unfit
      · split at unfit
        · assumption
        · cases unfit
    · split at refused
      · rename_i e unlisted
        cases refused
        unfold AdviceSignature.listed at unlisted
        dsimp only at unlisted
        split at unlisted <;> cases unlisted
      · split at refused
        · rename_i e unknown
          cases refused
          unfold AdviceSignature.reservation at unknown
          split at unknown
          · cases unknown
          · split at unknown
            · cases unknown
            · split at unknown <;> cases unknown
        · cases refused

/-- A first parameter is taken for the handle that lets the call proceed exactly if its type goes by
the name of that handle. -/
theorem takenForProceeding_iff {t : HostType} :
    TakenForProceeding v t ↔ t.goesBy v.proceedingJoinPoint = true := by
  constructor
  · rintro ⟨a, m, first, ⟨s, derived⟩ | ⟨kind, refused⟩⟩
    · rw [← startsWith_of_head first]
      cases proceeding : AdviceSignature.startsWith m v.proceedingJoinPoint with
      | true => rfl
      | false =>
        unfold AdviceSignature.derive at derived
        split at derived
        · cases derived
        · simp [AdviceSignature.takesJoinPoint, proceeding] at derived
    · rw [← startsWith_of_head first]
      exact startsWith_of_refused refused
  · intro goes
    let a : Annotation := ⟨"", [("value", .text "args(..)")]⟩
    let m : Method := ⟨none, ⟨"", .bare "void", [⟨"", t, []⟩], [], []⟩⟩
    have text : AdviceSignature.pointcutText? a = some "args(..)" := by decide +kernel
    have starts : AdviceSignature.startsWith m v.proceedingJoinPoint = true := by
      rw [startsWith_of_head rfl, goes]
    refine ⟨a, m, rfl, .inr ⟨.before, ?_⟩⟩
    unfold AdviceSignature.derive AdviceSignature.takesJoinPoint
    simp [text, starts]

/-- A type without supertypes goes by its own name, and by its last segment. -/
theorem goesBy_iff {t : HostType} (alone : t.supertypes = []) {name : String} :
    t.goesBy name = true ↔
      t.name = name ∨ (Text.isQualified name = false ∧ Text.simpleName t.name = name) := by
  have single : t.hierarchy = [t] := by rw [HostType.hierarchy_eq, alone, List.flatMap_nil]
  rw [HostType.goesBy, HostType.anyName_eq, single]
  simp

theorem validate_of_sound {s : Settings} (sound : s.fault? = none) : s.validate = .ok s := by
  rw [Settings.validate, sound]

/-- The names of accepted settings differ as they are written. -/
theorem names_of_accepted {s checked : Settings} (accepted : s.validate = .ok checked) :
    checked.weaving.vocabulary.adviceNames.Nodup ∧
      checked.weaving.vocabulary.joinPoint ≠ checked.weaving.vocabulary.proceedingJoinPoint := by
  unfold Settings.validate at accepted
  split at accepted
  · cases accepted
  · rename_i sound
    cases accepted
    have clean : s.weaving.vocabulary.fault? = none := (Option.or_eq_none_iff.mp sound).2
    unfold Vocabulary.fault? at clean
    split at clean
    · cases clean
    · split at clean
      · cases clean
      · rename_i distinct
        split at clean
        · cases clean
        · rename_i differ
          exact ⟨(firstRepeated?_eq_none.mp distinct).1, differ⟩

theorem nodup_map_adviceNames {α : Type} (view : String → α) :
    (v.adviceNames.map view).Nodup ↔
      ∀ kind other, view (v.adviceName kind) = view (v.adviceName other) → kind = other := by
  have kinds : AdviceKind.all.Nodup := by decide
  rw [Vocabulary.adviceNames, List.map_map, List.nodup_map_iff_inj_on kinds]
  exact ⟨fun inj kind other => inj kind kind.mem_all other other.mem_all,
    fun inj kind _ other _ => inj kind other⟩

/-- Accepted names do what they are checked for exactly if they still differ when they are cut to
their last segments: those of the advice annotations among each other, and that of the plain handle
from the name of the other one, if this has no other segment. -/
theorem unambiguous_iff_simple_names_differ {s checked : Settings}
    (accepted : s.validate = .ok checked) :
    Unambiguous checked.weaving ↔
      (checked.weaving.vocabulary.adviceNames.map Text.simpleName).Nodup ∧
      (Text.isQualified checked.weaving.vocabulary.proceedingJoinPoint = false →
        Text.simpleName checked.weaving.vocabulary.joinPoint ≠
          checked.weaving.vocabulary.proceedingJoinPoint) := by
  obtain ⟨distinct, handles⟩ := names_of_accepted accepted
  rw [nodup_map_adviceNames]
  constructor
  · intro clear
    constructor
    · intro kind other shared
      by_contra differ
      have names : checked.weaving.vocabulary.adviceName kind ≠
          checked.weaving.vocabulary.adviceName other := by
        intro same
        have inj := (nodup_map_adviceNames id).mp (by rwa [List.map_id])
        exact differ (inj kind other same)
      -- the annotation that is written as the shared last segment goes by both names
      let a : Annotation := ⟨Text.simpleName (checked.weaving.vocabulary.adviceName kind), []⟩
      have plain : Text.isQualified a.typeName = false := Text.isQualified_simpleName _
      have cut := Text.simpleName_of_unqualified plain
      obtain ⟨first, second⟩ := (isNamed_both_iff names a).mpr ⟨shared, cut, .inl plain⟩
      exact differ (clear.oneKind a kind other first second)
    · intro plain same
      have goes : (HostType.bare checked.weaving.vocabulary.joinPoint).goesBy
          checked.weaving.vocabulary.proceedingJoinPoint = true :=
        (goesBy_iff rfl).mpr (.inr ⟨plain, same⟩)
      exact clear.plainHandle _ rfl rfl (takenForProceeding_iff.mpr goes)
  · rintro ⟨shared, handle⟩
    have oneKind : ∀ (a : Annotation) (kind other : AdviceKind),
        a.isNamed (checked.weaving.vocabulary.adviceName kind) = true →
        a.isNamed (checked.weaving.vocabulary.adviceName other) = true → kind = other := by
      intro a kind other first second
      by_cases same : checked.weaving.vocabulary.adviceName kind =
          checked.weaving.vocabulary.adviceName other
      · exact shared kind other (by rw [same])
      · exact shared kind other ((isNamed_both_iff same a).mp ⟨first, second⟩).1
    refine ⟨oneKind, ?_, ?_⟩
    · intro t m a kind other listed listed'
      exact oneKind a kind other (isNamed_of_advices listed) (isNamed_of_advices listed')
    · intro t alone named taken
      rcases (goesBy_iff alone).mp (takenForProceeding_iff.mp taken) with same | ⟨plain, same⟩
      · exact handles (named.symm.trans same)
      · rw [named] at same
        exact handle plain same

/-- Names of one package whose last segments differ. -/
def packaged : Settings where
  weaving := { vocabulary := {
    before := "demo.advice.Before"
    after := "demo.advice.After"
    afterReturning := "demo.advice.AfterReturning"
    afterThrowing := "demo.advice.AfterThrowing"
    around := "demo.advice.Around"
    joinPoint := "demo.advice.JoinPoint"
    proceedingJoinPoint := "demo.advice.ProceedingJoinPoint" } }

/-- The names of the package are accepted, and each annotation marks one kind of advice. -/
theorem packaged_names_are_unambiguous :
    packaged.validate = .ok packaged ∧ Unambiguous packaged.weaving := by
  have accepted : packaged.validate = .ok packaged := validate_of_sound (by decide +kernel)
  have distinct : (packaged.weaving.vocabulary.adviceNames.map Text.simpleName).Nodup := by
    decide +kernel
  have apart : Text.simpleName packaged.weaving.vocabulary.joinPoint ≠
      packaged.weaving.vocabulary.proceedingJoinPoint := by
    decide +kernel
  exact ⟨accepted, (unambiguous_iff_simple_names_differ accepted).mpr ⟨distinct, fun _ => apart⟩⟩

/-- Names of two packages, two of which end alike, and a plain handle that ends like the other one. -/
def clashing : Settings where
  weaving := { vocabulary := {
    before := "org.a.Advice"
    after := "org.b.Advice"
    joinPoint := "org.a.ProceedingJoinPoint" } }

/-- An annotation that is written without a package. -/
def advice : Annotation := ⟨"Advice", [("value", .text "args(..)")]⟩

/-- An aspect with one method, under the one annotation. -/
def audit : HostType :=
  .mk "demo.Audit" 1 [⟨"Aspect", []⟩] [] [⟨"enter", .bare "void", [], [.isPublic], [advice]⟩]

/-- The names of two packages are accepted, though one annotation makes an aspect two advices of
different kinds, and though advice that takes the plain handle is refused for the other one. -/
theorem accepted_names_clash :
    clashing.validate = .ok clashing ∧
      ((clashing.weaving.advices audit).map fun (m, kind, a) => (m.name, kind, a.typeName)) =
        [("enter", .before, "Advice"), ("enter", .after, "Advice")] ∧
      TakenForProceeding clashing.weaving.vocabulary
        (.bare clashing.weaving.vocabulary.joinPoint) ∧
      ¬ Unambiguous clashing.weaving := by
  have accepted : clashing.validate = .ok clashing := validate_of_sound (by decide +kernel)
  have twice : ((clashing.weaving.advices audit).map fun (m, kind, a) => (m.name, kind, a.typeName)) =
      [("enter", .before, "Advice"), ("enter", .after, "Advice")] := by
    decide +kernel
  have goes : (HostType.bare clashing.weaving.vocabulary.joinPoint).goesBy
      clashing.weaving.vocabulary.proceedingJoinPoint = true := by
    decide +kernel
  have taken := takenForProceeding_iff.mpr goes
  refine ⟨accepted, twice, taken, ?_⟩
  intro clear
  have same := clear.oneKind advice .before .after (by decide +kernel) (by decide +kernel)
  cases same

/-- Names without packages are clear as soon as they are accepted. -/
theorem accepted_simple_names_are_unambiguous {s checked : Settings}
    (accepted : s.validate = .ok checked)
    (simple : ∀ name ∈ checked.weaving.vocabulary.joinPoint :: checked.weaving.vocabulary.adviceNames,
      Text.isQualified name = false) : Unambiguous checked.weaving := by
  obtain ⟨distinct, handles⟩ := names_of_accepted accepted
  rw [unambiguous_iff_simple_names_differ accepted]
  constructor
  · have same : checked.weaving.vocabulary.adviceNames.map Text.simpleName =
        checked.weaving.vocabulary.adviceNames := by
      have each : ∀ name ∈ checked.weaving.vocabulary.adviceNames, Text.simpleName name = id name := by
        intro name member
        exact Text.simpleName_of_unqualified (simple name (List.mem_cons_of_mem _ member))
      rw [List.map_congr_left each, List.map_id]
    rwa [same]
  · intro _ equal
    rw [Text.simpleName_of_unqualified (simple _ List.mem_cons_self)] at equal
    exact handles equal

end Crosscut.VocabularyClashes
