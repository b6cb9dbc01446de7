import Crosscut.Proofs.Weaving
import Crosscut.Resolver

/-! Types that share methods share shadows. An interceptor keeps one shadow for each identity of a
method, whichever type it was woven on. So a lookup does not tell whether the pointcut matches the
method on a given type: it tells whether it has matched a method of that identity on some type
resolved so far. The two differ for an inherited method when the pointcut asks for the type of the
object and one of the types that inherit the method matches while another does not. -/
namespace Crosscut.SharedShadows
open Weaving

/-- A question about a type, with the beans that the container shows when it is asked. -/
structure Question where
  beans : BeanScope → List Bean
  type : HostType

/-- The resolver after questions about types in a container. -/
def askAll (r : Resolver) (id : String) (questions : List Question) : Resolver :=
  questions.foldl (fun current q => (current.resolve id q.beans q.type).2) r

/-- The type of a question, if the question weaves on it: the type is not left alone, and the
interceptors of the container are known or found by a scan. -/
def wovenBy (r : Resolver) (id : String) (q : Question) : List HostType :=
  if !r.policy.skips q.type && (r.resolve id q.beans q.type).1.isOk then [q.type] else []

/-- The types on which a sequence of questions weaves. -/
def wovenTypes (r : Resolver) (id : String) : List Question → List HostType
  | [] => []
  | q :: rest => wovenBy r id q ++ wovenTypes (r.resolve id q.beans q.type).2 id rest

variable {r : Resolver} {i : Interceptor} {id : String}

theorem askAll_append (questions others : List Question) :
    askAll r id (questions ++ others) = askAll (askAll r id questions) id others :=
  List.foldl_append

theorem wovenTypes_append (questions others : List Question) :
    wovenTypes r id (questions ++ others) =
      wovenTypes r id questions ++ wovenTypes (askAll r id questions) id others := by
  induction questions generalizing r with
  | nil => rfl
  | cons q rest ih =>
    rw [List.cons_append, wovenTypes, ih, wovenTypes, List.append_assoc]
    rfl

/-- The kept list of a container after a question: what was known or found, woven on the type of
the question unless that is left alone. -/
theorem kept_ask (q : Question) :
    (r.resolve id q.beans q.type).2.cache.get? id =
      if r.policy.skips q.type then r.cache.get? id
      else (r.interceptors id q.beans).1.toOption.map (·.map (·.weave q.type)) := by
  cases skipped : r.policy.skips q.type with
  | true => simp [Resolver.resolve_of_skipped skipped]
  | false => simp [Resolver.kept_resolve skipped]

theorem wovenBy_of_skipped {q : Question} (skipped : r.policy.skips q.type = true) :
    wovenBy r id q = [] := by
  simp [wovenBy, skipped]

theorem wovenBy_of_answered {q : Question} {list : List Interceptor}
    (woven : r.policy.skips q.type = false) (known : (r.interceptors id q.beans).1 = .ok list) :
    wovenBy r id q = [q.type] := by
  simp [wovenBy, woven, Resolver.resolve_answer woven, known, Except.map, Except.isOk, Except.toBool]

theorem wovenBy_of_failed {q : Question} {e : ResolveError}
    (woven : r.policy.skips q.type = false) (known : (r.interceptors id q.beans).1 = .error e) :
    wovenBy r id q = [] := by
  simp [wovenBy, Resolver.resolve_answer woven, known, Except.map, Except.isOk, Except.toBool]

/-- A kept list stays, and its interceptors are woven on what is asked. -/
theorem kept_of_kept {list : List Interceptor} (kept : r.cache.get? id = some list)
    (questions : List Question) :
    (askAll r id questions).cache.get? id =
      some (list.map (weaveAll · (wovenTypes r id questions))) := by
  induction questions generalizing r list with
  | nil =>
    rw [askAll, List.foldl_nil, kept, wovenTypes]
    exact congrArg some (List.map_id list).symm
  | cons q rest ih =>
    have first : (r.resolve id q.beans q.type).2.cache.get? id =
        some (list.map (weaveAll · (wovenBy r id q))) := by
      have known : (r.interceptors id q.beans).1 = .ok list := by
        rw [Resolver.interceptors_answer, kept]
      cases skipped : r.policy.skips q.type with
      | true =>
        rw [kept_ask, if_pos skipped, kept, wovenBy_of_skipped skipped]
        exact congrArg some (List.map_id list).symm
      | false =>
        rw [kept_ask, if_neg (by simp [skipped]), known, wovenBy_of_answered skipped known]
        rfl
    have later := ih first
    rw [List.map_map] at later
    simp only [Function.comp_def, ← weaveAll_append] at later
    exact later

/-- A list stands for types when it comes from a scan and has been woven on them; no list stands for
no types. -/
def Standing (types : List HostType) : Option (List Interceptor) → Prop
  | none => types = []
  | some list => ∃ scanned : List Interceptor,
      (∀ i ∈ scanned, i.matcher.shadows = .empty) ∧ list = scanned.map (weaveAll · types)

theorem standing_of_clean {kept : Option (List Interceptor)}
    (clean : ∀ list, kept = some list → ∀ i ∈ list, i.matcher.shadows = .empty) :
    Standing [] kept := by
  cases kept with
  | none => rfl
  | some list => exact ⟨list, clean list rfl, (List.map_id list).symm⟩

/-- A question keeps the list standing for the types woven so far. -/
theorem standing_ask {types : List HostType} (before : Standing types (r.cache.get? id))
    (q : Question) :
    Standing (types ++ wovenBy r id q) ((r.resolve id q.beans q.type).2.cache.get? id) := by
  cases skipped : r.policy.skips q.type with
  | true =>
    rw [kept_ask, if_pos skipped, wovenBy_of_skipped skipped, List.append_nil]
    exact before
  | false =>
    rw [kept_ask, if_neg (by simp [skipped])]
    cases known : (r.interceptors id q.beans).1 with
    | error e =>
      -- Only a scan fails, so nothing was kept before it, and nothing is kept after it.
      rw [wovenBy_of_failed skipped known, List.append_nil]
      rw [Resolver.interceptors_answer] at known
      cases kept : r.cache.get? id with
      | none =>
        rw [kept] at before
        exact before
      | some list => simp [kept] at known
    | ok list =>
      rw [wovenBy_of_answered skipped known]
      rw [Resolver.interceptors_answer] at known
      cases kept : r.cache.get? id with
      | none =>
        rw [kept] at before known
        subst before
        exact ⟨list, AspectPolicy.shadows_of_scan known, rfl⟩
      | some earlier =>
        rw [kept] at before known
        cases known
        obtain ⟨scanned, clean, rfl⟩ := before
        refine ⟨scanned, clean, ?_⟩
        simp only [weaveAll_append]
        exact List.map_map

/-- Questions keep the list standing for the types woven so far. -/
theorem standing_askAll {types : List HostType} (before : Standing types (r.cache.get? id))
    (questions : List Question) :
    Standing (types ++ wovenTypes r id questions) ((askAll r id questions).cache.get? id) := by
  induction questions generalizing r types with
  | nil =>
    rw [wovenTypes, List.append_nil]
    exact before
  | cons q rest ih =>
    rw [wovenTypes, ← List.append_assoc]
    exact ih (standing_ask before q)

/-- A question that returns an interceptor weaves on its type, and the interceptor stands in the
kept list. -/
theorem kept_of_returned {q : Question} {answer : List Interceptor}
    (answered : (r.resolve id q.beans q.type).1 = .ok answer) (returned : i ∈ answer) :
    wovenBy r id q = [q.type] ∧
      ∃ list, (r.resolve id q.beans q.type).2.cache.get? id = some list ∧ i ∈ list := by
  cases skipped : r.policy.skips q.type with
  | true =>
    rw [Resolver.resolve_of_skipped skipped] at answered
    cases answered
    cases returned
  | false =>
    rw [Resolver.resolve_answer skipped] at answered
    obtain ⟨list, known, rfl⟩ := map_eq_ok.mp answered
    obtain ⟨before, applies, rfl⟩ := List.mem_map.mp returned
    refine ⟨wovenBy_of_answered skipped known, ?_⟩
    refine ⟨list.map (·.weave q.type), ?_, List.mem_map_of_mem (List.mem_filter.mp applies).1⟩
    rw [kept_ask, if_neg (by simp [skipped]), known]
    rfl

/-- If no interceptor of a container has committed anything yet, an interceptor that is returned for
a type has, after any further questions, a shadow for exactly the methods whose identity its
pointcut matches on some type woven so far. -/
theorem shadow_iff_matched_on_some_type
    (clean : ∀ list, r.cache.get? id = some list → ∀ i ∈ list, i.matcher.shadows = .empty)
    {earlier : List Question} {q : Question} {answer : List Interceptor}
    (answered : ((askAll r id earlier).resolve id q.beans q.type).1 = .ok answer)
    (returned : i ∈ answer) (later : List Question) (m : Method) :
    q.type ∈ wovenTypes r id (earlier ++ [q] ++ later) ∧
      ∃ current, (askAll r id (earlier ++ [q] ++ later)).cache.get? id = some current ∧
        ∃ now ∈ current,
          now = weaveAll i (wovenTypes (askAll r id (earlier ++ [q])) id later) ∧
          ((now.matcher.shadow? m).isSome = true ↔
            ∃ s ∈ wovenTypes r id (earlier ++ [q] ++ later), MatchesUnder i s m.key) := by
  obtain ⟨woven, list, kept, member⟩ := kept_of_returned answered returned
  have asked : askAll r id (earlier ++ [q]) = ((askAll r id earlier).resolve id q.beans q.type).2 :=
    askAll_append earlier [q]
  rw [← asked] at kept
  -- Up to this question the interceptor is one of a scan, woven on the types so far.
  have standing := standing_askAll (standing_of_clean clean) (earlier ++ [q])
  rw [kept, List.nil_append] at standing
  obtain ⟨scanned, unwoven, rfl⟩ := standing
  obtain ⟨origin, listed, rfl⟩ := List.mem_map.mp member
  have nothing : (origin.matcher.shadow? m).isSome = false := by
    rw [Matcher.shadow?, unwoven origin listed]
    rfl
  have last : wovenTypes (askAll r id earlier) id [q] = [q.type] := by
    rw [wovenTypes, woven]
    rfl
  constructor
  · simp only [wovenTypes_append, last, List.mem_append, List.mem_singleton, or_true, true_or]
  · rw [askAll_append (earlier ++ [q]), kept_of_kept kept]
    refine ⟨_, rfl, _, List.mem_map_of_mem member, rfl, ?_⟩
    rw [← weaveAll_append, ← wovenTypes_append, isSome_shadow?_weaveAll, nothing]
    simp only [matchesUnder_weaveAll, Bool.false_eq_true, or_false]

/-- A type with a method that its subtypes share. -/
def base : HostType :=
  .mk "demo.Base" 1 [] [] [⟨"shared", .bare "void", [], [.isPublic], []⟩]

def left : HostType :=
  .mk "demo.Left" 2 [] [base] []

/-- A type that has a method of its own besides the inherited one. -/
def right : HostType :=
  .mk "demo.Right" 3 [] [base] [⟨"own", .bare "void", [], [.isPublic], []⟩]

def shared : Method :=
  ⟨some base, ⟨"shared", .bare "void", [], [.isPublic], []⟩⟩

/-- An aspect whose pointcut matches everything on one of the subtypes, and the method of its own on
the other. -/
def watch : HostType :=
  .mk "demo.Watch" 4 [⟨"Aspect", []⟩] []
    [⟨"enter", .bare "void", [], [.isPublic],
      [⟨"Before", [("value", .text "target(demo.Left) || execution(* own(..))")]⟩]⟩]

def watched : BeanScope → List Bean
  | .plugin => [⟨"watch", ⟨watch, "watch"⟩⟩]
  | .global => []

def onLeft : Question := ⟨watched, left⟩

def onRight : Question := ⟨watched, right⟩

/-- The method that the other subtype inherits has a shadow, although the pointcut does not match it
there: it was woven on the first subtype. -/
theorem inherited_shadow_without_match :
    (Resolver.ofPolicy {}).isCached "plugin" = false ∧
      ∃ answer,
        ((askAll (.ofPolicy {}) "plugin" [onLeft]).resolve "plugin" watched right).1 = .ok answer ∧
        ∃ i ∈ answer, shared ∈ right.methods ∧
          ¬ ((i.matcher.shadow? shared).isSome = true ↔
            (i.matcher.matchOn right shared).matched = true) := by
  have seen : ((askAll (.ofPolicy {}) "plugin" [onLeft]).resolve "plugin" watched
      right).1.toOption.map (·.map fun i =>
        ((i.matcher.shadow? shared).isSome, (i.matcher.matchOn right shared).matched)) =
      some [(true, false)] := by
    decide +kernel
  obtain ⟨answer, answered, found⟩ := exists_ok_of_map seen
  obtain ⟨i, rest, rfl, found, -⟩ := List.map_eq_cons_iff.mp found
  obtain ⟨present, unmatched⟩ := Prod.mk.inj found
  have listed : shared ∈ right.methods := List.mem_cons_of_mem _ List.mem_cons_self
  refine ⟨rfl, _, answered, i, List.mem_cons_self, listed, ?_⟩
  simp [present, unmatched]

/-- The shadow of the inherited method after questions about both subtypes, and another about the
first one. -/
theorem inherited_shadow_from_left :
    (Resolver.ofPolicy {}).cache.get? "plugin" = none ∧
      ∃ answer,
        ((askAll (.ofPolicy {}) "plugin" [onLeft]).resolve "plugin" watched right).1 = .ok answer ∧
        ∃ i ∈ answer,
          right ∈ wovenTypes (.ofPolicy {}) "plugin" ([onLeft] ++ [onRight] ++ [onLeft]) ∧
          ∃ current, (askAll (.ofPolicy {}) "plugin"
              ([onLeft] ++ [onRight] ++ [onLeft])).cache.get? "plugin" = some current ∧
            ∃ now ∈ current,
              now = weaveAll i (wovenTypes
                (askAll (.ofPolicy {}) "plugin" ([onLeft] ++ [onRight])) "plugin" [onLeft]) ∧
              ((now.matcher.shadow? shared).isSome = true ↔
                ∃ s ∈ wovenTypes (.ofPolicy {}) "plugin" ([onLeft] ++ [onRight] ++ [onLeft]),
                  MatchesUnder i s shared.key) := by
  have seen : ((askAll (.ofPolicy {}) "plugin" [onLeft]).resolve "plugin" watched
      right).1.toOption.map List.length = some 1 := by
    decide +kernel
  obtain ⟨answer, answered, count⟩ := exists_ok_of_map seen
  obtain ⟨i, rfl⟩ := List.length_eq_one_iff.mp count
  have unknown : (Resolver.ofPolicy {}).cache.get? "plugin" = none := rfl
  have clean : ∀ list, (Resolver.ofPolicy {}).cache.get? "plugin" = some list →
      ∀ i ∈ list, i.matcher.shadows = .empty := by
    intro list kept
    rw [unknown] at kept
    cases kept
  have returned : i ∈ [i] := List.mem_singleton_self i
  exact ⟨unknown, [i], answered, i, returned,
    shadow_iff_matched_on_some_type clean (q := onRight) answered returned [onLeft] shared⟩

end Crosscut.SharedShadows
