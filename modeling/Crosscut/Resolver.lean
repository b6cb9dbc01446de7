import Crosscut.Resolver.Cache
import Crosscut.Resolver.Scan

/-! The resolver finds the interceptors that apply to a type in a container. It scans a container
once and keeps the list until the container is declared stale. Weaving commits the matches on the
interceptors of the kept list, so that a later question about another type finds them there. -/
namespace Crosscut

/-- A policy and the interceptor lists found under it. -/
structure Resolver where
  policy : AspectPolicy
  cache : ScanCache (List Interceptor)

/-- The interceptors of a list that apply to a type, with their matches committed. -/
def Interceptor.woven (t : HostType) (list : List Interceptor) : List Interceptor :=
  (list.filter (·.appliesTo t)).map (·.weave t)

namespace Resolver

def ofPolicy (p : AspectPolicy) : Resolver := ⟨p, .empty⟩

/-- How far the interceptors of a container are known. -/
def state (r : Resolver) (id : String) : ScanState :=
  r.cache.state id

/-- Whether a list is kept for a container. -/
def isCached (r : Resolver) (id : String) : Bool :=
  (r.cache.get? id).isSome

def invalidate (r : Resolver) (id : String) : Resolver :=
  { r with cache := r.cache.invalidate id }

def finish (r : Resolver) (ticket : ScanTicket)
    (scanned : Except ResolveError (List Interceptor)) :
    Except ResolveError (List Interceptor) × Resolver :=
  ((r.cache.finish ticket scanned).1, { r with cache := (r.cache.finish ticket scanned).2 })

/-- The interceptors of a container: the kept list, or what a scan of the beans finds. -/
def interceptors (r : Resolver) (id : String) (beans : BeanScope → List Bean) :
    Except ResolveError (List Interceptor) × Resolver :=
  match r.cache.get? id with
  | some list => (.ok list, r)
  | none =>
    { r with cache := (r.cache.begin id).2 }.finish (r.cache.begin id).1 (r.policy.scan beans)

/-- Weaves interceptors that were found for a container on a type. The matches are committed on the
interceptors that were found; these are the kept ones, unless the container was declared stale while
they were looked for. -/
def weave (r : Resolver) (id : String) (t : HostType) (current : Bool)
    (found : Except ResolveError (List Interceptor)) :
    Except ResolveError (List Interceptor) × Resolver :=
  match found with
  | .error e => (.error e, r)
  | .ok list =>
    (.ok (Interceptor.woven t list),
      if current then { r with cache := r.cache.update id (·.map (·.weave t)) } else r)

/-- Whether a container has not been declared stale since an earlier time. -/
def isCurrent (r earlier : Resolver) (id : String) : Bool :=
  r.cache.generation id == earlier.cache.generation id

/-- The interceptors of a container that apply to a type. Aspects are left alone unless the policy
says otherwise; the container is then not scanned. -/
def resolve (r : Resolver) (id : String) (beans : BeanScope → List Bean) (t : HostType) :
    Except ResolveError (List Interceptor) × Resolver :=
  if r.policy.skips t then (.ok [], r)
  else
    match r.interceptors id beans with
    | (found, after) => after.weave id t (after.isCurrent r id) found

variable {r : Resolver} {id : String} {beans : BeanScope → List Bean} {t : HostType}

/-- A container is answered for with the kept list, and scanned when there is none. -/
theorem interceptors_answer (r : Resolver) (id : String) (beans : BeanScope → List Bean) :
    (r.interceptors id beans).1 =
      match r.cache.get? id with
      | some list => .ok list
      | none => r.policy.scan beans := by
  unfold interceptors
  cases known : r.cache.get? id with
  | some list => rfl
  | none => exact (ScanCache.finish_begin known (r.policy.scan beans)).1

/-- The answer about a container is kept, and nothing else changes. -/
theorem kept_interceptors (probe : String) :
    (r.interceptors id beans).2.cache.get? probe =
      if probe = id then (r.interceptors id beans).1.toOption else r.cache.get? probe := by
  unfold interceptors
  cases known : r.cache.get? id with
  | some list =>
    by_cases same : probe = id
    · subst same
      simp [known, Except.toOption]
    · simp [same]
  | none =>
    obtain ⟨answer, kept⟩ := ScanCache.finish_begin known (r.policy.scan beans)
    simp only [finish, answer, kept]

@[simp] theorem policy_interceptors : (r.interceptors id beans).2.policy = r.policy := by
  unfold interceptors
  split <;> rfl

/-- A scan that nothing interrupts does not make its container stale. -/
@[simp] theorem isCurrent_interceptors (probe : String) :
    (r.interceptors id beans).2.isCurrent r probe = true := by
  unfold interceptors isCurrent
  split
  · simp
  · exact beq_iff_eq.mpr (ScanCache.generation_finish _ _ _ _)

/-- Resolving weaves what is kept for the container by then. -/
theorem resolve_of_woven (woven : r.policy.skips t = false) :
    r.resolve id beans t =
      (r.interceptors id beans).2.weave id t true (r.interceptors id beans).1 := by
  simp [resolve, woven]

@[simp] theorem policy_resolve : (r.resolve id beans t).2.policy = r.policy := by
  cases skipped : r.policy.skips t with
  | true => simp [resolve, skipped]
  | false =>
    simp only [resolve_of_woven skipped, weave]
    cases (r.interceptors id beans).1 <;> exact policy_interceptors

/-- A type that is left alone has no interceptors, and nothing is scanned for it. -/
theorem resolve_of_skipped (skipped : r.policy.skips t = true) :
    r.resolve id beans t = (.ok [], r) := by
  simp [resolve, skipped]

/-- A type that is not left alone is answered for with the interceptors that apply to it. -/
theorem resolve_answer (woven : r.policy.skips t = false) :
    (r.resolve id beans t).1 = (r.interceptors id beans).1.map (Interceptor.woven t) := by
  simp only [resolve_of_woven woven, weave]
  cases (r.interceptors id beans).1 <;> rfl

/-- Weaving on a type changes the interceptors of the kept list, and nothing else. -/
theorem kept_resolve (woven : r.policy.skips t = false) (probe : String) :
    (r.resolve id beans t).2.cache.get? probe =
      if probe = id then (r.interceptors id beans).1.toOption.map (·.map (·.weave t))
      else r.cache.get? probe := by
  simp only [resolve_of_woven woven, weave]
  cases answer : (r.interceptors id beans).1 with
  | error e =>
    simp only [kept_interceptors, answer]
    rfl
  | ok list =>
    simp only [↓reduceIte, ScanCache.get?_update, kept_interceptors, answer]
    by_cases same : probe = id
    · simp [same, Except.toOption]
    · simp [same]

end Resolver
end Crosscut
