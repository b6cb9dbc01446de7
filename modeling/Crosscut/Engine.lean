import Crosscut.Registry
import Crosscut.Resolver

/-! The engine keeps the containers of a registry and the interceptor lists of a resolver in step:
whatever changes the beans that a container shows declares its list stale. -/
namespace Crosscut

/-- A registry and the resolver of its containers. -/
structure Engine where
  registry : Registry
  resolver : Resolver

/-- Why the engine refuses an operation. -/
inductive EngineError where
  | registry (error : RegistryError)
  | resolve (error : ResolveError)
deriving DecidableEq, Repr

def EngineError.message : EngineError → String
  | .registry error => error.message
  | .resolve error => error.message

/-- The counts of the registry, and the number of containers whose list is kept. -/
structure EngineStats where
  registry : RegistryStats
  cached : Nat
deriving DecidableEq, Repr

def EngineStats.text (s : EngineStats) : String :=
  s!"{s.registry.text}, {s.cached} cached"

namespace Engine

def ofPolicy (p : AspectPolicy) : Engine := ⟨.empty, .ofPolicy p⟩

def invalidate (e : Engine) (id : String) : Engine :=
  { e with resolver := e.resolver.invalidate id }

/-- The ids of all containers, the shared one first. -/
def containerIds (e : Engine) : List String :=
  sharedContainerId :: e.registry.ids

def invalidateAll (e : Engine) : Engine :=
  e.containerIds.foldl invalidate e

/-- The engine after an operation of the registry. If the operation succeeds, the kept lists are
brought in step. -/
def settle {α : Type} (e : Engine) (done : Except RegistryError α × Registry)
    (inStep : Engine → Engine) : Except RegistryError Unit × Engine :=
  match done with
  | (.error error, registry) => (.error error, { e with registry })
  | (.ok _, registry) => (.ok (), inStep { e with registry })

def create (e : Engine) (id : String) : Except RegistryError ContainerView × Engine :=
  match e.registry.create id with
  | (result, registry) => (result, { e with registry })

def remove (e : Engine) (id : String) : Except RegistryError Unit × Engine :=
  e.settle (e.registry.remove id) (·.invalidate id)

/-- Registers a shared bean, which every container shows. -/
def registerShared (e : Engine) (bean : Bean) : Except RegistryError Unit × Engine :=
  e.settle (e.registry.registerShared bean) invalidateAll

def register (e : Engine) (id : String) (bean : Bean) : Except RegistryError Unit × Engine :=
  if id = sharedContainerId then e.registerShared bean
  else e.settle (e.registry.register id bean) (·.invalidate id)

/-- Runs a question of the resolver about a container. -/
def consult (e : Engine) (id : String)
    (question : Resolver → (BeanScope → List Bean) →
      Except ResolveError (List Interceptor) × Resolver) :
    Except EngineError (List Interceptor) × Engine :=
  match e.registry.view? id with
  | none => (.error (.registry (.containerNotFound id)), e)
  | some view =>
    match question e.resolver view.beans with
    | (.error error, resolver) => (.error (.resolve error), { e with resolver })
    | (.ok found, resolver) => (.ok found, { e with resolver })

/-- The interceptors of every aspect that a container shows. -/
def interceptors (e : Engine) (id : String) : Except EngineError (List Interceptor) × Engine :=
  e.consult id fun resolver beans => resolver.interceptors id beans

/-- The interceptors that apply to a type in a container. -/
def resolve (e : Engine) (id : String) (t : HostType) :
    Except EngineError (List Interceptor) × Engine :=
  e.consult id fun resolver beans => resolver.resolve id beans t

/-- The interceptors that run at a call for an outcome. -/
def intercepting (e : Engine) (id : String) (call : JoinPoint) (outcome : Option Outcome) :
    Except EngineError (List Interceptor) × Engine :=
  match e.resolve id call.target.type with
  | (.error error, after) => (.error error, after)
  | (.ok woven, after) => (.ok (woven.filter (·.accepts outcome)), after)

/-- The counts of the registry, and the number of containers whose list is kept. -/
def stats (e : Engine) : EngineStats :=
  ⟨e.registry.stats, e.containerIds.countP (e.resolver.state · = .cached)⟩

/-- A question about an unknown container is refused, and changes nothing. -/
theorem consult_of_unknown {e : Engine} {id : String} (unknown : e.registry.view? id = none)
    (question : Resolver → (BeanScope → List Bean) →
      Except ResolveError (List Interceptor) × Resolver) :
    e.consult id question = (.error (.registry (.containerNotFound id)), e) := by
  simp [consult, unknown]

/-- A question about a known container is answered by the resolver, for the beans it shows. -/
theorem consult_of_known {e : Engine} {id : String} {view : ContainerView}
    (known : e.registry.view? id = some view)
    (question : Resolver → (BeanScope → List Bean) →
      Except ResolveError (List Interceptor) × Resolver) :
    e.consult id question =
      ((question e.resolver view.beans).1.mapError .resolve,
        { e with resolver := (question e.resolver view.beans).2 }) := by
  simp only [consult, known]
  split <;> rename_i same <;> rw [same] <;> rfl

private theorem kept_foldl_invalidate (ids : List String) (e : Engine) (probe : String) :
    (ids.foldl invalidate e).resolver.cache.get? probe =
      if probe ∈ ids then none else e.resolver.cache.get? probe := by
  induction ids generalizing e with
  | nil => simp
  | cons id rest ih =>
    rw [List.foldl_cons, ih]
    simp only [invalidate, Resolver.invalidate, ScanCache.get?_invalidate, List.mem_cons]
    by_cases here : probe = id
    · simp [here]
    · simp [here]

/-- No list of a container is kept when all are declared stale. -/
theorem kept_invalidateAll (e : Engine) (probe : String) :
    e.invalidateAll.resolver.cache.get? probe =
      if probe ∈ e.containerIds then none else e.resolver.cache.get? probe :=
  kept_foldl_invalidate e.containerIds e probe

theorem invalidateAll_frame (e : Engine) :
    e.invalidateAll.registry = e.registry ∧
      e.invalidateAll.resolver.policy = e.resolver.policy := by
  unfold invalidateAll
  generalize e.containerIds = ids
  induction ids generalizing e with
  | nil => exact ⟨rfl, rfl⟩
  | cons id rest ih => exact ih (e.invalidate id)

end Engine
end Crosscut
