import Crosscut.Engine
import Crosscut.Proofs.RegistryHistory
import Crosscut.Proofs.Weaving

/-! The lists that an engine keeps never go stale. Whatever is asked of the engine, and whether or
not it is refused, a kept list belongs to a container that exists and holds what a scan of the beans
that are registered for it would find; only the shadows that weaving has left in it are more than that.
An operation that changes what a container shows drops its list, and a container that comes after a
removed one of the same id finds no list of its predecessor. -/
namespace Crosscut.CacheCoherence
open RegistryHistory Weaving

/-- What can be asked of an engine. -/
inductive Operation where
  | create (id : String)
  | remove (id : String)
  | register (id : String) (bean : Bean)
  | registerShared (bean : Bean)
  | interceptors (id : String)
  | resolve (id : String) (type : HostType)
  | invalidateAll

/-- What an operation does to the registry, if anything. -/
def Operation.change? : Operation → Option Change
  | .create id => some (.create id)
  | .remove id => some (.remove id)
  | .register id bean => some (.register id bean)
  | .registerShared bean => some (.registerShared bean)
  | .interceptors _ | .resolve _ _ | .invalidateAll => none

/-- The engine after an operation, whether or not the operation is refused. -/
def perform (e : Engine) : Operation → Engine
  | .create id => (e.create id).2
  | .remove id => (e.remove id).2
  | .register id bean => (e.register id bean).2
  | .registerShared bean => (e.registerShared bean).2
  | .interceptors id => (e.interceptors id).2
  | .resolve id t => (e.resolve id t).2
  | .invalidateAll => e.invalidateAll

/-- The engine of a policy after a sequence of operations. -/
def performAll (p : AspectPolicy) (operations : List Operation) : Engine :=
  operations.foldl perform (.ofPolicy p)

/-- What a sequence of operations has registered. -/
def registeredBy (operations : List Operation) : Registry :=
  run (operations.filterMap (·.change?))

/-- The engine has a policy, and every kept list is that of an existing container: what a scan of it
finds, but for the shadows. -/
structure Coherent (p : AspectPolicy) (e : Engine) : Prop where
  policy : e.resolver.policy = p
  kept : ∀ id list, e.resolver.cache.get? id = some list →
    ∃ view, e.registry.view? id = some view ∧ p.scan view.beans = .ok (list.map unwoven)

variable {p : AspectPolicy} {e changed : Engine} {id : String}

theorem coherent_ofPolicy (p : AspectPolicy) : Coherent p (.ofPolicy p) where
  policy := rfl
  kept := by
    intro id list kept
    cases kept

/-- An engine stays coherent as long as the containers whose lists are still kept show the same. -/
theorem coherent_of_still (coherent : Coherent p e)
    (policy : changed.resolver.policy = e.resolver.policy)
    (still : ∀ id list, changed.resolver.cache.get? id = some list →
      e.resolver.cache.get? id = some list ∧ changed.registry.view? id = e.registry.view? id) :
    Coherent p changed where
  policy := policy.trans coherent.policy
  kept := by
    intro id list kept
    obtain ⟨before, same⟩ := still id list kept
    rw [same]
    exact coherent.kept id list before

theorem mem_containerIds_of_kept (coherent : Coherent p e) {list : List Interceptor}
    (kept : e.resolver.cache.get? id = some list) : id ∈ e.containerIds := by
  obtain ⟨view, known, -⟩ := coherent.kept id list kept
  exact Registry.view?_isSome.mp (by rw [known]; rfl)

/-- A created container has no list, because there was no container of its id. -/
theorem coherent_create (coherent : Coherent p e) (id : String) : Coherent p (e.create id).2 := by
  refine coherent_of_still coherent rfl fun probe list kept => ⟨kept, ?_⟩
  change (e.registry.create id).2.view? probe = e.registry.view? probe
  cases answer : (e.registry.create id).1 with
  | error _ => rw [Registry.create_of_error answer]
  | ok _ =>
    refine Registry.view?_create ?_
    -- A list that was kept under the new id would have had a container.
    rintro rfl
    obtain ⟨view, known, -⟩ := coherent.kept probe list kept
    rw [Registry.view?_of_create answer] at known
    cases known

/-- An operation of the registry keeps coherence if it does so whenever it succeeds. -/
theorem coherent_settle {α : Type} {done : Except RegistryError α × Registry} {inStep : Engine → Engine}
    (coherent : Coherent p e)
    (refused : ∀ {error}, done.1 = .error error → done.2 = e.registry)
    (settled : Coherent p (inStep { e with registry := done.2 })) :
    Coherent p (e.settle done inStep).2 := by
  obtain ⟨answer, registry⟩ := done
  cases answer with
  | error error =>
    have same : registry = e.registry := refused rfl
    rw [Engine.settle, same]
    exact coherent
  | ok _ => exact settled

/-- A change of one container keeps coherence when the list of that container is dropped. -/
theorem coherent_of_invalidate (coherent : Coherent p e) {registry : Registry}
    (others : ∀ probe, probe ≠ id → registry.view? probe = e.registry.view? probe) :
    Coherent p ({ e with registry }.invalidate id) := by
  refine coherent_of_still coherent rfl fun probe list kept => ?_
  simp only [Engine.invalidate, Resolver.invalidate, ScanCache.get?_invalidate] at kept
  by_cases same : probe = id
  · rw [if_pos same] at kept
    cases kept
  · rw [if_neg same] at kept
    exact ⟨kept, others probe same⟩

theorem coherent_remove (coherent : Coherent p e) (id : String) : Coherent p (e.remove id).2 :=
  coherent_settle coherent Registry.remove_of_error
    (coherent_of_invalidate coherent fun _ => Registry.view?_remove)

/-- Without any kept list an engine is coherent, whatever its containers show. -/
theorem coherent_invalidateAll {registry : Registry} (coherent : Coherent p e)
    (ids : registry.ids = e.registry.ids) : Coherent p { e with registry }.invalidateAll := by
  obtain ⟨-, policy⟩ := Engine.invalidateAll_frame { e with registry }
  refine coherent_of_still coherent policy fun probe list kept => ?_
  rw [Engine.kept_invalidateAll] at kept
  split at kept
  · cases kept
  · -- The ids that are gone through are those of the old containers, and only they had lists.
    rename_i unlisted
    have listed : probe ∈ e.containerIds := mem_containerIds_of_kept coherent kept
    simp only [Engine.containerIds, ids] at unlisted listed
    exact absurd listed unlisted

theorem coherent_registerShared (coherent : Coherent p e) (bean : Bean) :
    Coherent p (e.registerShared bean).2 :=
  coherent_settle coherent Registry.registerShared_of_error
    (coherent_invalidateAll coherent Registry.ids_registerShared)

theorem coherent_register (coherent : Coherent p e) (id : String) (bean : Bean) :
    Coherent p (e.register id bean).2 := by
  unfold Engine.register
  split
  · exact coherent_registerShared coherent bean
  · rename_i own
    exact coherent_settle coherent Registry.register_of_error
      (coherent_of_invalidate coherent fun _ => Registry.view?_register own)

/-- What is known of an existing container is what a scan finds, but for the shadows. -/
theorem known_interceptors (coherent : Coherent p e) {view : ContainerView}
    (known : e.registry.view? id = some view) :
    (e.resolver.interceptors id view.beans).1.map (·.map unwoven) = p.scan view.beans := by
  rw [Resolver.interceptors_answer, coherent.policy]
  cases kept : e.resolver.cache.get? id with
  | some list =>
    obtain ⟨same, shown, scanned⟩ := coherent.kept id list kept
    rw [known] at shown
    cases shown
    exact scanned.symm
  | none =>
    cases scanned : p.scan view.beans with
    | error error => rfl
    | ok list =>
      exact congrArg Except.ok (map_unwoven_of_clean (AspectPolicy.shadows_of_scan scanned))

/-- A question keeps coherence when it keeps what is known of the container, but for the shadows. -/
theorem coherent_consult (coherent : Coherent p e)
    {question : Resolver → (BeanScope → List Bean) →
      Except ResolveError (List Interceptor) × Resolver}
    (policy : ∀ beans, (question e.resolver beans).2.policy = e.resolver.policy)
    (others : ∀ beans probe, probe ≠ id →
      (question e.resolver beans).2.cache.get? probe = e.resolver.cache.get? probe)
    (own : ∀ beans list, (question e.resolver beans).2.cache.get? id = some list →
      e.resolver.cache.get? id = some list ∨
        (e.resolver.interceptors id beans).1.map (·.map unwoven) = .ok (list.map unwoven)) :
    Coherent p (e.consult id question).2 := by
  cases known : e.registry.view? id with
  | none =>
    rw [Engine.consult_of_unknown known]
    exact coherent
  | some view =>
    rw [Engine.consult_of_known known]
    refine ⟨(policy view.beans).trans coherent.policy, fun probe list kept => ?_⟩
    by_cases same : probe = id
    · subst same
      rcases own view.beans list kept with before | found
      · exact coherent.kept probe list before
      · rw [known_interceptors coherent known] at found
        exact ⟨view, known, found⟩
    · rw [others view.beans probe same] at kept
      exact coherent.kept probe list kept

theorem coherent_interceptors (coherent : Coherent p e) (id : String) :
    Coherent p (e.interceptors id).2 := by
  refine coherent_consult coherent (fun _ => Resolver.policy_interceptors) ?_ ?_
  · intro beans probe other
    rw [Resolver.kept_interceptors, if_neg other]
  · intro beans list kept
    right
    rw [Resolver.kept_interceptors, if_pos rfl] at kept
    cases answer : (e.resolver.interceptors id beans).1 with
    | error error => simp [answer, Except.toOption] at kept
    | ok found =>
      simp only [answer, Except.toOption, Option.some.injEq] at kept
      rw [kept]
      rfl

theorem coherent_resolve (coherent : Coherent p e) (id : String) (t : HostType) :
    Coherent p (e.resolve id t).2 := by
  refine coherent_consult coherent (fun _ => Resolver.policy_resolve) ?_ ?_
  · intro beans probe other
    cases skipped : e.resolver.policy.skips t with
    | true => rw [Resolver.resolve_of_skipped skipped]
    | false => rw [Resolver.kept_resolve skipped, if_neg other]
  · intro beans list kept
    cases skipped : e.resolver.policy.skips t with
    | true =>
      left
      rwa [Resolver.resolve_of_skipped skipped] at kept
    | false =>
      -- What is kept has been woven on the type, which adds nothing but shadows.
      right
      rw [Resolver.kept_resolve skipped, if_pos rfl] at kept
      cases answer : (e.resolver.interceptors id beans).1 with
      | error error => simp [answer, Except.toOption] at kept
      | ok found =>
        simp only [answer, Except.toOption, Option.map_some, Option.some.injEq] at kept
        subst kept
        simp only [Except.map, List.map_map, Except.ok.injEq]
        exact List.map_congr_left fun i _ => (unwoven_weave t).symm

/-- Every operation keeps an engine coherent. -/
theorem coherent_perform (coherent : Coherent p e) (operation : Operation) :
    Coherent p (perform e operation) := by
  cases operation with
  | create id => exact coherent_create coherent id
  | remove id => exact coherent_remove coherent id
  | register id bean => exact coherent_register coherent id bean
  | registerShared bean => exact coherent_registerShared coherent bean
  | interceptors id => exact coherent_interceptors coherent id
  | resolve id t => exact coherent_resolve coherent id t
  | invalidateAll => exact coherent_invalidateAll coherent rfl

theorem registry_settle {α : Type} (e : Engine) (done : Except RegistryError α × Registry)
    {inStep : Engine → Engine} (frame : ∀ after : Engine, (inStep after).registry = after.registry) :
    (e.settle done inStep).2.registry = done.2 := by
  obtain ⟨answer, registry⟩ := done
  cases answer with
  | error _ => rfl
  | ok _ => exact frame _

theorem registry_consult (e : Engine) (id : String)
    (question : Resolver → (BeanScope → List Bean) →
      Except ResolveError (List Interceptor) × Resolver) :
    (e.consult id question).2.registry = e.registry := by
  cases known : e.registry.view? id with
  | none => rw [Engine.consult_of_unknown known]
  | some view => rw [Engine.consult_of_known known]

theorem registry_registerShared (e : Engine) (bean : Bean) :
    (e.registerShared bean).2.registry = (e.registry.registerShared bean).2 :=
  registry_settle e _ fun after => after.invalidateAll_frame.1

/-- An operation changes the registry of an engine as it changes a registry that stands alone. -/
theorem registry_perform (e : Engine) (operation : Operation) :
    (perform e operation).registry =
      match operation.change? with
      | some change => apply e.registry change
      | none => e.registry := by
  cases operation with
  | create id => rfl
  | remove id => exact registry_settle e _ fun _ => rfl
  | register id bean =>
    simp only [perform, Engine.register, Operation.change?]
    split
    · rename_i whole
      rw [registry_registerShared, whole, apply_register_shared]
      rfl
    · exact registry_settle e _ fun _ => rfl
  | registerShared bean => exact registry_registerShared e bean
  | interceptors id => exact registry_consult e id _
  | resolve id t => exact registry_consult e id _
  | invalidateAll => exact e.invalidateAll_frame.1

/-- After any operations an engine is coherent, and its registry holds what they have registered. The
induction is on the operations from the first to the last. -/
theorem coherent_performAll (p : AspectPolicy) (operations : List Operation) :
    Coherent p (performAll p operations) ∧
      (performAll p operations).registry = registeredBy operations := by
  induction operations using List.reverseRecOn with
  | nil => exact ⟨coherent_ofPolicy p, rfl⟩
  | append_singleton operations operation ih =>
    obtain ⟨coherent, registry⟩ := ih
    have step : performAll p (operations ++ [operation]) =
        perform (performAll p operations) operation := by
      rw [performAll, List.foldl_append]
      rfl
    rw [step]
    refine ⟨coherent_perform coherent operation, ?_⟩
    rw [registry_perform, registry, registeredBy, registeredBy, List.filterMap_append]
    cases changed : operation.change? with
    | none => simp [changed]
    | some change =>
      rw [List.filterMap_cons_some changed, List.filterMap_nil, run_append]

/-- What a scan of the beans that are registered for a container answers. -/
def freshScan (p : AspectPolicy) (r : Registry) (id : String) :
    Except EngineError (List Interceptor) :=
  match r.view? id with
  | none => .error (.registry (.containerNotFound id))
  | some view => (p.scan view.beans).mapError .resolve

/-- After any operations, an engine answers about a container what a scan of the beans finds that the
operations have registered for it, but for the shadows; and it keeps lists of existing containers only. -/
theorem answers_as_fresh_scan (p : AspectPolicy) (operations : List Operation) :
    (∀ id, ((performAll p operations).interceptors id).1.map (·.map unwoven) =
        freshScan p (registeredBy operations) id) ∧
      ∀ id, (performAll p operations).resolver.isCached id = true →
        id ∈ sharedContainerId :: (registeredBy operations).ids := by
  obtain ⟨coherent, registry⟩ := coherent_performAll p operations
  rw [← registry]
  generalize performAll p operations = e at coherent
  constructor
  · intro id
    unfold freshScan
    cases known : e.registry.view? id with
    | none =>
      rw [Engine.interceptors, Engine.consult_of_unknown known]
      rfl
    | some view =>
      simp only [Engine.interceptors, Engine.consult_of_known known,
        ← known_interceptors coherent known]
      cases (e.resolver.interceptors id view.beans).1 <;> rfl
  · intro id cached
    obtain ⟨list, kept⟩ := Option.isSome_iff_exists.mp cached
    exact mem_containerIds_of_kept coherent kept

def tracing : Bean :=
  ⟨"tracing", ⟨.mk "demo.Tracing" 1 [⟨"Aspect", []⟩] []
    [⟨"enter", .bare "void", [], [.isPublic],
      [⟨"Before", [("value", .text "execution(* *(..))")]⟩]⟩], "tracing"⟩⟩

/-- A container is filled, asked and removed, and made and asked again. -/
def reuse : List Operation :=
  [.create "plugin", .register "plugin" tracing, .interceptors "plugin", .remove "plugin",
    .create "plugin", .interceptors "plugin"]

/-- The list that is kept for a container is not that of its predecessor. -/
theorem reused_id_is_kept_anew :
    (performAll {} reuse).resolver.isCached "plugin" = true ∧
      "plugin" ∈ sharedContainerId :: (registeredBy reuse).ids ∧
      ((performAll {} reuse).interceptors "plugin").1.map (·.map unwoven) = .ok [] := by
  have cached : (performAll {} reuse).resolver.isCached "plugin" = true := by decide +kernel
  have shown : (registeredBy reuse).view? "plugin" = some ⟨"plugin", some [], []⟩ := rfl
  obtain ⟨answered, kept⟩ := answers_as_fresh_scan {} reuse
  refine ⟨cached, kept "plugin" cached, (answered "plugin").trans ?_⟩
  simp [freshScan, shown, AspectPolicy.scan_eq, AspectPolicy.aspects, AspectPolicy.assemble,
    ContainerView.beans, Except.map, Except.mapError]

end Crosscut.CacheCoherence
