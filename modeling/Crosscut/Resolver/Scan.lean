import Crosscut.Advice.Policy
import Crosscut.Collect
import Crosscut.Interceptor

/-! Scanning the beans of a container for aspects. The aspects of the container itself come before
the shared ones, and within each group they stand in the order that they ask for, those that ask
for none last. An aspect with a rejected advice method is left out as a whole; under the strict
policy it fails the scan instead. -/
namespace Crosscut

/-- Where a container finds its beans: in itself, or among those that all containers share. -/
inductive BeanScope where
  | plugin | global
deriving DecidableEq, Repr

/-- An aspect that was rejected, and why. -/
structure ResolveError where
  aspect : String
  source : AdviceError
deriving DecidableEq, Repr

def ResolveError.message (e : ResolveError) : String :=
  s!"aspect '{e.aspect}' rejected: {e.source.message}"

namespace AspectPolicy

/-- The advice methods of a type, each with the kind and the annotation that mark it. -/
def advices (p : AspectPolicy) (t : HostType) : List (Method × AdviceKind × Annotation) :=
  t.methods.flatMap fun m =>
    AdviceKind.all.filterMap fun kind =>
      (m.annotation? (p.vocabulary.adviceName kind)).map (m, kind, ·)

def interceptorsOf (p : AspectPolicy) (b : Bean) : Except AdviceError (List Interceptor) :=
  collect (fun (m, kind, marker) => Interceptor.build p.vocabulary b.name b.object m kind marker)
    (p.advices b.type)

/-- Whether an aspect that asks for one position may stand before one that asks for another. -/
def mayPrecede : Option Int → Option Int → Bool
  | some position, some other => position ≤ other
  | some _, none => true
  | none, some _ => false
  | none, none => true

/-- The aspects among beans, in the order in which they are woven. -/
def aspects (p : AspectPolicy) (beans : List Bean) : List Bean :=
  (beans.filter (p.isAspect ·.type)).mergeSort fun a b =>
    mayPrecede (p.vocabulary.order? a.type) (p.vocabulary.order? b.type)

def assemble (p : AspectPolicy) : List Bean → Except ResolveError (List Interceptor)
  | [] => .ok []
  | b :: rest =>
    match p.interceptorsOf b with
    | .ok built => (p.assemble rest).map (built ++ ·)
    | .error source => if p.strict then .error ⟨b.name, source⟩ else p.assemble rest

/-- Scans a container that is asked for its beans scope by scope. The shared beans are not asked
for once the container's own have failed the scan. -/
def scanning {m : Type → Type} [Monad m] (p : AspectPolicy) (ask : BeanScope → m (List Bean)) :
    m (Except ResolveError (List Interceptor)) := do
  match p.assemble (p.aspects (← ask .plugin)) with
  | .error e => pure (.error e)
  | .ok own =>
    match p.assemble (p.aspects (← ask .global)) with
    | .error e => pure (.error e)
    | .ok shared => pure (.ok (own ++ shared))

/-- Scans a container whose beans stay the same during the scan. -/
def scan (p : AspectPolicy) (beans : BeanScope → List Bean) :
    Except ResolveError (List Interceptor) :=
  Id.run (p.scanning fun scope => pure (beans scope))

/-- The aspects of both scopes are put together, unless one of them fails the scan. -/
theorem scan_eq (p : AspectPolicy) (beans : BeanScope → List Bean) :
    p.scan beans =
      match p.assemble (p.aspects (beans .plugin)) with
      | .error e => .error e
      | .ok own => (p.assemble (p.aspects (beans .global))).map (own ++ ·) := by
  simp only [scan, scanning, Id.run, pure_bind]
  split
  · rfl
  · cases p.assemble (p.aspects (beans .global)) <;> rfl

/-- A scan asks for the beans of one scope after those of the other, unless the first ones fail it. -/
theorem scanning_apply {σ : Type} (p : AspectPolicy) (ask : BeanScope → StateM σ (List Bean)) (t : σ) :
    p.scanning ask t =
      match p.assemble (p.aspects (ask .plugin t).1) with
      | .error e => (.error e, (ask .plugin t).2)
      | .ok own =>
        match p.assemble (p.aspects (ask .global (ask .plugin t).2).1) with
        | .error e => (.error e, (ask .global (ask .plugin t).2).2)
        | .ok shared => (.ok (own ++ shared), (ask .global (ask .plugin t).2).2) := by
  simp only [scanning, bind, StateT.bind]
  rcases ask .plugin t with ⟨beans, middle⟩
  cases first : p.assemble (p.aspects beans) with
  | error e =>
    simp only [first]
    rfl
  | ok own =>
    simp only [first, StateT.bind]
    rcases ask .global middle with ⟨others, after⟩
    cases second : p.assemble (p.aspects others) with
    | error e =>
      simp only [bind, second]
      rfl
    | ok shared =>
      simp only [bind, second]
      rfl

private theorem shadows_of_interceptorsOf {p : AspectPolicy} {b : Bean} {built : List Interceptor}
    (found : p.interceptorsOf b = .ok built) : ∀ i ∈ built, i.matcher.shadows = .empty := by
  intro i member
  have listed : Except.ok i ∈ (p.advices b.type).map fun (m, kind, marker) =>
      Interceptor.build p.vocabulary b.name b.object m kind marker := by
    rw [collect_eq_ok.mp found]
    exact List.mem_map_of_mem member
  obtain ⟨⟨m, kind, marker⟩, -, made⟩ := List.mem_map.mp listed
  exact Interceptor.shadows_of_build made

private theorem shadows_of_assemble {p : AspectPolicy} {aspects : List Bean}
    {list : List Interceptor} (found : p.assemble aspects = .ok list) :
    ∀ i ∈ list, i.matcher.shadows = .empty := by
  induction aspects generalizing list with
  | nil =>
    cases found
    simp
  | cons b rest ih =>
    simp only [assemble] at found
    split at found
    · rename_i built first
      obtain ⟨others, later, rfl⟩ := map_eq_ok.mp found
      intro i member
      rcases List.mem_append.mp member with own | other
      · exact shadows_of_interceptorsOf first i own
      · exact ih later i other
    · split at found
      · cases found
      · exact ih found

/-- The interceptors that a scan finds have committed nothing. -/
theorem shadows_of_scan {p : AspectPolicy} {beans : BeanScope → List Bean}
    {list : List Interceptor} (found : p.scan beans = .ok list) :
    ∀ i ∈ list, i.matcher.shadows = .empty := by
  rw [scan_eq] at found
  split at found
  · cases found
  · rename_i first own
    obtain ⟨second, shared, rfl⟩ := map_eq_ok.mp found
    intro i member
    rcases List.mem_append.mp member with inOwn | inShared
    · exact shadows_of_assemble own i inOwn
    · exact shadows_of_assemble shared i inShared

end AspectPolicy
end Crosscut
