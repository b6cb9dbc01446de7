import Crosscut.Resolver.Scan
import Crosscut.Table

/-! The registry of bean containers. There is one shared container and any number of plugin
containers. A plugin container shows its own beans and the shared ones; the shared container has no
beans of its own scope. Within a container bean names are distinct. -/
namespace Crosscut

/-- The id of the shared container. -/
def sharedContainerId : String := "global"

/-- The shared beans, and the beans of each plugin container by id. -/
structure Registry where
  shared : List Bean
  plugins : Table String (List Bean)

/-- What a container shows of a registry. The shared container has no beans of its own. -/
structure ContainerView where
  id : String
  own : Option (List Bean)
  shared : List Bean

/-- Why the registry refuses an operation. -/
inductive RegistryError where
  | containerNotFound (id : String)
  | containerExists (id : String)
  | beanExists (container bean : String)
deriving DecidableEq, Repr

def RegistryError.message : RegistryError → String
  | .containerNotFound id => s!"Container not found: {id}"
  | .containerExists id => s!"Container already exists: {id}"
  | .beanExists container bean => s!"Bean '{bean}' already registered in container '{container}'"

/-- How many containers and beans a registry holds. -/
structure RegistryStats where
  containers : Nat
  pluginBeans : Nat
  sharedBeans : Nat
deriving DecidableEq, Repr

namespace ContainerView

def isShared (c : ContainerView) : Bool :=
  c.own.isNone

/-- The number of beans registered in the container itself. -/
def size (c : ContainerView) : Nat :=
  (c.own.getD c.shared).length

def beans (c : ContainerView) : BeanScope → List Bean
  | .plugin => c.own.getD []
  | .global => c.shared

end ContainerView

namespace Registry

def empty : Registry := ⟨[], .empty⟩

def view? (r : Registry) (id : String) : Option ContainerView :=
  if id = sharedContainerId then some ⟨id, none, r.shared⟩
  else (r.plugins.get? id).map fun own => ⟨id, some own, r.shared⟩

def sharedView (r : Registry) : ContainerView :=
  ⟨sharedContainerId, none, r.shared⟩

/-- The ids of the plugin containers in ascending order. -/
def ids (r : Registry) : List String :=
  r.plugins.keys.mergeSort (· ≤ ·)

def count (r : Registry) : Nat :=
  r.plugins.keys.length

/-- Creates a plugin container without beans, unless there is a container of its id. -/
def create (r : Registry) (id : String) : Except RegistryError ContainerView × Registry :=
  if id = sharedContainerId ∨ r.plugins.contains id = true then (.error (.containerExists id), r)
  else (.ok ⟨id, some [], r.shared⟩, { r with plugins := r.plugins.insert id [] })

/-- Takes a plugin container out of the registry and answers with it. -/
def remove (r : Registry) (id : String) : Except RegistryError ContainerView × Registry :=
  (match r.plugins.get? id with
    | some own => .ok ⟨id, some own, r.shared⟩
    | none => .error (.containerNotFound id),
    { r with plugins := r.plugins.erase id })

/-- Adds a bean to those of a container unless its name is taken. -/
def addTo (id : String) (beans : List Bean) (bean : Bean) : Except RegistryError Unit × List Bean :=
  if beans.any (·.name == bean.name) then (.error (.beanExists id bean.name), beans)
  else (.ok (), beans ++ [bean])

def registerShared (r : Registry) (bean : Bean) : Except RegistryError Unit × Registry :=
  match addTo sharedContainerId r.shared bean with
  | (result, beans) => (result, { r with shared := beans })

def register (r : Registry) (id : String) (bean : Bean) : Except RegistryError Unit × Registry :=
  if id = sharedContainerId then r.registerShared bean
  else
    match r.plugins.get? id with
    | none => (.error (.containerNotFound id), r)
    | some own =>
      match addTo id own bean with
      | (result, beans) => (result, { r with plugins := r.plugins.insert id beans })

variable {r : Registry} {id : String} {bean : Bean} {e : RegistryError}

/-- The containers are the shared one and the plugin containers. -/
theorem view?_isSome : (r.view? id).isSome = true ↔ id ∈ sharedContainerId :: r.ids := by
  rw [List.mem_cons, ids, List.mem_mergeSort, Table.mem_keys, Table.contains]
  unfold view?
  by_cases same : id = sharedContainerId
  · simp [same]
  · simp [same]

/-! ### Refused operations -/

theorem create_of_error (refused : (r.create id).1 = .error e) : (r.create id).2 = r := by
  unfold create at refused ⊢
  split at refused
  · rename_i taken
    rw [if_pos taken]
  · cases refused

/-- A container that is not there cannot be taken out. -/
theorem remove_of_error (refused : (r.remove id).1 = .error e) : (r.remove id).2 = r := by
  unfold remove at refused ⊢
  cases known : r.plugins.get? id with
  | some own =>
    rw [known] at refused
    cases refused
  | none => rw [Table.erase_of_get? known]

theorem addTo_of_error {beans : List Bean} (refused : (addTo id beans bean).1 = .error e) :
    (addTo id beans bean).2 = beans := by
  unfold addTo at refused ⊢
  split at refused
  · rename_i taken
    rw [if_pos taken]
  · cases refused

theorem registerShared_of_error (refused : (r.registerShared bean).1 = .error e) :
    (r.registerShared bean).2 = r := by
  have same : (addTo sharedContainerId r.shared bean).2 = r.shared := addTo_of_error refused
  exact congrArg (fun beans => { r with shared := beans }) same

/-- A container that refuses a bean is written back as it was. -/
theorem register_of_error (refused : (r.register id bean).1 = .error e) :
    (r.register id bean).2 = r := by
  unfold register at refused ⊢
  split at refused
  · rename_i whole
    rw [if_pos whole]
    exact registerShared_of_error refused
  · rename_i own
    rw [if_neg own]
    cases known : r.plugins.get? id with
    | none => rfl
    | some beans =>
      rw [known] at refused
      have same : (addTo id beans bean).2 = beans := addTo_of_error refused
      have unchanged : r.plugins.insert id (addTo id beans bean).2 = r.plugins := by
        rw [same, Table.insert_of_get? known]
      exact congrArg (fun plugins => { r with plugins }) unchanged

/-! ### The containers after an operation -/

/-- Only new containers are created. -/
theorem view?_of_create {view : ContainerView} (created : (r.create id).1 = .ok view) :
    r.view? id = none := by
  unfold create at created
  split at created
  · cases created
  · rename_i fresh
    obtain ⟨notShared, unused⟩ := not_or.mp fresh
    rw [Table.contains, Option.not_isSome_iff_eq_none] at unused
    simp [view?, notShared, unused]

/-- A created container leaves the other containers as they are. -/
theorem view?_create {probe : String} (other : probe ≠ id) :
    (r.create id).2.view? probe = r.view? probe := by
  unfold create
  split
  · rfl
  · simp only [view?, Table.get?_insert_ne _ _ other]

/-- The containers that are not removed stay as they are. -/
theorem view?_remove {probe : String} (other : probe ≠ id) :
    (r.remove id).2.view? probe = r.view? probe := by
  simp only [remove, view?, Table.get?_erase, other, ↓reduceIte]

/-- A plugin container that gets a bean leaves the other containers as they are. -/
theorem view?_register (own : id ≠ sharedContainerId) {probe : String} (other : probe ≠ id) :
    (r.register id bean).2.view? probe = r.view? probe := by
  rw [register, if_neg own]
  cases r.plugins.get? id with
  | none => rfl
  | some beans => simp only [view?, Table.get?_insert_ne _ _ other]

/-- A shared bean makes and removes no container. -/
theorem ids_registerShared : (r.registerShared bean).2.ids = r.ids := rfl

def stats (r : Registry) : RegistryStats :=
  ⟨r.count, r.plugins.values.flatten.length, r.shared.length⟩

end Registry

def RegistryStats.text (s : RegistryStats) : String :=
  s!"Containers: {s.containers} ({s.pluginBeans} plugin beans), {s.sharedBeans} global beans"

end Crosscut
