import Crosscut.Registry
import Mathlib.Algebra.BigOperators.Group.List.Basic
import Mathlib.Algebra.GroupWithZero.Nat
import Mathlib.Data.List.Induction
import Mathlib.Data.List.Nodup
import Mathlib.Data.List.Perm.Basic
import Mathlib.Tactic.ByContra

/-! What a registry shows, told by its history. A plugin container stands from the change that creates it
to the one that removes it, and holds the beans that were registered for it in between, the first of each
name in the order of registration; the shared container stands from the beginning. Nothing else decides
what a registry shows: neither what is registered elsewhere, nor a change that is refused, nor a
container that had the same id before. -/
namespace Crosscut.RegistryHistory

/-- What can be done to a registry. -/
inductive Change where
  | create (id : String)
  | remove (id : String)
  | register (id : String) (bean : Bean)
  | registerShared (bean : Bean)

namespace Change

/-- The container that a change names. -/
def container : Change → String
  | .create id | .remove id | .register id _ => id
  | .registerShared _ => sharedContainerId

/-- The bean that a change registers in a container. -/
def bean? (id : String) : Change → Option Bean
  | .create _ | .remove _ => none
  | .register target bean => if target = id then some bean else none
  | .registerShared bean => if sharedContainerId = id then some bean else none

end Change

/-- What a registry answers to a change, and what the change makes of it. -/
def attempt (r : Registry) : Change → Except RegistryError Unit × Registry
  | .create id => ((r.create id).1.map fun _ => (), (r.create id).2)
  | .remove id => ((r.remove id).1.map fun _ => (), (r.remove id).2)
  | .register id bean => r.register id bean
  | .registerShared bean => r.registerShared bean

/-- The registry after a change, whether or not the change is refused. -/
def apply (r : Registry) (change : Change) : Registry :=
  (attempt r change).2

/-- The registry after a history of changes, the oldest first. -/
def run (history : List Change) : Registry :=
  history.foldl apply .empty

/-- No plugin container of an id stands: whenever one was created, it was removed later. -/
def Closed (id : String) (history : List Change) : Prop :=
  ∀ before since, history = before ++ .create id :: since → .remove id ∈ since

/-- A plugin container stands: it was created where none stood, and has not been removed since. -/
def Standing (id : String) (history since : List Change) : Prop :=
  ∃ before, history = before ++ .create id :: since ∧ Closed id before ∧ .remove id ∉ since

/-- The first bean of each name. -/
def firstOfNames (beans : List Bean) : List Bean :=
  beans.eraseDupsBy fun later first => later.name == first.name

/-- The beans that changes leave in a container. -/
def registered (id : String) (changes : List Change) : List Bean :=
  firstOfNames (changes.filterMap (·.bean? id))

variable {id : String} {history since : List Change} {change : Change}

/-! ### Histories -/

/-- A container that was created and not removed since stands. The creation that is looked at may have
been refused; then an earlier one has made the container. -/
theorem standing_of_created (before since : List Change) (kept : .remove id ∉ since) :
    ∃ earlier, Standing id (before ++ .create id :: since) earlier := by
  by_cases closed : Closed id before
  · exact ⟨since, before, rfl, closed, kept⟩
  · simp only [Closed, not_forall] at closed
    obtain ⟨first, between, rfl, keptBetween⟩ := closed
    have standing := standing_of_created first (between ++ .create id :: since)
      (by simp [keptBetween, kept])
    simpa using standing
termination_by before.length

theorem closed_iff : Closed id history ↔ ¬ ∃ since, Standing id history since := by
  constructor
  · rintro closed ⟨since, before, rfl, -, kept⟩
    exact kept (closed before since rfl)
  · rintro none before since rfl
    by_contra kept
    exact none (standing_of_created before since kept)

/-- One more change: a container is created where none stands, or one that stands is not removed. -/
theorem standing_append : Standing id (history ++ [change]) since ↔
    (change = .create id ∧ since = [] ∧ Closed id history) ∨
      ∃ earlier, Standing id history earlier ∧ change ≠ .remove id ∧ since = earlier ++ [change] := by
  constructor
  · rintro ⟨before, cut, closed, kept⟩
    rcases List.eq_nil_or_concat since with rfl | ⟨earlier, last, rfl⟩
    · obtain ⟨rfl, rfl⟩ := List.append_singleton_inj.mp cut
      exact .inl ⟨rfl, rfl, closed⟩
    · rw [List.concat_eq_append, ← List.cons_append, ← List.append_assoc] at cut
      obtain ⟨rfl, rfl⟩ := List.append_singleton_inj.mp cut
      rw [List.concat_eq_append, List.mem_append, List.mem_singleton, not_or] at kept
      exact .inr ⟨earlier, ⟨before, rfl, closed, kept.1⟩, Ne.symm kept.2, List.concat_eq_append⟩
  · rintro (⟨rfl, rfl, closed⟩ | ⟨earlier, ⟨before, rfl, closed, kept⟩, other, rfl⟩)
    · exact ⟨history, rfl, closed, List.not_mem_nil⟩
    · refine ⟨before, by simp, closed, ?_⟩
      rw [List.mem_append, List.mem_singleton, not_or]
      exact ⟨kept, Ne.symm other⟩

/-- No container stands behind its removal. -/
theorem closed_remove (id : String) (history : List Change) : Closed id (history ++ [.remove id]) := by
  rw [closed_iff]
  rintro ⟨since, standing⟩
  rcases standing_append.mp standing with ⟨other, -⟩ | ⟨-, -, kept, -⟩
  · cases other
  · exact kept rfl

/-! ### The first bean of each name -/

theorem firstOfNames_cons (first : Bean) (rest : List Bean) :
    firstOfNames (first :: rest) = first :: firstOfNames (rest.filter (·.name ≠ first.name)) := by
  rw [firstOfNames, List.eraseDupsBy_cons, firstOfNames]
  congr 2
  exact List.filter_congr fun b _ => by simp

/-- A further bean is left out if its name is taken. -/
theorem firstOfNames_append (bean : Bean) : (beans : List Bean) →
    firstOfNames (beans ++ [bean]) =
      if bean.name ∈ beans.map (·.name) then firstOfNames beans else firstOfNames beans ++ [bean]
  | [] => rfl
  | first :: rest => by
    -- The induction is on the length, since the definition goes on with a filtered list.
    have behind := firstOfNames_append bean (rest.filter (·.name ≠ first.name))
    rw [List.cons_append, firstOfNames_cons, firstOfNames_cons, List.filter_append]
    by_cases same : bean.name = first.name
    · simp [same]
    · have listed : bean.name ∈ (rest.filter (·.name ≠ first.name)).map (·.name) ↔
          bean.name ∈ (first :: rest).map (·.name) := by
        simp only [List.mem_map, List.mem_filter, List.map_cons, List.mem_cons, same, false_or]
        constructor
        · rintro ⟨b, ⟨member, -⟩, named⟩
          exact ⟨b, member, named⟩
        · rintro ⟨b, member, named⟩
          exact ⟨b, ⟨member, by simpa [named] using same⟩, named⟩
      rw [List.filter_cons_of_pos (by simpa using same), List.filter_nil, behind]
      simp only [listed]
      split <;> rfl
termination_by beans => beans.length
decreasing_by exact Nat.lt_succ_of_le (List.length_filter_le _ _)

theorem mem_names_firstOfNames {beans : List Bean} {name : String} :
    name ∈ (firstOfNames beans).map (·.name) ↔ name ∈ beans.map (·.name) := by
  induction beans using List.reverseRecOn with
  | nil => rfl
  | append_singleton beans bean ih =>
    rw [firstOfNames_append, List.map_append, List.mem_append]
    split
    · rename_i taken
      rw [ih]
      constructor
      · exact .inl
      · rintro (listed | last)
        · exact listed
        · obtain rfl := List.mem_singleton.mp last
          exact taken
    · rw [List.map_append, List.mem_append, ih]

theorem nodup_firstOfNames (beans : List Bean) : ((firstOfNames beans).map (·.name)).Nodup := by
  induction beans using List.reverseRecOn with
  | nil => exact List.nodup_nil
  | append_singleton beans bean ih =>
    rw [firstOfNames_append]
    split
    · exact ih
    · rename_i fresh
      rw [List.map_append, List.nodup_append]
      refine ⟨ih, List.nodup_singleton _, ?_⟩
      rintro name listed _ last rfl
      obtain rfl := List.mem_singleton.mp last
      exact fresh (mem_names_firstOfNames.mp listed)

/-! ### One change -/

/-- The beans of a container after a change that leaves it standing. -/
def receive (id : String) (change : Change) (beans : List Bean) : List Bean :=
  match change.bean? id with
  | none => beans
  | some bean => (Registry.addTo id beans bean).2

/-- A container receives nothing from a change that names another one. -/
theorem receive_elsewhere (other : change.container ≠ id) (beans : List Bean) :
    receive id change beans = beans := by
  have none : change.bean? id = none := by
    cases change <;> simp_all [Change.bean?, Change.container]
  simp only [receive, none]

theorem registered_append (id : String) (history : List Change) (change : Change) :
    registered id (history ++ [change]) = receive id change (registered id history) := by
  unfold registered receive
  rw [List.filterMap_append]
  cases made : change.bean? id with
  | none => simp [made]
  | some bean =>
    have taken : (firstOfNames (history.filterMap (·.bean? id))).any (·.name == bean.name) = true ↔
        bean.name ∈ (history.filterMap (·.bean? id)).map (·.name) := by
      rw [← mem_names_firstOfNames]
      simp
    simp only [made, List.filterMap_cons, List.filterMap_nil, firstOfNames_append, Registry.addTo, taken]
    split <;> rfl

/-- A change that is refused leaves the registry as it is. -/
theorem attempt_of_error {r : Registry} {e : RegistryError} (refused : (attempt r change).1 = .error e) :
    (attempt r change).2 = r := by
  have failed : ∀ {α : Type} {result : Except RegistryError α},
      result.map (fun _ => ()) = .error e → result = .error e := by
    intro α result mapped
    cases result <;> cases mapped
    rfl
  cases change with
  | create id => exact Registry.create_of_error (failed refused)
  | remove id => exact Registry.remove_of_error (failed refused)
  | register id bean => exact Registry.register_of_error refused
  | registerShared bean => exact Registry.registerShared_of_error refused

/-- A shared bean is received by the shared container, and the plugin containers are left alone. -/
theorem apply_registerShared (r : Registry) (bean : Bean) :
    apply r (.registerShared bean) =
      { r with shared := receive sharedContainerId (.registerShared bean) r.shared } := rfl

/-- What is registered for the shared container is registered by the same operation, whatever it is
called. -/
theorem apply_register_shared (r : Registry) (bean : Bean) :
    apply r (.register sharedContainerId bean) = apply r (.registerShared bean) := by
  simp only [apply, attempt, Registry.register, ↓reduceIte]

/-- A bean is received by the plugin container that it is registered for, if there is one. -/
theorem apply_register (r : Registry) (apart : id ≠ sharedContainerId) (bean : Bean) :
    apply r (.register id bean) =
      match r.plugins.get? id with
      | none => r
      | some own =>
        { r with plugins := r.plugins.insert id (receive id (.register id bean) own) } := by
  simp only [apply, attempt, Registry.register, if_neg apart, receive, Change.bean?, ↓reduceIte]
  cases r.plugins.get? id <;> rfl

/-- The shared container receives what is registered for it, and nothing else changes it. -/
theorem shared_apply (r : Registry) (change : Change) :
    (apply r change).shared = receive sharedContainerId change r.shared := by
  cases change with
  | create id =>
    simp only [apply, attempt, Registry.create, receive, Change.bean?]
    split <;> rfl
  | remove id => rfl
  | register id bean =>
    by_cases whole : id = sharedContainerId
    · rw [whole, apply_register_shared, apply_registerShared]
      rfl
    · rw [apply_register r whole]
      simp only [receive, Change.bean?, if_neg whole]
      cases r.plugins.get? id <;> rfl
  | registerShared bean => rw [apply_registerShared]

/-- A change leaves the plugin containers alone that it does not name. -/
theorem own_apply_elsewhere (r : Registry) (change : Change) (other : change.container ≠ id) :
    (apply r change).plugins.get? id = r.plugins.get? id := by
  cases change with
  | create target =>
    simp only [apply, attempt, Registry.create]
    split
    · rfl
    · exact Table.get?_insert_ne _ _ (Ne.symm other)
  | remove target => exact (Table.get?_erase _ _ _).trans (if_neg (Ne.symm other))
  | register target bean =>
    by_cases whole : target = sharedContainerId
    · rw [whole, apply_register_shared, apply_registerShared]
    · rw [apply_register r whole]
      cases r.plugins.get? target with
      | none => rfl
      | some own => exact Table.get?_insert_ne _ _ (Ne.symm other)
  | registerShared bean => rw [apply_registerShared]

/-- What a change makes of a plugin container: it is created empty where there is none, or it is not
removed and receives what is registered for it. -/
theorem own_apply (r : Registry) (change : Change) (apart : id ≠ sharedContainerId)
    {beans : List Bean} : (apply r change).plugins.get? id = some beans ↔
      (change = .create id ∧ beans = [] ∧ r.plugins.get? id = none) ∨
        ∃ own, r.plugins.get? id = some own ∧ change ≠ .remove id ∧ beans = receive id change own := by
  by_cases named : change.container = id
  · cases change with
    | create target =>
      obtain rfl : target = id := named
      simp only [apply, attempt, Registry.create, apart, Table.contains, false_or]
      cases known : r.plugins.get? target with
      | none => simp [eq_comm]
      | some own => simp [known, receive, Change.bean?, eq_comm]
    | remove target =>
      obtain rfl : target = id := named
      simp [apply, attempt, Registry.remove]
    | register target bean =>
      obtain rfl : target = id := named
      rw [apply_register r apart]
      cases known : r.plugins.get? target with
      | none => simp [known]
      | some own => simp [eq_comm]
    | registerShared bean => exact absurd named.symm apart
  · have notCreated : change ≠ .create id := fun same => named (by rw [same]; rfl)
    have notRemoved : change ≠ .remove id := fun same => named (by rw [same]; rfl)
    rw [own_apply_elsewhere r change named]
    simp [notCreated, notRemoved, receive_elsewhere named]

/-! ### Whole histories -/

/-- A registry shows what its history says. -/
structure Records (history : List Change) (r : Registry) : Prop where
  distinct : r.plugins.keys.Nodup
  apart : r.plugins.get? sharedContainerId = none
  shared : r.shared = registered sharedContainerId history
  own : ∀ id, id ≠ sharedContainerId → ∀ beans, r.plugins.get? id = some beans ↔
    ∃ since, Standing id history since ∧ beans = registered id since

variable {r : Registry}

theorem records_empty : Records [] .empty where
  distinct := List.nodup_nil
  apart := rfl
  shared := rfl
  own := by
    intro id _ beans
    constructor
    · intro known
      cases known
    · rintro ⟨since, ⟨before, cut, -⟩, -⟩
      simp at cut

/-- Where no container stands in the history, none is found. -/
theorem Records.none_iff (records : Records history r) (apart : id ≠ sharedContainerId) :
    r.plugins.get? id = none ↔ Closed id history := by
  rw [closed_iff, Option.eq_none_iff_forall_ne_some]
  constructor
  · rintro none ⟨since, standing⟩
    exact none _ ((records.own id apart _).mpr ⟨since, standing, rfl⟩)
  · intro none beans known
    obtain ⟨since, standing, -⟩ := (records.own id apart beans).mp known
    exact none ⟨since, standing⟩

theorem keys_apply (change : Change) (distinct : r.plugins.keys.Nodup)
    (apart : r.plugins.get? sharedContainerId = none) :
    (apply r change).plugins.keys.Nodup ∧ (apply r change).plugins.get? sharedContainerId = none := by
  cases change with
  | create id =>
    simp only [apply, attempt, Registry.create]
    split
    · exact ⟨distinct, apart⟩
    · rename_i fresh
      obtain ⟨own, -⟩ := not_or.mp fresh
      exact ⟨Table.nodup_keys_insert distinct id [],
        (Table.get?_insert_ne _ _ (Ne.symm own)).trans apart⟩
  | remove id =>
    refine ⟨Table.nodup_keys_erase distinct id, (Table.get?_erase _ _ _).trans ?_⟩
    rw [apart, ite_self]
  | register id bean =>
    by_cases whole : id = sharedContainerId
    · rw [whole, apply_register_shared, apply_registerShared]
      exact ⟨distinct, apart⟩
    · rw [apply_register r whole]
      cases r.plugins.get? id with
      | none => exact ⟨distinct, apart⟩
      | some own =>
        exact ⟨Table.nodup_keys_insert distinct id _,
          (Table.get?_insert_ne _ _ (Ne.symm whole)).trans apart⟩
  | registerShared bean =>
    rw [apply_registerShared]
    exact ⟨distinct, apart⟩

/-- A change of the registry is one more change of its history. -/
theorem records_apply (records : Records history r) (change : Change) :
    Records (history ++ [change]) (apply r change) where
  distinct := (keys_apply change records.distinct records.apart).1
  apart := (keys_apply change records.distinct records.apart).2
  shared := by rw [shared_apply, registered_append, records.shared]
  own := by
    intro id apart beans
    rw [own_apply r change apart, records.none_iff apart]
    simp only [standing_append]
    constructor
    · rintro (⟨rfl, rfl, closed⟩ | ⟨own, known, kept, rfl⟩)
      · exact ⟨[], .inl ⟨rfl, rfl, closed⟩, rfl⟩
      · obtain ⟨since, standing, rfl⟩ := (records.own id apart own).mp known
        exact ⟨since ++ [change], .inr ⟨since, standing, kept, rfl⟩, (registered_append ..).symm⟩
    · rintro ⟨since, ⟨rfl, rfl, closed⟩ | ⟨earlier, standing, kept, rfl⟩, rfl⟩
      · exact .inl ⟨rfl, rfl, closed⟩
      · exact .inr ⟨_, (records.own id apart _).mpr ⟨earlier, standing, rfl⟩, kept,
          registered_append ..⟩

theorem run_append (history : List Change) (change : Change) :
    run (history ++ [change]) = apply (run history) change := by
  rw [run, List.foldl_append]
  rfl

theorem records_run (history : List Change) : Records history (run history) := by
  induction history using List.reverseRecOn with
  | nil => exact records_empty
  | append_singleton history change ih =>
    rw [run_append]
    exact records_apply ih change

/-- What is known of a registry: the plugin containers that stand, under distinct ids; what each of them
shows as its own and as shared; what the shared container shows; distinct names in every list of beans;
and how many containers and beans there are. -/
structure Shows (history : List Change) (r : Registry) : Prop where
  ids : r.ids.Nodup
  apart : sharedContainerId ∉ r.ids
  listed : ∀ id, id ∈ r.ids ↔ id ≠ sharedContainerId ∧ ∃ since, Standing id history since
  plugin : ∀ id since, id ≠ sharedContainerId → Standing id history since →
    ∃ view, r.view? id = some view ∧ view.beans .plugin = registered id since ∧
      view.beans .global = registered sharedContainerId history
  whole : ∃ view, r.view? sharedContainerId = some view ∧ view.beans .plugin = [] ∧
    view.beans .global = registered sharedContainerId history
  names : ∀ id view scope, r.view? id = some view → ((view.beans scope).map (·.name)).Nodup
  stats : r.stats = ⟨r.ids.length,
    ((r.ids.filterMap r.view?).map fun view => (view.beans .plugin).length).sum,
    (r.sharedView.beans .global).length⟩

theorem Records.mem_ids (records : Records history r) :
    id ∈ r.ids ↔ id ≠ sharedContainerId ∧ ∃ own, r.plugins.get? id = some own := by
  rw [Registry.ids, List.mem_mergeSort, Table.mem_keys, Table.contains, Option.isSome_iff_exists]
  refine ⟨fun known => ⟨?_, known⟩, And.right⟩
  rintro rfl
  obtain ⟨own, known⟩ := known
  cases records.apart.symm.trans known

theorem view?_of_get? (apart : id ≠ sharedContainerId) :
    r.view? id = (r.plugins.get? id).map fun own => ⟨id, some own, r.shared⟩ :=
  if_neg apart

theorem view?_shared (r : Registry) : r.view? sharedContainerId = some r.sharedView :=
  if_pos rfl

/-- Looking every key of a table up gives its values. -/
theorem filterMap_get?_keys {κ α : Type} [DecidableEq κ] {t : Table κ α} (distinct : t.keys.Nodup) :
    t.keys.filterMap t.get? = t.values := by
  obtain ⟨entries⟩ := t
  simp only [Table.keys, Table.values] at distinct ⊢
  induction entries with
  | nil => rfl
  | cons entry rest ih =>
    obtain ⟨fresh, distinct⟩ := List.nodup_cons.mp distinct
    have behind : ∀ key ∈ rest.map (·.1), Table.get? ⟨entry :: rest⟩ key = Table.get? ⟨rest⟩ key := by
      intro key member
      have other : entry.1 ≠ key := by
        rintro rfl
        exact fresh member
      simp [Table.get?, other]
    have first : Table.get? ⟨entry :: rest⟩ entry.1 = some entry.2 := by
      simp [Table.get?]
    rw [List.map_cons, List.filterMap_cons_some first, List.filterMap_congr behind, ih distinct,
      List.map_cons]

/-- The beans of the plugin containers are counted container by container. -/
theorem Records.stats_eq (records : Records history r) :
    r.stats = ⟨r.ids.length,
      ((r.ids.filterMap r.view?).map fun view => (view.beans .plugin).length).sum,
      (r.sharedView.beans .global).length⟩ := by
  have listed : r.ids.Perm r.plugins.keys := List.mergeSort_perm _ _
  have sizes : (r.ids.filterMap r.view?).map (fun view => (view.beans .plugin).length) =
      r.ids.filterMap fun id => (r.plugins.get? id).map List.length := by
    rw [List.map_filterMap]
    refine List.filterMap_congr fun id member => ?_
    rw [view?_of_get? (records.mem_ids.mp member).1, Option.map_map]
    rfl
  have counted : r.plugins.values.flatten.length =
      (r.ids.filterMap fun id => (r.plugins.get? id).map List.length).sum := by
    rw [(listed.filterMap _).sum_eq, List.length_flatten,
      ← filterMap_get?_keys records.distinct, List.map_filterMap]
  rw [Registry.stats, Registry.count, sizes, counted, listed.length_eq]
  rfl

theorem Records.shows (records : Records history r) : Shows history r where
  ids := (List.mergeSort_perm _ _).nodup_iff.mpr records.distinct
  apart := fun member => (records.mem_ids.mp member).1 rfl
  listed := by
    intro id
    rw [records.mem_ids]
    refine and_congr_right fun apart => ?_
    simp only [records.own id apart]
    constructor
    · rintro ⟨_, since, standing, -⟩
      exact ⟨since, standing⟩
    · rintro ⟨since, standing⟩
      exact ⟨_, since, standing, rfl⟩
  plugin := by
    intro id since apart standing
    have known := (records.own id apart _).mpr ⟨since, standing, rfl⟩
    exact ⟨⟨id, some (registered id since), r.shared⟩, by rw [view?_of_get? apart, known]; rfl, rfl,
      records.shared⟩
  whole := ⟨_, view?_shared r, rfl, records.shared⟩
  names := by
    have common : (r.shared.map (·.name)).Nodup := records.shared ▸ nodup_firstOfNames _
    intro id view scope shown
    by_cases apart : id = sharedContainerId
    · cases (apart ▸ view?_shared r).symm.trans shown
      cases scope with
      | plugin => exact List.nodup_nil
      | global => exact common
    · rw [view?_of_get? apart] at shown
      obtain ⟨own, known, rfl⟩ := Option.map_eq_some_iff.mp shown
      cases scope with
      | plugin =>
        obtain ⟨since, -, rfl⟩ := (records.own id apart own).mp known
        exact nodup_firstOfNames _
      | global => exact common
  stats := records.stats_eq

/-- A change is seen nowhere but in the container that it names: the others keep what they show as
their own, and what they share with all unless the shared container is named. -/
theorem view?_apply_elsewhere (r : Registry) {change : Change} (other : id ≠ change.container) :
    ((apply r change).view? id).map (·.beans .plugin) = (r.view? id).map (·.beans .plugin) ∧
      (change.container ≠ sharedContainerId → (apply r change).view? id = r.view? id) := by
  by_cases apart : id = sharedContainerId
  · subst apart
    rw [view?_shared, view?_shared]
    refine ⟨rfl, fun _ => ?_⟩
    rw [Registry.sharedView, Registry.sharedView, shared_apply, receive_elsewhere (Ne.symm other)]
  · rw [view?_of_get? apart, view?_of_get? apart, own_apply_elsewhere r change (Ne.symm other)]
    refine ⟨by simp [ContainerView.beans, Function.comp_def], fun named => ?_⟩
    rw [shared_apply, receive_elsewhere named]

/-- A container is created where none stands, and it is empty. -/
theorem Records.create (records : Records history r) (apart : id ≠ sharedContainerId)
    (closed : Closed id history) : ∃ created view, attempt r (.create id) = (.ok (), created) ∧
      created.view? id = some view ∧ view.beans .plugin = [] := by
  have fresh : ¬ (id = sharedContainerId ∨ r.plugins.contains id = true) := by
    rw [Table.contains, (records.none_iff apart).mpr closed]
    simpa using apart
  refine ⟨{ r with plugins := r.plugins.insert id [] }, ⟨id, some [], r.shared⟩, ?_, ?_, rfl⟩
  · simp only [attempt, Registry.create, if_neg fresh]
    rfl
  · rw [view?_of_get? apart, Table.get?_insert_self]
    rfl

/-- After any history a registry shows what the history says. A further change that is refused changes
nothing, and one that is accepted changes nothing but the container that it names. A container that is
created where none stands, whether or not there has been one of its id, starts empty. -/
theorem registry_follows_its_history (history : List Change) :
    Shows history (run history) ∧
      (∀ change,
        (∀ e changed, attempt (run history) change = (.error e, changed) →
          changed = run history ∧ run (history ++ [change]) = run history) ∧
        ∀ changed, attempt (run history) change = (.ok (), changed) →
          run (history ++ [change]) = changed ∧
          ∀ id, id ≠ change.container →
            (changed.view? id).map (·.beans .plugin) =
              ((run history).view? id).map (·.beans .plugin) ∧
            (change.container ≠ sharedContainerId →
              changed.view? id = (run history).view? id)) ∧
      ∀ id, id ≠ sharedContainerId → Closed id history →
        ∃ created view, attempt (run history) (.create id) = (.ok (), created) ∧
          created.view? id = some view ∧ view.beans .plugin = [] := by
  have records := records_run history
  refine ⟨records.shows, fun change => ⟨fun e changed refused => ?_, fun changed accepted => ?_⟩,
    fun id apart closed => records.create apart closed⟩
  · have unchanged : (attempt (run history) change).2 = run history :=
      attempt_of_error (congrArg Prod.fst refused)
    rw [refused] at unchanged
    refine ⟨unchanged, ?_⟩
    rw [run_append, apply, refused]
    exact unchanged
  · have made : apply (run history) change = changed := congrArg Prod.snd accepted
    rw [run_append, made]
    exact ⟨rfl, fun id other => made ▸ view?_apply_elsewhere (run history) other⟩

/-- A bean of a type of its own. -/
def bean (name : String) : Bean :=
  ⟨name, ⟨.bare ("demo." ++ name), name⟩⟩

/-- A container is filled, removed and created again; a name is registered twice, once as shared and once
in the second container; and the id of the shared container is asked for. -/
def reopening : List Change :=
  [.create "desk", .register "desk" (bean "till"), .registerShared (bean "clock"), .remove "desk",
    .create "desk", .register "desk" (bean "clock"), .register "desk" (bean "clock"),
    .create "global", .register "global" (bean "till")]

/-- The second container shows its own bean alone, and all that is shared. Another container of its id
is refused, and changes nothing. -/
theorem second_desk_starts_anew :
    (∃ view, (run reopening).view? "desk" = some view ∧
      (view.beans .plugin).map (·.name) = ["clock"] ∧
      (view.beans .global).map (·.name) = ["clock", "till"]) ∧
    run (reopening ++ [.create "desk"]) = run reopening ∧
    (run reopening).stats = ⟨1, 1, 2⟩ := by
  obtain ⟨shows, further, -⟩ := registry_follows_its_history reopening
  have stands : Standing "desk" reopening (reopening.drop 5) :=
    ⟨reopening.take 4, rfl, closed_remove "desk" (reopening.take 3), by simp [reopening]⟩
  refine ⟨?_, ?_, by decide +kernel⟩
  · obtain ⟨view, shown, own, common⟩ := shows.plugin "desk" _ (by decide) stands
    exact ⟨view, shown, by rw [own]; decide +kernel, by rw [common]; decide +kernel⟩
  · exact ((further (.create "desk")).1 (.containerExists "desk") (run reopening) (by rfl)).2

end Crosscut.RegistryHistory
