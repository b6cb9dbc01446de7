import Crosscut.Host.Type

/-! What a type takes over from the types above it. Hierarchies are closed upwards, so a question
about supertypes that succeeds on a type succeeds on everything below it, and every method that can
be called on a type is declared somewhere in its hierarchy. -/
namespace Crosscut.Inheritance

mutual

/-- What holds of a type whenever it holds of its direct supertypes, holds of every type. -/
@[elab_as_elim]
theorem supertypes_induction {motive : HostType → Prop}
    (step : ∀ t : HostType, (∀ s ∈ t.supertypes, motive s) → motive t) : (t : HostType) → motive t
  | .mk name serial annotations supertypes declared =>
    step (.mk name serial annotations supertypes declared) (all_induction step supertypes)

private theorem all_induction {motive : HostType → Prop}
    (step : ∀ t : HostType, (∀ s ∈ t.supertypes, motive s) → motive t) :
    (types : List HostType) → ∀ s ∈ types, motive s
  | [] => List.forall_mem_nil motive
  | t :: rest => List.forall_mem_cons.mpr ⟨supertypes_induction step t, all_induction step rest⟩

end

/-- The hierarchy of a supertype lies within the hierarchy of the type. -/
theorem hierarchy_closed (s t : HostType) (above : s ∈ t.hierarchy) : s.hierarchy ⊆ t.hierarchy := by
  induction t using supertypes_induction with
  | step t ih =>
    rw [HostType.hierarchy_eq] at above
    rcases List.mem_cons.mp above with rfl | above
    · exact List.Subset.refl _
    · obtain ⟨parent, direct, inside⟩ := List.mem_flatMap.mp above
      intro u member
      rw [HostType.hierarchy_eq t]
      exact List.mem_cons_of_mem _ (List.mem_flatMap.mpr ⟨parent, direct, ih parent direct inside member⟩)

private theorem mem_newcomers {m : Method} {listed inherited : List Method}
    (added : m ∈ Method.newcomers listed inherited) : m ∈ inherited := by
  induction inherited generalizing listed with
  | nil => exact added
  | cons first rest ih =>
    rw [Method.newcomers] at added
    split at added
    · exact List.mem_cons_of_mem _ (ih added)
    · rcases List.mem_cons.mp added with rfl | later
      · exact List.mem_cons_self
      · exact List.mem_cons_of_mem _ (ih later)

theorem mem_inheritAll {m : Method} {listed inherited : List Method}
    (added : m ∈ Method.inheritAll listed inherited) : m ∈ listed ∨ m ∈ inherited :=
  (List.mem_append.mp added).imp_right mem_newcomers

/-- A declared method knows the type that declares it. -/
theorem declaring_of_declared {s : HostType} {m : Method} (own : m ∈ s.declared) :
    m.declaring = some s := by
  obtain ⟨d, -, rfl⟩ := List.mem_map.mp own
  rfl

/-- Every method that can be called on a type is declared by a type of its hierarchy. -/
theorem method_is_declared_above (m : Method) (t : HostType) (listed : m ∈ t.methods) :
    ∃ s ∈ t.hierarchy, m ∈ s.declared := by
  induction t using supertypes_induction with
  | step t ih =>
    rw [HostType.methods_eq] at listed
    rcases mem_inheritAll listed with own | inherited
    · exact ⟨t, t.self_mem_hierarchy, own⟩
    · obtain ⟨parent, direct, offered⟩ := List.mem_flatMap.mp inherited
      obtain ⟨s, above, own⟩ := ih parent direct offered
      refine ⟨s, ?_, own⟩
      rw [HostType.hierarchy_eq]
      exact List.mem_cons_of_mem _ (List.mem_flatMap.mpr ⟨parent, direct, above⟩)

/-- The declaring type of a listed method is present, and it is a supertype. -/
theorem declaring_in_hierarchy {t : HostType} {m : Method} (listed : m ∈ t.methods) :
    ∃ s ∈ t.hierarchy, m.declaring = some s := by
  obtain ⟨s, above, own⟩ := method_is_declared_above m t listed
  exact ⟨s, above, declaring_of_declared own⟩

/-- A name that passes a test above a type passes it on the type. -/
theorem anyName_inherited {s t : HostType} (above : s ∈ t.hierarchy) {test : String → Bool}
    (passed : s.anyName test = true) : t.anyName test = true := by
  rw [HostType.anyName_eq, List.any_eq_true] at passed ⊢
  obtain ⟨u, member, passes⟩ := passed
  exact ⟨u, hierarchy_closed s t above member, passes⟩

/-- A supertype of a type above is a supertype. -/
theorem isSubtypeOf_inherited {s t : HostType} (above : s ∈ t.hierarchy) {name : String}
    (found : s.isSubtypeOf name = true) : t.isSubtypeOf name = true :=
  anyName_inherited above found

theorem carries_iff {t : HostType} {name : String} :
    t.carries name = true ↔ ∃ s ∈ t.hierarchy, s.isAnnotatedWith name = true := by
  rw [HostType.carries, HostType.findAnnotation?, HostType.findSome?_eq, List.findSome?_isSome_iff]
  simp only [HostType.annotation?, Annotation.first?_isSome, HostType.isAnnotatedWith]

/-- An annotation found above a type is found on the type. -/
theorem carries_inherited {s t : HostType} (above : s ∈ t.hierarchy) {name : String}
    (carried : s.carries name = true) : t.carries name = true := by
  rw [carries_iff] at carried ⊢
  obtain ⟨u, member, marked⟩ := carried
  exact ⟨u, hierarchy_closed s t above member, marked⟩

end Crosscut.Inheritance
