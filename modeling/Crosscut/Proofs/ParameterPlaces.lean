import Crosscut.Interceptor
import Crosscut.Proofs.BindingRule
import Crosscut.Proofs.Scoping
import Crosscut.Proofs.SlotLayout

/-! Which place of the pointcut feeds which parameter of the advice. The binding check and the scope
of an expression know a parameter by its name alone. So an advice method whose annotation lists a name
twice is accepted, although one place then feeds two parameters, or the outcome two. This is the only
way to lose the correspondence: where the listed names are distinct, every accepted advice method has
one place for each pointcut parameter and one pointcut parameter for each place. -/
namespace Crosscut.ParameterPlaces
open BindingRule Scoping SlotLayout

/-- A parameter of an advice method receives the pointcut parameter of a name. -/
def Receives (s : AdviceSignature) (name : String) (j : Nat) : Prop :=
  ∃ k b, s.slots[j]? = some (.pointcut k) ∧ s.parameters[k]? = some b ∧ b.name = name

/-- The parameters of an advice method correspond to the places where its pointcut binds, and the
outcome of a call has at most one parameter for each of its roles. -/
structure Reconciled (i : Interceptor) : Prop where
  distinct : (i.signature.parameters.map (·.name)).Nodup
  bound : ∀ b ∈ i.signature.parameters,
    ∃! place : Nat, (boundNames i.matcher.pointcut.root)[place]? = some b.name
  fed : ∀ (place : Nat) name, (boundNames i.matcher.pointcut.root)[place]? = some name →
    ∃! j, Receives i.signature name j
  outcomes : ∀ role, i.signature.slots.count (.outcome role) ≤ 1

/-- A member of a list without repetitions has one place. -/
private theorem existsUnique_place {names : List String} (distinct : names.Nodup) {name : String}
    (listed : name ∈ names) : ∃! place : Nat, names[place]? = some name := by
  obtain ⟨place, known⟩ := List.mem_iff_getElem?.mp listed
  refine ⟨place, known, fun other found => ?_⟩
  have within : other < names.length := (List.getElem?_eq_some_iff.mp found).1
  exact (List.getElem?_inj within distinct).mp (found.trans known.symm)

variable {ctx : PointcutContext} {expression : String} {p : Pointcut}

/-- The names that an accepted pointcut binds are those of the declared parameters. -/
theorem mem_boundNames_iff_declared (accepted : Pointcut.parse ctx expression = .ok p)
    {name : String} : name ∈ boundNames p.root ↔ ∃ b ∈ ctx.parameters, b.name = name := by
  constructor
  · intro member
    obtain ⟨clause, listed, binds⟩ := List.mem_flatMap.mp member
    obtain ⟨typeName, takes⟩ := mem_boundNames.mp binds
    obtain ⟨b, declared, named, -⟩ := allRespect_of_parse accepted clause listed name typeName takes
    exact ⟨b, declared, named⟩
  · rintro ⟨b, declared, rfl⟩
    exact (parsed_obeys accepted).exhaustive b declared

variable {v : Vocabulary} {aspect : String} {owner : Instance} {advice : Method}
  {kind : AdviceKind} {marker : Annotation} {i : Interceptor}

/-- The parameters of an accepted advice method correspond to the places of its pointcut exactly when
no name is listed twice for them. -/
theorem reconciled_iff_distinct_names
    (built : Interceptor.build v aspect owner advice kind marker = .ok i) :
    Reconciled i ↔ (listedNames v kind marker advice).Nodup := by
  obtain ⟨derived, made⟩ := Interceptor.parts_of_build built
  obtain ⟨parsed, -, -⟩ := Matcher.parts_of_parse made
  obtain ⟨bindings, reserved, d⟩ := derivedFrom_of_derive derived
  have split : (bindings.map (·.name)).Nodup ↔ (i.signature.parameters.map (·.name)).Nodup ∧
      bindings.countP (Reservation.takes reserved ·) ≤ 1 := d.parameters ▸ nodup_names_iff
  rw [← d.names, split, ← d.outcomes_le_one_iff]
  constructor
  · intro reconciled
    exact ⟨reconciled.distinct, reconciled.outcomes⟩
  · rintro ⟨distinct, once⟩
    refine ⟨distinct, fun b declared => ?_, fun place name known => ?_, once⟩
    · have named : b.name ∈ boundNames i.matcher.pointcut.root :=
        (mem_boundNames_iff_declared parsed).mpr ⟨b, declared, rfl⟩
      exact existsUnique_place (parsed_obeys parsed).distinct named
    · obtain ⟨b, declared, rfl⟩ :=
        (mem_boundNames_iff_declared parsed).mp (List.mem_of_getElem? known)
      obtain ⟨k, at_k⟩ := List.mem_iff_getElem?.mp declared
      obtain ⟨j, at_j, alone⟩ := d.existsUnique_slot at_k
      refine ⟨j, ⟨k, b, at_j, at_k, rfl⟩, ?_⟩
      rintro other ⟨l, c, takes, at_l, named⟩
      -- A parameter of the same name is the same parameter, so it has the same slot.
      have same : (i.signature.parameters.map (·.name))[l]? =
          (i.signature.parameters.map (·.name))[k]? := by
        rw [List.getElem?_map, List.getElem?_map, at_l, at_k, Option.map_some, Option.map_some, named]
      have within : l < (i.signature.parameters.map (·.name)).length := by
        rw [List.length_map]
        exact (List.getElem?_eq_some_iff.mp at_l).1
      cases (List.getElem?_inj within distinct).mp same
      exact alone other takes

/-- An aspect that audits what is posted. A named pointcut gives the item that is posted a name of
its own, and two of the advice methods take two parameters. -/
def audit : HostType :=
  .mk "demo.Audit" 1 [⟨"Aspect", []⟩] []
    [⟨"posted", .bare "void", [⟨"it", .bare "demo.Item", []⟩], [.isPublic],
        [⟨"Pointcut", [("value", .text "execution(* post(..)) && args(it)")]⟩]⟩,
      ⟨"record", .bare "void", [⟨"x", .bare "demo.Receipt", []⟩, ⟨"y", .bare "demo.Item", []⟩],
        [.isPublic], []⟩,
      ⟨"enter", .bare "void",
        [⟨"x", .bare "java.lang.String", []⟩, ⟨"y", .bare "java.lang.Integer", []⟩],
        [.isPublic], []⟩]

/-- Takes the receipt that a call returned and the item that was posted. -/
def record : Method :=
  ⟨some audit, ⟨"record", .bare "void",
    [⟨"x", .bare "demo.Receipt", []⟩, ⟨"y", .bare "demo.Item", []⟩], [.isPublic], []⟩⟩

/-- Takes a text and a number. -/
def enter : Method :=
  ⟨some audit, ⟨"enter", .bare "void",
    [⟨"x", .bare "java.lang.String", []⟩, ⟨"y", .bare "java.lang.Integer", []⟩], [.isPublic], []⟩⟩

/-- Lists a name for the receipt, which is reserved, and one for the item. -/
def afterPost : Annotation :=
  ⟨"AfterReturning", [("value", .text "posted(item)"), ("argNames", .text "receipt, item"),
    ("returning", .text "receipt")]⟩

/-- Lists one name for both parameters. -/
def beforeEntry : Annotation :=
  ⟨"Before", [("value", .text "args(a)"), ("argNames", .text "a,a")]⟩

/-- With distinct names, the item comes from the one place in the named pointcut. -/
theorem receipt_and_item_are_reconciled :
    ∃ i, Interceptor.build {} "audit" ⟨audit, "audit"⟩ record .afterReturning afterPost = .ok i ∧
      boundNames i.matcher.pointcut.root = ["item"] ∧
      i.signature.slots = [.outcome .returning, .pointcut 0] ∧ Reconciled i := by
  have seen : (Interceptor.build {} "audit" ⟨audit, "audit"⟩ record .afterReturning
      afterPost).toOption.map
        (fun i => (boundNames i.matcher.pointcut.root, i.signature.slots)) =
      some (["item"], [.outcome .returning, .pointcut 0]) := by
    decide +kernel
  obtain ⟨i, built, parts⟩ := exists_ok_of_map seen
  obtain ⟨places, slots⟩ := Prod.mk.inj parts
  have distinct : (listedNames {} .afterReturning afterPost record).Nodup := by decide +kernel
  exact ⟨i, built, places, slots, (reconciled_iff_distinct_names built).mpr distinct⟩

/-- An advice method that lists a name twice is accepted: one place feeds both of its parameters,
though they are of different types. -/
theorem repeated_name_is_accepted :
    ∃ i, Interceptor.build {} "audit" ⟨audit, "audit"⟩ enter .before beforeEntry = .ok i ∧
      i.signature.parameters.map (·.name) = ["a", "a"] ∧
      boundNames i.matcher.pointcut.root = ["a"] ∧
      i.signature.slots = [.pointcut 0, .pointcut 1] ∧ ¬ Reconciled i := by
  have seen : (Interceptor.build {} "audit" ⟨audit, "audit"⟩ enter .before
      beforeEntry).toOption.map (fun i => (i.signature.parameters.map (·.name),
        boundNames i.matcher.pointcut.root, i.signature.slots)) =
      some (["a", "a"], ["a"], [.pointcut 0, .pointcut 1]) := by
    decide +kernel
  obtain ⟨i, built, parts⟩ := exists_ok_of_map seen
  obtain ⟨names, rest⟩ := Prod.mk.inj parts
  obtain ⟨places, slots⟩ := Prod.mk.inj rest
  refine ⟨i, built, names, places, slots, ?_⟩
  intro reconciled
  have distinct : ["a", "a"].Nodup := names ▸ reconciled.distinct
  exact absurd distinct (by decide)

end Crosscut.ParameterPlaces
