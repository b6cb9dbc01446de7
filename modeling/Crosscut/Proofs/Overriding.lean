import Crosscut.Matching.Clause
import Crosscut.Proofs.MethodLists
import Mathlib.Data.List.Nodup

/-! Whether the listed method of a signature is the most derived one. The first type of the hierarchy
that declares a signature gives the method, and the hierarchy is searched depth first. On a path
upwards the types below come first, so no method is overridden on its own path. But a type that is
reached on several paths stands where the first of them reaches it, and a type below it on a later
path comes too late with its override. Exactly then a listed method is overridden; where every type
is reached in one way only, none is. -/
namespace Crosscut.Overriding
open Inheritance MethodLists

/-- A type declares a method of a name and parameter types itself. -/
def Declares (t : HostType) (signature : String × List String) : Prop :=
  ∃ m ∈ t.declared, m.signature = signature

/-- On a type, a method is overridden by another one of its types, which lies below the type that
declares the method and declares the signature itself. -/
structure Overrides (t u : HostType) (m : Method) : Prop where
  inside : u ∈ t.hierarchy
  below : ∃ s, m.declaring = some s ∧ s ∈ u.hierarchy ∧ u ≠ s
  declares : Declares u m.signature

/-- No method that can be called on a type is overridden on it. -/
def MostDerived (t : HostType) : Prop :=
  ∀ m ∈ t.methods, ∀ u, ¬ Overrides t u m

variable {s t u : HostType} {m : Method} {before after : List HostType}

theorem isSome_find?_declared {signature : String × List String} :
    (s.declared.find? (·.signature == signature)).isSome = true ↔ Declares s signature := by
  simp [Declares]

/-- The first listed method of a signature comes from the type that declares all of that signature. -/
theorem find?_of_listed (listed : m ∈ t.methods) :
    ∃ n, t.methods.find? (·.signature == m.signature) = some n ∧ n.declaring = m.declaring := by
  obtain ⟨n, found⟩ : ∃ n, t.methods.find? (·.signature == m.signature) = some n :=
    Option.isSome_iff_exists.mp (List.find?_isSome.mpr ⟨m, listed, by simp⟩)
  refine ⟨n, found, ?_⟩
  have same : n.signature = m.signature := by simpa using List.find?_some found
  obtain ⟨i, at_i⟩ := List.mem_iff_getElem?.mp (List.mem_of_find?_eq_some found)
  obtain ⟨j, at_j⟩ := List.mem_iff_getElem?.mp listed
  rcases place_of_signature at_i at_j same with rfl | ⟨own, own'⟩
  · rw [Option.some.inj (at_i.symm.trans at_j)]
  · rw [methods_eq_declared_append] at at_i at_j
    rw [List.getElem?_append_left own] at at_i
    rw [List.getElem?_append_left own'] at at_j
    rw [declaring_of_declared (List.mem_of_getElem? at_i),
      declaring_of_declared (List.mem_of_getElem? at_j)]

/-- A listed method comes from the first type of the hierarchy that declares its signature. -/
theorem first_of_listed (listed : m ∈ t.methods) :
    ∃ before s after, t.hierarchy = before ++ s :: after ∧ m.declaring = some s ∧
      ∀ v ∈ before, ¬ Declares v m.signature := by
  obtain ⟨n, found, declaring⟩ := find?_of_listed listed
  rw [find?_methods] at found
  obtain ⟨before, s, after, split, own, none⟩ := List.findSome?_eq_some_iff.mp found
  refine ⟨before, s, after, split, ?_, fun v earlier => ?_⟩
  · rw [← declaring, declaring_of_declared (List.mem_of_find?_eq_some own)]
  · rw [← isSome_find?_declared, none v earlier]
    exact Bool.false_ne_true

/-- The first type of the hierarchy that declares a signature has a listed method of it. -/
theorem listed_of_first {signature : String × List String}
    (split : t.hierarchy = before ++ s :: after) (declares : Declares s signature)
    (first : ∀ v ∈ before, ¬ Declares v signature) :
    ∃ m ∈ t.methods, m.signature = signature ∧ m.declaring = some s := by
  obtain ⟨m, own⟩ := Option.isSome_iff_exists.mp (isSome_find?_declared.mpr declares)
  have found : t.methods.find? (·.signature == signature) = some m := by
    rw [find?_methods]
    refine List.findSome?_eq_some_iff.mpr ⟨before, s, after, split, own, fun v earlier => ?_⟩
    rw [← Option.not_isSome_iff_eq_none, isSome_find?_declared]
    exact first v earlier
  exact ⟨m, List.mem_of_find?_eq_some found, by simpa using List.find?_some found,
    declaring_of_declared (List.mem_of_find?_eq_some own)⟩

/-- A search from left to right through several hierarchies meets behind a type what lies above it,
if it does so in each of them. -/
private theorem behind_of_above_all {types : List HostType}
    (each : ∀ t ∈ types, ∀ before after, t.hierarchy = before ++ u :: after → s ∈ after)
    (split : types.flatMap HostType.hierarchy = before ++ u :: after) : s ∈ after := by
  induction types generalizing before with
  | nil => simp at split
  | cons t rest ih =>
    obtain ⟨here, later⟩ := List.forall_mem_cons.mp each
    rw [List.flatMap_cons] at split
    rcases List.append_eq_append_iff.mp split with ⟨skipped, -, further⟩ | ⟨taken, inside, rest'⟩
    · exact ih later further
    · cases taken with
      | nil =>
        have further : [] ++ u :: after = rest.flatMap HostType.hierarchy := rest'
        exact ih later further.symm
      | cons first more =>
        obtain ⟨rfl, rfl⟩ := List.cons.inj rest'
        exact List.mem_append_left _ (here before more inside)

/-- What lies above a type is met again behind it. -/
theorem behind_of_above (above : s ∈ u.hierarchy) (other : u ≠ s)
    (split : t.hierarchy = before ++ u :: after) : s ∈ after := by
  induction t using supertypes_induction generalizing before after with
  | step t ih =>
    rw [HostType.hierarchy_eq] at split
    cases before with
    | nil =>
      obtain ⟨rfl, rfl⟩ := List.cons.inj split
      rw [HostType.hierarchy_eq] at above
      exact (List.mem_cons.mp above).resolve_left (Ne.symm other)
    | cons first more =>
      exact behind_of_above_all (fun t direct _ _ inside => ih t direct inside)
        (List.cons.inj split).2

/-- No method is overridden where every type whose override comes late finds the signature declared
before the type that it overrides. -/
private theorem mostDerived_of_order
    (inOrder : ∀ before s after, t.hierarchy = before ++ s :: after →
      ∀ u ∈ after, s ∈ u.hierarchy → u ≠ s → ∀ signature, Declares s signature →
        Declares u signature → ∃ v ∈ before, Declares v signature) : MostDerived t := by
  intro m listed u overrides
  obtain ⟨before, s, after, split, declaring, first⟩ := first_of_listed listed
  obtain ⟨s', declaring', above, other⟩ := overrides.below
  cases declaring.symm.trans declaring'
  have own : Declares s m.signature := by
    obtain ⟨v, -, own⟩ := method_is_declared_above m t listed
    cases declaring.symm.trans (declaring_of_declared own)
    exact ⟨m, own, rfl⟩
  have late : u ∈ after := by
    have inside := overrides.inside
    rw [split, List.mem_append, List.mem_cons] at inside
    rcases inside with earlier | same | later
    · exact absurd overrides.declares (first u earlier)
    · exact absurd same other
    · exact later
  obtain ⟨v, earlier, declares⟩ :=
    inOrder before s after split u late above other m.signature own overrides.declares
  exact first v earlier declares

/-- The methods of a type are not overridden on it exactly if no override comes too late: where the
hierarchy meets a type before one below it, each signature that both declare is declared even earlier.
In particular no method is overridden where each type of the hierarchy is met only once. -/
theorem most_derived_iff (t : HostType) :
    (MostDerived t ↔ ∀ before s after, t.hierarchy = before ++ s :: after →
      ∀ u ∈ after, s ∈ u.hierarchy → u ≠ s → ∀ signature, Declares s signature →
        Declares u signature → ∃ v ∈ before, Declares v signature) ∧
    (t.hierarchy.Nodup → MostDerived t) := by
  refine ⟨⟨fun derived => ?_, mostDerived_of_order⟩, fun distinct => mostDerived_of_order ?_⟩
  · intro before s after split u late above other signature declares overridden
    by_contra none
    obtain ⟨m, listed, rfl, declaring⟩ := listed_of_first split declares
      fun v earlier earliest => none ⟨v, earlier, earliest⟩
    refine derived m listed u ⟨?_, ⟨s, declaring, above, other⟩, overridden⟩
    rw [split]
    exact List.mem_append_right _ (List.mem_cons_of_mem _ late)
  · intro before s after split u late above other
    -- The type above `u` is met again behind `u`, so it is met twice.
    obtain ⟨between, rest, rfl⟩ := List.append_of_mem late
    have place : t.hierarchy = (before ++ s :: between) ++ u :: rest := by
      rw [split, List.append_assoc, List.cons_append]
    have again : s ∈ rest := behind_of_above above other place
    rw [split] at distinct
    have once := (List.nodup_cons.mp (List.nodup_append.mp distinct).2.1).1
    exact absurd (List.mem_append_right between (List.mem_cons_of_mem u again)) once

/-- A statement is a journal and nothing else. -/
def statement : HostType :=
  .mk "demo.Statement" 5 [] [journal] [action "print"]

theorem statements_are_most_derived : statement.hierarchy.Nodup ∧ MostDerived statement := by
  have distinct : statement.hierarchy.Nodup :=
    List.Nodup.of_map HostType.name (by decide +kernel)
  exact ⟨distinct, (most_derived_iff statement).2 distinct⟩

/-- The method `post` as books have it. -/
def postOfBook : Method := ⟨some book, action "post"⟩

/-- A ledger is a book by way of its drafts before it is a journal. So it has `post` as books have it,
though journals override that, and a clause that asks for the audited journal does not match. -/
theorem override_on_a_later_path_is_missed :
    postOfBook ∈ ledger.methods ∧ Overrides ledger journal postOfBook ∧ ¬ MostDerived ledger ∧
    AnnotationSite.within.holds "Audited" (.on ledger ⟨some journal, action "post"⟩) = true ∧
    (ledger.methods.map fun m => AnnotationSite.within.holds "Audited" (.on ledger m)) =
      [false, false, false] := by
  have listed : postOfBook ∈ ledger.methods := by
    have methods : ledger.methods =
        [⟨some ledger, action "print"⟩, ⟨some draft, action "close"⟩, postOfBook] := rfl
    simp [methods]
  have hierarchy : ledger.hierarchy = [ledger, draft, book, journal, book] := rfl
  have other : journal ≠ book := fun same => absurd (congrArg HostType.name same) (by decide)
  have inside : journal ∈ ledger.hierarchy := by simp [hierarchy]
  have below : ∃ s, postOfBook.declaring = some s ∧ s ∈ journal.hierarchy ∧ journal ≠ s :=
    ⟨book, rfl, List.mem_cons_of_mem _ List.mem_cons_self, other⟩
  have overrides : Overrides ledger journal postOfBook :=
    ⟨inside, below, ⟨some journal, action "post"⟩, List.mem_singleton_self _, rfl⟩
  exact ⟨listed, overrides, fun derived => derived _ listed _ overrides, by decide +kernel,
    by decide +kernel⟩

end Crosscut.Overriding
