import Crosscut.Proofs.Inheritance

/-! What the method list of a type holds. The list is made level by level: a type takes over what
its direct supertypes list, and leaves out what is overridden by then. Reading the hierarchy once
comes to the same: the declared methods stand first, and behind them the first method of each
signature among all that the types above declare, in the order of the hierarchy. The levels in
between may leave methods out, but never the first of a signature. So looking a signature up on a
type is a search of its hierarchy for the first type that declares it. -/
namespace Crosscut.MethodLists
open Inheritance

/-- The first method of each signature. -/
def firsts (methods : List Method) : List Method :=
  methods.eraseDupsBy Method.sameSignature

/-- What the types above a type declare, type by type in the order of the hierarchy. -/
def declaredAbove (t : HostType) : List Method :=
  (t.supertypes.flatMap HostType.hierarchy).flatMap HostType.declared

/-- The first method of each signature above a type that the type does not declare itself. -/
def inherited (t : HostType) : List Method :=
  (firsts (declaredAbove t)).filter fun m => !t.declared.any m.sameSignature

variable {m n : Method} {xs ys listed : List Method}

/-! ### The first of each signature -/

theorem sameSignature_comm (m n : Method) : m.sameSignature n = n.sameSignature m := by
  rw [Bool.eq_iff_iff, Method.sameSignature_iff, Method.sameSignature_iff]
  exact eq_comm

theorem sameSignature_congr (same : m.signature = n.signature) (other : Method) :
    m.sameSignature other = n.sameSignature other := by
  rw [Bool.eq_iff_iff, Method.sameSignature_iff, Method.sameSignature_iff, same]

theorem any_sameSignature : listed.any m.sameSignature = true ↔
    ∃ n ∈ listed, n.signature = m.signature := by
  simp only [List.any_eq_true, Method.sameSignature_iff, eq_comm (a := m.signature)]

theorem firsts_cons_filter (m : Method) (xs : List Method) :
    firsts (m :: xs) = m :: firsts (xs.filter (!m.sameSignature ·)) := by
  rw [firsts, List.eraseDupsBy_cons, firsts]
  congr 2
  refine List.filter_congr fun n _ => ?_
  rw [sameSignature_comm n m]
  cases m.sameSignature n <;> rfl

/-- A test of signatures leaves the same methods before and after. -/
theorem firsts_filter {test : Method → Bool}
    (bySignature : ∀ m n : Method, m.signature = n.signature → test m = test n) :
    (xs : List Method) → firsts (xs.filter test) = (firsts xs).filter test
  | [] => rfl
  | m :: rest => by
    -- The induction is on the length, since the definition goes on with a filtered list.
    have behind := firsts_filter bySignature (rest.filter (!m.sameSignature ·))
    rw [firsts_cons_filter, List.filter_cons, List.filter_cons]
    by_cases kept : test m = true
    · rw [if_pos kept, if_pos kept, firsts_cons_filter, ← behind, List.filter_filter,
        List.filter_filter]
      simp only [Bool.and_comm]
    · rw [if_neg kept, if_neg kept, ← behind, List.filter_filter]
      congr 1
      refine List.filter_congr fun n _ => ?_
      cases same : m.sameSignature n with
      | false => simp
      | true =>
        have equal := bySignature m n (Method.sameSignature_iff.mp same)
        simpa [← equal] using kept
termination_by xs => xs.length
decreasing_by exact Nat.lt_succ_of_le (List.length_filter_le _ _)

theorem firsts_cons (m : Method) (xs : List Method) :
    firsts (m :: xs) = m :: (firsts xs).filter (!m.sameSignature ·) := by
  rw [firsts_cons_filter, firsts_filter]
  intro n other same
  rw [sameSignature_comm, sameSignature_congr same, sameSignature_comm]

/-- Of two lists in a row, the second one adds the signatures that the first one lacks. -/
theorem firsts_append (xs ys : List Method) :
    firsts (xs ++ ys) = firsts xs ++ (firsts ys).filter fun m => !xs.any m.sameSignature := by
  induction xs with
  | nil => exact (List.filter_eq_self.mpr (by simp)).symm
  | cons m rest ih =>
    rw [List.cons_append, firsts_cons, firsts_cons, ih, List.filter_append, List.cons_append,
      List.filter_filter]
    congr 2
    refine List.filter_congr fun n _ => ?_
    rw [List.any_cons, sameSignature_comm n m, Bool.not_or]

/-- No two of the first methods have one signature. -/
theorem pairwise_firsts (xs : List Method) :
    (firsts xs).Pairwise fun m n => m.signature ≠ n.signature := by
  induction xs with
  | nil => exact .nil
  | cons m rest ih =>
    rw [firsts_cons]
    refine .cons (fun n member => ?_) (ih.filter _)
    have other := (List.mem_filter.mp member).2
    rwa [Bool.not_eq_true', ← Bool.not_eq_true, Method.sameSignature_iff] at other

theorem firsts_of_pairwise (distinct : xs.Pairwise fun m n => m.signature ≠ n.signature) :
    firsts xs = xs := by
  induction distinct with
  | nil => rfl
  | @cons m rest apart _ ih =>
    rw [firsts_cons, ih, List.filter_eq_self.mpr]
    intro n member
    rw [Bool.not_eq_true', ← Bool.not_eq_true, Method.sameSignature_iff]
    exact apart n member

theorem firsts_firsts (xs : List Method) : firsts (firsts xs) = firsts xs :=
  firsts_of_pairwise (pairwise_firsts xs)

/-- A signature is looked up among the first methods as among all. -/
theorem find?_firsts (signature : String × List String) (xs : List Method) :
    (firsts xs).find? (·.signature == signature) = xs.find? (·.signature == signature) := by
  induction xs with
  | nil => rfl
  | cons m rest ih =>
    rw [firsts_cons, List.find?_cons, List.find?_cons]
    cases here : m.signature == signature with
    | true => rfl
    | false =>
      -- Leaving out what has the signature of `m` leaves out nothing that is looked for.
      have kept : ∀ n : Method, (!m.sameSignature n && n.signature == signature) =
          (n.signature == signature) := by
        intro n
        by_cases found : n.signature = signature
        · have other : m.sameSignature n = false := by
            rw [← Bool.not_eq_true, Method.sameSignature_iff, found]
            simpa using here
          simp [other]
        · simp [found]
      dsimp only
      rw [← ih, List.find?_filter]
      simp only [← Bool.and_eq_true, kept, Bool.decide_eq_true]

/-- Lists with the same first methods hold the same signatures. -/
theorem any_congr (same : firsts xs = firsts ys) (m : Method) :
    xs.any m.sameSignature = ys.any m.sameSignature := by
  have looked : ∀ zs : List Method, zs.any m.sameSignature =
      (zs.find? (·.signature == m.signature)).isSome := by
    intro zs
    rw [List.isSome_find?]
    congr 1
    funext n
    rw [Bool.eq_iff_iff, Method.sameSignature_iff, beq_iff_eq]
    exact eq_comm
  rw [looked, looked, ← find?_firsts, same, find?_firsts]

theorem firsts_append_congr {xs' ys' : List Method} (front : firsts xs = firsts xs')
    (back : firsts ys = firsts ys') : firsts (xs ++ ys) = firsts (xs' ++ ys') := by
  rw [firsts_append, firsts_append, front, back]
  simp only [any_congr front]

theorem firsts_flatMap_congr {types : List HostType} {f g : HostType → List Method}
    (same : ∀ s ∈ types, firsts (f s) = firsts (g s)) :
    firsts (types.flatMap f) = firsts (types.flatMap g) := by
  induction types with
  | nil => rfl
  | cons t rest ih =>
    obtain ⟨here, later⟩ := List.forall_mem_cons.mp same
    rw [List.flatMap_cons, List.flatMap_cons]
    exact firsts_append_congr here (ih later)

/-! ### The list of a type -/

/-- What is added to a list is the first of each signature that it lacks. -/
theorem newcomers_eq (listed xs : List Method) :
    Method.newcomers listed xs = (firsts xs).filter fun m => !listed.any m.sameSignature := by
  induction xs generalizing listed with
  | nil => rfl
  | cons m rest ih =>
    rw [Method.newcomers, firsts_cons, List.filter_cons, List.filter_filter]
    by_cases overridden : listed.any m.sameSignature = true
    · rw [if_pos overridden, ih, overridden, if_neg (by simp)]
      refine List.filter_congr fun n _ => ?_
      -- What has the signature of `m` is overridden as `m` is.
      cases same : m.sameSignature n with
      | false => simp
      | true =>
        have equal := funext (sameSignature_congr (Method.sameSignature_iff.mp same))
        simp [← equal, overridden]
    · rw [if_neg overridden, ih, if_pos (by simpa using overridden)]
      congr 1
      refine List.filter_congr fun n _ => ?_
      rw [List.any_cons, Bool.not_or, sameSignature_comm n m, Bool.and_comm]

theorem methods_eq_append (t : HostType) :
    t.methods = t.declared ++ (firsts (t.supertypes.flatMap HostType.methods)).filter
      fun m => !t.declared.any m.sameSignature := by
  rw [HostType.methods_eq, Method.inheritAll, newcomers_eq]

/-- Leaving out methods at every level keeps the first of each signature in the hierarchy. -/
theorem firsts_methods (t : HostType) :
    firsts t.methods = firsts (t.hierarchy.flatMap HostType.declared) := by
  induction t using supertypes_induction with
  | step t ih =>
    have above := firsts_flatMap_congr ih
    rw [← List.flatMap_assoc] at above
    rw [methods_eq_append, HostType.hierarchy_eq, List.flatMap_cons, firsts_append, firsts_append,
      firsts_filter, firsts_firsts, List.filter_filter, above]
    · simp only [Bool.and_self]
    · intro m n same
      rw [funext (sameSignature_congr same)]

/-- The declared methods of a type come first, and what it inherits follows. -/
theorem methods_eq_declared_append (t : HostType) : t.methods = t.declared ++ inherited t := by
  have above : firsts (t.supertypes.flatMap HostType.methods) = firsts (declaredAbove t) := by
    rw [declaredAbove, List.flatMap_assoc]
    exact firsts_flatMap_congr fun s _ => firsts_methods s
  rw [methods_eq_append, above, inherited]

/-- Looking a signature up on a type is a search of its hierarchy. -/
theorem find?_methods (t : HostType) (signature : String × List String) :
    t.methods.find? (·.signature == signature) =
      t.hierarchy.findSome? fun s => s.declared.find? (·.signature == signature) := by
  rw [← find?_firsts, firsts_methods, find?_firsts, List.find?_flatMap]

/-- Every signature that is declared in the hierarchy of a type is listed. -/
theorem signature_is_listed {s t : HostType} (above : s ∈ t.hierarchy) (own : m ∈ s.declared) :
    ∃ n ∈ t.methods, n.signature = m.signature := by
  have declares : (t.hierarchy.flatMap HostType.declared).any m.sameSignature = true :=
    any_sameSignature.mpr ⟨m, List.mem_flatMap.mpr ⟨s, above, own⟩, rfl⟩
  rwa [← any_congr (firsts_methods t), any_sameSignature] at declares

/-- An inherited method has a signature that the type does not declare. -/
theorem not_declared_of_inherited {t : HostType} (member : m ∈ inherited t) (own : n ∈ t.declared) :
    m.signature ≠ n.signature := by
  have free := (List.mem_filter.mp member).2
  rw [Bool.not_eq_true', ← Bool.not_eq_true, any_sameSignature] at free
  exact fun same => free ⟨n, own, same.symm⟩

/-- A method stands alone with its signature, unless the type declares it more than once. -/
theorem place_of_signature {t : HostType} {i j : Nat} (at_i : t.methods[i]? = some m)
    (at_j : t.methods[j]? = some n) (same : m.signature = n.signature) :
    i = j ∨ i < t.declared.length ∧ j < t.declared.length := by
  rw [methods_eq_declared_append, List.getElem?_append] at at_i at_j
  split at at_i <;> split at at_j
  · rename_i own own'
    exact .inr ⟨own, own'⟩
  · have own := List.mem_of_getElem? at_i
    exact absurd same.symm (not_declared_of_inherited (List.mem_of_getElem? at_j) own)
  · have own := List.mem_of_getElem? at_j
    exact absurd same (not_declared_of_inherited (List.mem_of_getElem? at_i) own)
  · have distinct : ((inherited t).map Method.signature).Nodup :=
      List.pairwise_map.mpr ((pairwise_firsts _).filter _)
    have alike : ((inherited t).map Method.signature)[i - t.declared.length]? =
        ((inherited t).map Method.signature)[j - t.declared.length]? := by
      rw [List.getElem?_map, List.getElem?_map, at_i, at_j, Option.map_some, Option.map_some, same]
    have within := (List.getElem?_eq_some_iff.mp at_i).1
    have place := (List.getElem?_inj (by simpa using within) distinct).mp alike
    exact .inl (by omega)

/-- The method list of a type loses and repeats nothing. It is the declared methods, followed by the
first method of each signature that the type does not declare among all that are declared above it,
in the order of the hierarchy. So every signature in the hierarchy is listed, an inherited method
shares its signature with no other listed one, and every listed method is declared by a type of the
hierarchy. -/
theorem methods_are_first_declarations (t : HostType) :
    t.methods = t.declared ++ inherited t ∧
    (∀ s ∈ t.hierarchy, ∀ m ∈ s.declared, ∃ n ∈ t.methods, n.signature = m.signature) ∧
    (∀ (i j : Nat) m n, t.methods[i]? = some m → t.methods[j]? = some n →
      m.signature = n.signature → i = j ∨ i < t.declared.length ∧ j < t.declared.length) ∧
    ∀ m ∈ t.methods, ∃ s ∈ t.hierarchy, m ∈ s.declared ∧ m.declaring = some s := by
  refine ⟨methods_eq_declared_append t, fun s above m own => signature_is_listed above own,
    fun i j m n at_i at_j same => place_of_signature at_i at_j same, fun m listed => ?_⟩
  obtain ⟨s, above, own⟩ := method_is_declared_above m t listed
  exact ⟨s, above, own, declaring_of_declared own⟩

/-- A public method without parameters. -/
def action (name : String) : Declaration HostType :=
  ⟨name, .bare "void", [], [.isPublic], []⟩

/-- Books can be posted to and closed. -/
def book : HostType :=
  .mk "demo.Book" 1 [] [] [action "post", action "close"]

/-- Drafts are closed in their own way. -/
def draft : HostType :=
  .mk "demo.Draft" 2 [] [book] [action "close"]

/-- Journals are audited, and post in their own way. -/
def journal : HostType :=
  .mk "demo.Journal" 3 [⟨"Audited", []⟩] [book] [action "post"]

/-- A ledger is a draft and a journal, so it is a book in two ways. -/
def ledger : HostType :=
  .mk "demo.Ledger" 4 [] [draft, journal] [action "print"]

/-- A ledger lists `print` itself, and of the six declarations above it the first `close` and the first
`post`. -/
theorem ledger_inherits_once :
    ledger.methods.map (fun m => (m.declaringName, m.name)) =
      [("demo.Ledger", "print"), ("demo.Draft", "close"), ("demo.Book", "post")] ∧
    (declaredAbove ledger).map (fun m => (m.declaringName, m.name)) =
      [("demo.Draft", "close"), ("demo.Book", "post"), ("demo.Book", "close"),
        ("demo.Journal", "post"), ("demo.Book", "post"), ("demo.Book", "close")] ∧
    ledger.methods = ledger.declared ++ inherited ledger :=
  ⟨by decide +kernel, by decide +kernel, (methods_are_first_declarations ledger).1⟩

end Crosscut.MethodLists
