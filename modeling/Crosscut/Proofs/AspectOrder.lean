import Crosscut.Resolver.Scan
import Mathlib.Data.List.Basic

/-! The order of aspects. A container may hold its beans in any order; the aspects among them are
sorted by the positions that they ask for, and sorting is stable. This leaves one order. -/
namespace Crosscut.AspectOrder

variable {p : AspectPolicy}

/-- The position that a bean asks for among aspects. -/
def position (p : AspectPolicy) (b : Bean) : Option Int :=
  p.vocabulary.order? b.type

/-- An earlier place is one that asks for no greater position. Whoever asks for none is last. -/
def Earlier (position other : Option Int) : Prop :=
  ∀ late, other = some late → ∃ early, position = some early ∧ early ≤ late

/-- The aspects among beans in their order: by ascending position, and among those that ask for the
same position, or for none, as the beans stand. -/
structure Arranged (p : AspectPolicy) (beans ordered : List Bean) : Prop where
  ascending : ordered.Pairwise fun a b => Earlier (position p a) (position p b)
  stable : ∀ place, ordered.filter (position p · = place) =
    (beans.filter (p.isAspect ·.type)).filter (position p · = place)

theorem earlier_iff {a b : Option Int} : Earlier a b ↔ AspectPolicy.mayPrecede a b = true := by
  cases a <;> cases b <;> simp [Earlier, AspectPolicy.mayPrecede]

theorem earlier_antisymm {a b : Option Int} (before : Earlier a b) (behind : Earlier b a) : a = b := by
  cases b with
  | some late =>
    obtain ⟨early, rfl, le⟩ := before late rfl
    obtain ⟨same, known, ge⟩ := behind early rfl
    cases known
    rw [Int.le_antisymm le ge]
  | none =>
    cases a with
    | none => rfl
    | some early =>
      obtain ⟨_, impossible, -⟩ := behind early rfl
      cases impossible

theorem mayPrecede_trans (a b c : Option Int) (first : AspectPolicy.mayPrecede a b = true)
    (second : AspectPolicy.mayPrecede b c = true) : AspectPolicy.mayPrecede a c = true := by
  rw [← earlier_iff] at *
  intro late known
  obtain ⟨middle, here, le⟩ := second late known
  obtain ⟨early, there, before⟩ := first middle here
  exact ⟨early, there, Int.le_trans before le⟩

theorem mayPrecede_total (a b : Option Int) :
    (AspectPolicy.mayPrecede a b || AspectPolicy.mayPrecede b a) = true := by
  cases a <;> cases b <;> simp [AspectPolicy.mayPrecede, Int.le_total]

/-- The aspects are arranged as they are woven. Those of one position are sorted as they stand, so
sorting the others around them keeps them so. -/
theorem arranged_aspects (p : AspectPolicy) (beans : List Bean) :
    Arranged p beans (p.aspects beans) := by
  let le (a b : Bean) : Bool := AspectPolicy.mayPrecede (position p a) (position p b)
  have trans : ∀ a b c, le a b = true → le b c = true → le a c = true :=
    fun a b c => mayPrecede_trans _ _ _
  have total : ∀ a b, (le a b || le b a) = true := fun a b => mayPrecede_total _ _
  have sorted : p.aspects beans = (beans.filter (p.isAspect ·.type)).mergeSort le := rfl
  rw [sorted]
  refine ⟨(List.pairwise_mergeSort trans total _).imp fun before => earlier_iff.mpr before,
    fun place => ?_⟩
  have inOrder : ((beans.filter (p.isAspect ·.type)).filter (position p · = place)).Pairwise
      (le · · = true) := by
    refine List.pairwise_of_forall_mem_list fun a here b there => ?_
    have first : position p a = place := by simpa using (List.mem_filter.mp here).2
    have second : position p b = place := by simpa using (List.mem_filter.mp there).2
    simp only [le, first, second]
    simpa using mayPrecede_total place place
  have kept := (List.sublist_mergeSort trans total inOrder List.filter_sublist).filter
    (position p · = place)
  rw [List.filter_filter, show (fun b => decide (position p b = place) &&
    decide (position p b = place)) = fun b => decide (position p b = place) by simp] at kept
  exact (kept.eq_of_length ((List.mergeSort_perm _ le).filter _).length_eq.symm).symm

/-- The first aspects of two arrangements ask for one position, since each stands behind the other in
the other one's. -/
theorem position_heads {a b : Bean} {rest later : List Bean}
    (first : ∀ c ∈ rest, Earlier (position p a) (position p c))
    (leads : ∀ c ∈ later, Earlier (position p b) (position p c))
    (same : ∀ place, (a :: rest).filter (position p · = place) =
      (b :: later).filter (position p · = place)) : position p a = position p b := by
  by_contra apart
  have here : a ∈ (b :: later).filter (position p · = position p a) := by
    rw [← same]
    simp
  have there : b ∈ (a :: rest).filter (position p · = position p b) := by
    rw [same]
    simp
  have afterB : a ∈ later := (List.mem_cons.mp (List.mem_filter.mp here).1).resolve_left
    fun equal => apart (by rw [equal])
  have afterA : b ∈ rest := (List.mem_cons.mp (List.mem_filter.mp there).1).resolve_left
    fun equal => apart (by rw [equal])
  exact apart (earlier_antisymm (first b afterA) (leads a afterB))

/-- There is one way to arrange aspects. The first ones of two arrangements ask for one position, and
they are the first to ask for it. -/
theorem arranged_unique {beans ordered other : List Bean} (one : Arranged p beans ordered)
    (two : Arranged p beans other) : ordered = other := by
  have same : ∀ place, ordered.filter (position p · = place) = other.filter (position p · = place) :=
    fun place => (one.stable place).trans (two.stable place).symm
  have ascending := one.ascending
  have ascends := two.ascending
  clear one two
  induction ordered generalizing other with
  | nil =>
    cases other with
    | nil => rfl
    | cons b rest => simpa using same (position p b)
  | cons a rest ih =>
    cases other with
    | nil => simpa using same (position p a)
    | cons b later =>
      obtain ⟨first, behind⟩ := List.pairwise_cons.mp ascending
      obtain ⟨leads, follow⟩ := List.pairwise_cons.mp ascends
      have level : position p a = position p b := position_heads first leads same
      obtain rfl : a = b := by
        have heads := same (position p a)
        rw [List.filter_cons_of_pos (by simp), List.filter_cons_of_pos (by simp [level])] at heads
        exact (List.cons.inj heads).1
      refine congrArg (a :: ·) (ih (fun place => ?_) behind follow)
      have tails := same place
      by_cases asked : position p a = place
      · rw [List.filter_cons_of_pos (by simp [asked]), List.filter_cons_of_pos (by simp [asked])]
          at tails
        exact (List.cons.inj tails).2
      · rwa [List.filter_cons_of_neg (by simp [asked]), List.filter_cons_of_neg (by simp [asked])]
          at tails

/-- Leaving beans out leaves the others in their order. -/
theorem aspects_filter (p : AspectPolicy) (beans : List Bean) (keep : Bean → Bool) :
    p.aspects (beans.filter keep) = (p.aspects beans).filter keep := by
  refine arranged_unique (arranged_aspects p (beans.filter keep)) ⟨?_, fun place => ?_⟩
  · exact (arranged_aspects p beans).ascending.filter keep
  · rw [List.filter_comm, (arranged_aspects p beans).stable]
    simp only [List.filter_filter]
    refine List.filter_congr fun b _ => ?_
    grind

end Crosscut.AspectOrder
