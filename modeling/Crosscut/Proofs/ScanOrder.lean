import Crosscut.Proofs.AspectOrder
import Crosscut.Proofs.SlotLayout
import Crosscut.Resolver
import Mathlib.Data.List.Forall2

/-! What a scan finds, and in which order. Every aspect contributes all of its interceptors or none,
and what one contributes does not depend on the others. A lenient scan puts the contributions one
after another; a strict one finds the same, or fails with the first aspect that is rejected. -/
namespace Crosscut.ScanOrder
open AspectOrder

variable {p : AspectPolicy}

/-! ### Contributions -/

/-- The advices of a type: each of its methods with each kind of advice that it is marked as. -/
def pairs (p : AspectPolicy) (t : HostType) : List (Method × AdviceKind) :=
  t.methods.flatMap fun m =>
    (AdviceKind.all.filter fun kind => (m.annotation? (p.vocabulary.adviceName kind)).isSome).map
      (m, ·)

/-- What comes of one advice of an aspect: its mark, and what the method is built to with it. -/
def Builds (p : AspectPolicy) (b : Bean) (advice : Method × AdviceKind)
    (result : Except AdviceError Interceptor) : Prop :=
  ∃ marker, advice.1.annotation? (p.vocabulary.adviceName advice.2) = some marker ∧
    result = Interceptor.build p.vocabulary b.name b.object advice.1 advice.2 marker

/-- An aspect contributes one interceptor for each of its advices. -/
def Contributes (p : AspectPolicy) (b : Bean) (list : List Interceptor) : Prop :=
  List.Forall₂ (fun advice i => Builds p b advice (.ok i)) (pairs p b.type) list

/-- An aspect is rejected with the error of its first advice that is. -/
def Rejected (p : AspectPolicy) (b : Bean) (e : AdviceError) : Prop :=
  ∃ before failing after, pairs p b.type = before ++ failing :: after ∧
    Builds p b failing (.error e) ∧ ∀ advice ∈ before, ∃ i, Builds p b advice (.ok i)

/-- The listed advices without their marks. -/
theorem pairs_eq (p : AspectPolicy) (t : HostType) :
    pairs p t = (p.advices t).map fun advice => (advice.1, advice.2.1) := by
  simp only [pairs, AspectPolicy.advices, List.map_flatMap]
  congr 1
  funext m
  induction AdviceKind.all with
  | nil => rfl
  | cons kind rest ih =>
    cases marked : m.annotation? (p.vocabulary.adviceName kind) <;> simp [marked, ih]

/-- A listed advice is built with the mark that it is listed with. -/
theorem builds_iff {b : Bean} {advice : Method × AdviceKind × Annotation}
    (listed : advice ∈ p.advices b.type) {result : Except AdviceError Interceptor} :
    Builds p b (advice.1, advice.2.1) result ↔
      Interceptor.build p.vocabulary b.name b.object advice.1 advice.2.1 advice.2.2 = result := by
  obtain ⟨m, -, inside⟩ := List.mem_flatMap.mp listed
  obtain ⟨kind, -, made⟩ := List.mem_filterMap.mp inside
  obtain ⟨marker, marked, rfl⟩ := Option.map_eq_some_iff.mp made
  simp [Builds, marked, eq_comm]

/-- An aspect contributes what its interceptors are built to. -/
theorem contributes_iff {b : Bean} {list : List Interceptor} :
    Contributes p b list ↔ p.interceptorsOf b = .ok list := by
  unfold Contributes AspectPolicy.interceptorsOf
  rw [collect_eq_ok, pairs_eq, List.forall₂_map_left_iff, ← List.forall₂_eq_eq_eq,
    List.forall₂_map_left_iff, List.forall₂_map_right_iff, List.forall₂_iff_zip,
    List.forall₂_iff_zip]
  refine and_congr_right fun _ => forall_congr' fun advice => forall_congr' fun i =>
    imp_congr_right fun together => ?_
  exact builds_iff (List.of_mem_zip together).1

/-- An aspect is rejected where building its interceptors fails. -/
theorem rejected_iff {b : Bean} {e : AdviceError} :
    Rejected p b e ↔ p.interceptorsOf b = .error e := by
  unfold Rejected AspectPolicy.interceptorsOf
  rw [collect_eq_error, pairs_eq]
  constructor
  · rintro ⟨before, failing, after, shape, failed, passed⟩
    obtain ⟨front, back, whole, rfl, rest⟩ := List.map_eq_append_iff.mp shape
    obtain ⟨advice, later, rfl, rfl, rfl⟩ := List.map_eq_cons_iff.mp rest
    refine ⟨front, advice, later, whole, (builds_iff (by simp [whole])).mp failed,
      fun earlier member => ?_⟩
    obtain ⟨i, built⟩ := passed _ (List.mem_map_of_mem member)
    exact ⟨i, (builds_iff (by simp [whole, member])).mp built⟩
  · rintro ⟨front, advice, later, whole, failed, passed⟩
    refine ⟨_, _, _, by rw [whole, List.map_append, List.map_cons],
      (builds_iff (by simp [whole])).mpr failed, fun pair member => ?_⟩
    obtain ⟨earlier, there, rfl⟩ := List.mem_map.mp member
    obtain ⟨i, built⟩ := passed earlier there
    exact ⟨i, (builds_iff (by simp [whole, there])).mpr built⟩

/-- An aspect is rejected, with one error, or contributes, in one way. -/
theorem contributes_or_rejected (p : AspectPolicy) (b : Bean) :
    (∃ list, Contributes p b list) ∨ ∃ e, Rejected p b e := by
  cases outcome : p.interceptorsOf b with
  | ok list => exact .inl ⟨list, contributes_iff.mpr outcome⟩
  | error e => exact .inr ⟨e, rejected_iff.mpr outcome⟩

/-- What an aspect contributes to a lenient scan. -/
def contribution (p : AspectPolicy) (b : Bean) : List Interceptor :=
  (p.interceptorsOf b).toOption.getD []

theorem contribution_of_contributes {b : Bean} {list : List Interceptor}
    (contributes : Contributes p b list) : contribution p b = list := by
  rw [contribution, contributes_iff.mp contributes]
  rfl

theorem contribution_of_rejected {b : Bean} {e : AdviceError} (rejected : Rejected p b e) :
    contribution p b = [] := by
  rw [contribution, rejected_iff.mp rejected]
  rfl

theorem labels_of_build {v : Vocabulary} {aspect : String} {owner : Instance} {m : Method}
    {kind : AdviceKind} {marker : Annotation} {i : Interceptor}
    (built : Interceptor.build v aspect owner m kind marker = .ok i) :
    i.aspect = aspect ∧ i.advice = m ∧ i.kind = kind := by
  obtain ⟨derived, -⟩ := Interceptor.parts_of_build built
  obtain ⟨bindings, reserved, read⟩ := SlotLayout.derivedFrom_of_derive derived
  refine ⟨?_, (Interceptor.advice_of_build built).2, read.ofKind⟩
  unfold Interceptor.build at built
  split at built
  · cases built
  · dsimp only at built
    split at built
    · cases built
    · cases built
      rfl

/-- An interceptor knows the aspect, the method and the kind of advice that it stands for. -/
theorem labels_of_contributes {b : Bean} {list : List Interceptor}
    (contributes : Contributes p b list) :
    list.map (fun i => (i.aspect, i.advice, i.kind)) =
      (pairs p b.type).map fun advice => (b.name, advice) := by
  unfold Contributes at contributes
  generalize pairs p b.type = advices at contributes ⊢
  induction contributes with
  | nil => rfl
  | cons builds _ ih =>
    obtain ⟨marker, -, made⟩ := builds
    obtain ⟨aspect, method, kind⟩ := labels_of_build made.symm
    rw [List.map_cons, List.map_cons, ih, aspect, method, kind]

/-! ### Scans -/

theorem assemble_append (p : AspectPolicy) (beans others : List Bean) :
    p.assemble (beans ++ others) =
      (p.assemble beans).bind fun own => (p.assemble others).map (own ++ ·) := by
  induction beans with
  | nil =>
    simp only [List.nil_append, AspectPolicy.assemble, Except.bind]
    cases p.assemble others <;> rfl
  | cons b rest ih =>
    simp only [List.cons_append, AspectPolicy.assemble, ih]
    cases p.interceptorsOf b with
    | ok built =>
      cases p.assemble rest with
      | error e => rfl
      | ok own => cases p.assemble others <;> simp [Except.map, Except.bind]
    | error e => cases p.strict <;> rfl

/-- A scan goes through the aspects of the container and then through the shared ones. -/
theorem scan_eq_assemble (p : AspectPolicy) (beans : BeanScope → List Bean) :
    p.scan beans = p.assemble (p.aspects (beans .plugin) ++ p.aspects (beans .global)) := by
  rw [assemble_append, AspectPolicy.scan_eq]
  cases p.assemble (p.aspects (beans .plugin)) <;> rfl

/-- A lenient scan finds what the aspects contribute. -/
theorem assemble_lenient (lenient : p.strict = false) (aspects : List Bean) :
    p.assemble aspects = .ok (aspects.flatMap (contribution p)) := by
  induction aspects with
  | nil => rfl
  | cons b rest ih =>
    rw [AspectPolicy.assemble, List.flatMap_cons, contribution]
    cases p.interceptorsOf b with
    | ok built => rw [ih]; rfl
    | error e => simp [lenient, ih, Except.toOption]

/-- None of these aspects is rejected. -/
def Sound (p : AspectPolicy) (aspects : List Bean) : Prop :=
  ∀ b ∈ aspects, ∀ e, ¬ Rejected p b e

/-- The error of the first of these aspects that is rejected. -/
def FirstRejected (p : AspectPolicy) (aspects : List Bean) (f : ResolveError) : Prop :=
  ∃ before b after e, aspects = before ++ b :: after ∧ Sound p before ∧ Rejected p b e ∧
    f = ⟨b.name, e⟩

/-- While no aspect is rejected, every scan finds what the aspects contribute. -/
theorem assemble_sound {aspects : List Bean} (sound : Sound p aspects) :
    p.assemble aspects = .ok (aspects.flatMap (contribution p)) := by
  induction aspects with
  | nil => rfl
  | cons b rest ih =>
    obtain ⟨here, behind⟩ := List.forall_mem_cons.mp sound
    rw [AspectPolicy.assemble, List.flatMap_cons, contribution]
    cases outcome : p.interceptorsOf b with
    | ok built => rw [ih behind]; rfl
    | error e => exact absurd (rejected_iff.mpr outcome) (here e)

theorem firstRejected_cons {b : Bean} {rest : List Bean} {f : ResolveError} :
    FirstRejected p (b :: rest) f ↔
      (∃ e, Rejected p b e ∧ f = ⟨b.name, e⟩) ∨ (∀ e, ¬ Rejected p b e) ∧ FirstRejected p rest f := by
  constructor
  · rintro ⟨before, failing, after, e, shape, sound, rejected, rfl⟩
    cases before with
    | nil =>
      cases shape
      exact .inl ⟨e, rejected, rfl⟩
    | cons head tail =>
      cases shape
      obtain ⟨here, behind⟩ := List.forall_mem_cons.mp sound
      exact .inr ⟨here, tail, failing, after, e, rfl, behind, rejected, rfl⟩
  · rintro (⟨e, rejected, rfl⟩ | ⟨here, before, failing, after, e, rfl, sound, rejected, rfl⟩)
    · exact ⟨[], b, rest, e, rfl, by simp [Sound], rejected, rfl⟩
    · exact ⟨b :: before, failing, after, e, rfl, List.forall_mem_cons.mpr ⟨here, sound⟩, rejected,
        rfl⟩

/-- A strict scan fails with the first rejected aspect. -/
theorem assemble_eq_error (strict : p.strict = true) {aspects : List Bean} {f : ResolveError} :
    p.assemble aspects = .error f ↔ FirstRejected p aspects f := by
  induction aspects with
  | nil => simp [AspectPolicy.assemble, FirstRejected]
  | cons b rest ih =>
    rw [firstRejected_cons, AspectPolicy.assemble]
    simp only [rejected_iff]
    cases outcome : p.interceptorsOf b with
    | ok built => simp [map_eq_error, ih]
    | error e => simp [strict, eq_comm]

/-- Some beans without some of their broken aspects. -/
inductive Weeded (p : AspectPolicy) : List Bean → List Bean → Prop
  | nil : Weeded p [] []
  | keep (b : Bean) {beans others : List Bean} (behind : Weeded p beans others) :
      Weeded p (b :: beans) (b :: others)
  | drop {b : Bean} {e : AdviceError} (rejected : Rejected p b e) {beans others : List Bean}
      (behind : Weeded p beans others) : Weeded p (b :: beans) others

/-- Beans that contribute nothing may be left out. -/
theorem flatMap_aspects (p : AspectPolicy) (beans : List Bean) :
    (p.aspects beans).flatMap (contribution p) =
      (p.aspects (beans.filter fun b => !(contribution p b).isEmpty)).flatMap (contribution p) := by
  rw [aspects_filter]
  induction p.aspects beans with
  | nil => rfl
  | cons b rest ih =>
    cases none : contribution p b <;> simp [none, ih]

theorem flatMap_of_weeded {beans others : List Bean} (weeded : Weeded p beans others) :
    (p.aspects others).flatMap (contribution p) = (p.aspects beans).flatMap (contribution p) := by
  have same : others.filter (fun b => !(contribution p b).isEmpty) =
      beans.filter fun b => !(contribution p b).isEmpty := by
    induction weeded with
    | nil => rfl
    | keep b _ ih => rw [List.filter_cons, List.filter_cons, ih]
    | drop rejected _ ih =>
      rw [List.filter_cons, contribution_of_rejected rejected, ih]
      rfl
  rw [flatMap_aspects, same, ← flatMap_aspects]

/-! ### The cache after a failed scan -/

variable {r : Resolver} {id : String} {beans : BeanScope → List Bean} {e : ResolveError}

/-- A scan that fails leaves the lists that are kept, and the count of scans under way, as they
were. -/
theorem cache_of_failed (unknown : r.cache.get? id = none) (failed : r.policy.scan beans = .error e) :
    (r.interceptors id beans).1 = .error e ∧
      (∀ probe, (r.interceptors id beans).2.cache.get? probe = r.cache.get? probe) ∧
      ∀ probe n, r.cache.Counts probe n → (r.interceptors id beans).2.cache.Counts probe n := by
  refine ⟨?_, fun probe => ?_, fun probe n counted => ?_⟩
  · rw [Resolver.interceptors_answer, unknown, failed]
  · rw [Resolver.kept_interceptors, Resolver.interceptors_answer, unknown, failed]
    by_cases same : probe = id
    · rw [if_pos same, same, unknown]
      rfl
    · rw [if_neg same]
  · have after := ScanCache.counts_finish (ScanCache.counts_begin counted id) (r.cache.begin id).1
      (r.policy.scan beans)
    have back : (if probe = (r.cache.begin id).1.id then (if probe = id then n + 1 else n) - 1
        else if probe = id then n + 1 else n) = n := by
      by_cases same : probe = id <;> simp [ScanCache.begin, same]
    rw [back] at after
    simpa [Resolver.interceptors, unknown, Resolver.finish] using after

theorem state_eq_uncached {α : Type} {c : ScanCache α} {id : String} :
    c.state id = .uncached ↔ c.get? id = none ∧ c.Counts id 0 := by
  simp only [ScanCache.state, ScanCache.Counts, ScanCache.get?, Table.contains]
  by_cases kept : (c.published.get? id).isSome = true
  · simp [kept, Option.ne_none_iff_isSome.mpr kept]
  · by_cases busy : (c.underWay.get? id).isSome = true
    · simp [kept, busy, Option.ne_none_iff_isSome.mpr busy]
    · simp_all

/-- A policy with the strictness chosen. -/
def under (p : AspectPolicy) (strict : Bool) : AspectPolicy := { p with strict }

/-- A container is scanned aspect by aspect: its own ones in their order, then the shared ones in
theirs. An aspect contributes an interceptor for each of its advices, or it is rejected and contributes
nothing. A lenient scan puts the contributions one after another, and rejected aspects may as well be
left out. A strict scan finds the same list if none is rejected; otherwise it fails with the first that
is, nothing is kept for the container, and the scan is no longer under way. -/
theorem scan_puts_contributions_in_order (p : AspectPolicy) (beans : BeanScope → List Bean) :
    ∃ own shared, Arranged p (beans .plugin) own ∧ Arranged p (beans .global) shared ∧
      (∀ b ∈ own ++ shared,
        Contributes p b (contribution p b) ∧
          (contribution p b).map (fun i => (i.aspect, i.advice, i.kind)) =
            (pairs p b.type).map (fun advice => (b.name, advice)) ∨
        (∃ e, Rejected p b e) ∧ contribution p b = []) ∧
      (under p false).scan beans = .ok ((own ++ shared).flatMap (contribution p)) ∧
      (∀ others : BeanScope → List Bean, (∀ scope, Weeded p (beans scope) (others scope)) →
        (under p false).scan others = (under p false).scan beans) ∧
      (Sound p (own ++ shared) → (under p true).scan beans = (under p false).scan beans) ∧
      (∀ f, (under p true).scan beans = .error f ↔ FirstRejected p (own ++ shared) f) ∧
      ∀ f, (under p true).scan beans = .error f →
        ∀ (r : Resolver) (id : String), r.policy = under p true → r.isCached id = false →
          (r.interceptors id beans).1 = .error f ∧
          (r.interceptors id beans).2.isCached id = false ∧
          (∀ n, r.cache.Counts id n → (r.interceptors id beans).2.cache.Counts id n) ∧
          (r.state id = .uncached → (r.interceptors id beans).2.state id = .uncached) := by
  have lenient (beans : BeanScope → List Bean) : (under p false).scan beans =
      .ok ((p.aspects (beans .plugin) ++ p.aspects (beans .global)).flatMap (contribution p)) := by
    rw [scan_eq_assemble, assemble_lenient rfl]
    rfl
  refine ⟨_, _, arranged_aspects p (beans .plugin), arranged_aspects p (beans .global),
    fun b _ => ?_, lenient beans, fun others weeded => ?_, fun sound => ?_, fun f => ?_,
    fun f failed r id policy unknown => ?_⟩
  · rcases contributes_or_rejected p b with ⟨list, contributes⟩ | ⟨e, rejected⟩
    · rw [contribution_of_contributes contributes]
      exact .inl ⟨contributes, labels_of_contributes contributes⟩
    · exact .inr ⟨⟨e, rejected⟩, contribution_of_rejected rejected⟩
  · rw [lenient, lenient, List.flatMap_append, List.flatMap_append, flatMap_of_weeded (weeded _),
      flatMap_of_weeded (weeded _)]
  · rw [lenient, scan_eq_assemble]
    exact assemble_sound (p := under p true) sound
  · rw [scan_eq_assemble]
    exact assemble_eq_error rfl
  · have none : r.cache.get? id = none := by simpa [Resolver.isCached] using unknown
    obtain ⟨answer, kept, counted⟩ := cache_of_failed (r := r) none (policy ▸ failed)
    refine ⟨answer, ?_, counted id, fun idle => ?_⟩
    · simp [Resolver.isCached, kept, none]
    · exact state_eq_uncached.mpr ⟨(kept id).trans none, counted id 0 (state_eq_uncached.mp idle).2⟩

/-- An aspect that asks for a position, with before advices by name and pointcut. -/
def aspect (name : String) (order : Option Int) (advices : List (String × String)) : Bean :=
  let positions : List Annotation :=
    order.toList.map fun place => ⟨"Order", [("value", .integer place)]⟩
  let methods : List (Declaration HostType) := advices.map fun (advice, pointcut) =>
    ⟨advice, .bare "void", [], [.isPublic], [⟨"Before", [("value", .text pointcut)]⟩]⟩
  ⟨name, .mk name 1 (⟨"Aspect", []⟩ :: positions) [] methods, name⟩

def unplaced : Bean := aspect "unplaced" none [("trace", "within(a)")]

/-- An aspect with one advice that can be built and one with a pointcut that cannot be read. -/
def broken : Bean := aspect "broken" (some 5) [("check", "within(b)"), ("count", "&&")]

def level : Bean := aspect "level" (some 5) [("guard", "within(c)"), ("lock", "within(d)")]

def negative : Bean := aspect "negative" (some (-1)) [("open", "within(e)")]

def common : Bean := aspect "common" (some (-7)) [("log", "within(f)")]

/-- A container with aspects in no order. -/
def shop : BeanScope → List Bean
  | .plugin => [unplaced, broken, level, negative]
  | .global => [common]

theorem shop_arranged (strict : Bool) :
    (under {} strict).aspects (shop .plugin) = [negative, broken, level, unplaced] ∧
      (under {} strict).aspects (shop .global) = [common] := by
  have marked : ∀ scope, ∀ b ∈ shop scope, (under {} strict).isAspect b.type = true := by
    rintro (_ | _) <;> cases strict <;> decide +kernel
  have asked : position (under {} strict) unplaced = none ∧
      position (under {} strict) broken = some 5 ∧ position (under {} strict) level = some 5 ∧
      position (under {} strict) negative = some (-1) := by
    cases strict <;> decide +kernel
  unfold position at asked
  simp only [AspectPolicy.aspects, List.filter_eq_self.mpr (marked _)]
  simp [shop, List.mergeSort, List.MergeSort.Internal.splitInTwo, AspectPolicy.mayPrecede, asked]

/-- A lenient scan leaves out both advices of the broken aspect, and nothing else. A strict scan reports
it, although it is not the first aspect of the container, and keeps nothing. -/
theorem shop_is_scanned_in_order :
    (∃ list, (under {} false).scan shop = .ok list ∧
      list.map (fun i => (i.aspect, i.advice.name)) =
        [("negative", "open"), ("level", "guard"), ("level", "lock"), ("unplaced", "trace"),
          ("common", "log")]) ∧
      ∃ f, (under {} true).scan shop = .error f ∧
        f = ⟨"broken", .parse (.unexpectedToken "&&" 0 "&&" .operand)⟩ ∧
        ((Resolver.ofPolicy (under {} true)).interceptors "cart" shop).1 = .error f ∧
        ((Resolver.ofPolicy (under {} true)).interceptors "cart" shop).2.state "cart" =
          .uncached := by
  refine ⟨?_, ?_⟩
  · rw [scan_eq_assemble, (shop_arranged false).1, (shop_arranged false).2]
    exact exists_ok_of_map (by decide +kernel)
  · have outcome : (match (under {} true).scan shop with
        | .ok _ => none
        | .error f => some f) =
          some ⟨"broken", .parse (.unexpectedToken "&&" 0 "&&" .operand)⟩ := by
      rw [scan_eq_assemble, (shop_arranged true).1, (shop_arranged true).2]
      decide +kernel
    cases failed : (under {} true).scan shop with
    | ok list =>
      rw [failed] at outcome
      cases outcome
    | error f =>
      rw [failed] at outcome
      obtain ⟨own, shared, -, -, -, -, -, -, -, reported⟩ :=
        scan_puts_contributions_in_order {} shop
      obtain ⟨answer, -, -, idle⟩ := reported f failed (.ofPolicy (under {} true)) "cart" rfl rfl
      exact ⟨f, rfl, Option.some.inj outcome, answer, idle rfl⟩

end Crosscut.ScanOrder
