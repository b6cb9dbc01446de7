import Crosscut.Collect
import Crosscut.Table

/-! A cache for the results of scans that take time. While a scan of a container is under way, other
scans of it may begin and end, and its contents may be declared stale. A scan is given a ticket
with the generation of the contents it began with. When it ends, its result is published only if
the generation is still the same, and only if no other scan has published before it. -/
namespace Crosscut

/-- How far the contents of a container are known. -/
inductive ScanState where
  | uncached | resolving | cached
deriving DecidableEq, Repr

def ScanState.word : ScanState → String
  | .uncached => "uncached"
  | .resolving => "resolving"
  | .cached => "cached"

/-- What a scan remembers of its beginning. -/
structure ScanTicket where
  id : String
  generation : Nat
deriving DecidableEq, Repr

/-- Published results, the number of scans under way and the generation of the contents, each by
the id of a container. -/
structure ScanCache (α : Type) where
  published : Table String α
  underWay : Table String Nat
  generations : Table String Nat

namespace ScanCache

variable {α : Type}

def empty : ScanCache α := ⟨.empty, .empty, .empty⟩

def get? (c : ScanCache α) (id : String) : Option α :=
  c.published.get? id

/-- The generation of the contents of a container. It is counted without a bound; a counter of 64 bits
would tell the same generations apart, as long as no container is declared stale 2 ^ 64 times. -/
def generation (c : ScanCache α) (id : String) : Nat :=
  (c.generations.get? id).getD 0

/-- How far the contents of a container are known. -/
def state (c : ScanCache α) (id : String) : ScanState :=
  if c.published.contains id then .cached
  else if c.underWay.contains id then .resolving
  else .uncached

/-- Declares the contents of a container stale. Scans under way will not be published. -/
def invalidate (c : ScanCache α) (id : String) : ScanCache α :=
  { c with
    published := c.published.erase id
    generations := c.generations.insert id (c.generation id + 1) }

def begin (c : ScanCache α) (id : String) : ScanTicket × ScanCache α :=
  (⟨id, c.generation id⟩,
    { c with underWay := c.underWay.insert id ((c.underWay.get? id).getD 0 + 1) })

/-- One scan of a container fewer is under way. -/
def leave (c : ScanCache α) (id : String) : ScanCache α :=
  match c.underWay.get? id with
  | some (n + 2) => { c with underWay := c.underWay.insert id (n + 1) }
  | some _ => { c with underWay := c.underWay.erase id }
  | none => c

/-- Publishes a result unless there is one, and tells which one is published. -/
def publish (c : ScanCache α) (id : String) (value : α) : α × ScanCache α :=
  match c.published.get? id with
  | some earlier => (earlier, c)
  | none => (value, { c with published := c.published.insert id value })

def finish {ε : Type} (c : ScanCache α) (ticket : ScanTicket) (scanned : Except ε α) :
    Except ε α × ScanCache α :=
  match scanned with
  | .error e => (.error e, c.leave ticket.id)
  | .ok value =>
    if c.generation ticket.id = ticket.generation then
      (.ok ((c.leave ticket.id).publish ticket.id value).1,
        ((c.leave ticket.id).publish ticket.id value).2)
    else (.ok value, c.leave ticket.id)

def update (c : ScanCache α) (id : String) (change : α → α) : ScanCache α :=
  match c.published.get? id with
  | some value => { c with published := c.published.insert id (change value) }
  | none => c

/-- A container that is declared stale has new contents, and no other. -/
theorem generation_invalidate (c : ScanCache α) (id probe : String) :
    (c.invalidate id).generation probe =
      if probe = id then c.generation id + 1 else c.generation probe := by
  by_cases same : probe = id
  · simp [generation, invalidate, same]
  · simp [generation, invalidate, Table.get?_insert, same]

@[simp] theorem get?_begin (c : ScanCache α) (id probe : String) :
    (c.begin id).2.get? probe = c.get? probe := rfl

@[simp] theorem get?_leave (c : ScanCache α) (id probe : String) :
    (c.leave id).get? probe = c.get? probe := by
  simp only [leave, get?]
  split <;> rfl

@[simp] theorem generation_leave (c : ScanCache α) (id probe : String) :
    (c.leave id).generation probe = c.generation probe := by
  simp only [leave, generation]
  split <;> rfl

/-- A result is published under its own id, unless there was one. -/
theorem get?_publish (c : ScanCache α) (id probe : String) (value : α) :
    (c.publish id value).2.get? probe =
      if probe = id then some (c.publish id value).1 else c.get? probe := by
  simp only [publish, get?]
  split
  · rename_i earlier found
    by_cases same : probe = id
    · simp [same, found]
    · simp [same]
  · simp [Table.get?_insert]

@[simp] theorem generation_finish {ε : Type} (c : ScanCache α) (ticket : ScanTicket)
    (scanned : Except ε α) (probe : String) :
    (c.finish ticket scanned).2.generation probe = c.generation probe := by
  have published : ∀ value, ((c.leave ticket.id).publish ticket.id value).2.generation probe =
      c.generation probe := by
    intro value
    rw [← generation_leave c ticket.id probe]
    simp only [publish, generation]
    split <;> rfl
  cases scanned with
  | error e => exact generation_leave c ticket.id probe
  | ok value =>
    by_cases current : c.generation ticket.id = ticket.generation
    · simp only [finish, current, ↓reduceIte, published]
    · simp only [finish, current, ↓reduceIte, generation_leave]

@[simp] theorem underWay_finish {ε : Type} (c : ScanCache α) (ticket : ScanTicket)
    (scanned : Except ε α) : (c.finish ticket scanned).2.underWay = (c.leave ticket.id).underWay := by
  have published : ∀ value, ((c.leave ticket.id).publish ticket.id value).2.underWay =
      (c.leave ticket.id).underWay := by
    intro value
    simp only [publish]
    split <;> rfl
  cases scanned with
  | error e => rfl
  | ok value =>
    by_cases current : c.generation ticket.id = ticket.generation
    · simp only [finish, current, ↓reduceIte, published]
    · simp only [finish, current, ↓reduceIte]

/-- What a scan finds is published if the contents are still those that it began with, and nothing
was published before. -/
theorem get?_finish {ε : Type} (c : ScanCache α) (ticket : ScanTicket) (scanned : Except ε α)
    (probe : String) :
    (c.finish ticket scanned).2.get? probe =
      if probe = ticket.id ∧ c.generation ticket.id = ticket.generation then
        (c.get? probe).or scanned.toOption
      else c.get? probe := by
  cases scanned with
  | error e => simp [finish, Except.toOption]
  | ok value =>
    by_cases current : c.generation ticket.id = ticket.generation
    · have first : ((c.leave ticket.id).publish ticket.id value).1 =
          (c.get? ticket.id).getD value := by
        rw [← get?_leave c ticket.id ticket.id]
        simp only [publish, get?]
        split <;> simp_all
      simp only [finish, current, ↓reduceIte, get?_publish, first, get?_leave, and_true]
      by_cases same : probe = ticket.id
      · subst same
        cases c.get? ticket.id <;> simp [Except.toOption]
      · simp [same]
    · simp [finish, current]

/-- A scan answers with what is published, if the contents are still those that it began with, and
otherwise with what it found. -/
theorem answer_finish {ε : Type} (c : ScanCache α) (ticket : ScanTicket) (scanned : Except ε α) :
    (c.finish ticket scanned).1 =
      if c.generation ticket.id = ticket.generation then scanned.map (c.get? ticket.id).getD
      else scanned := by
  cases scanned with
  | error e => simp [finish, Except.map]
  | ok value =>
    by_cases current : c.generation ticket.id = ticket.generation
    · simp only [finish, current, ↓reduceIte, Except.map, Except.ok.injEq]
      rw [← get?_leave c ticket.id ticket.id]
      simp only [publish, get?]
      split <;> simp_all
    · simp [finish, current]

/-- The first result that is published stays. -/
theorem kept_finish {ε : Type} {c : ScanCache α} {id : String} {value : α}
    (kept : c.get? id = some value) (ticket : ScanTicket) (scanned : Except ε α) :
    (c.finish ticket scanned).2.get? id = some value := by
  rw [get?_finish, kept, Option.some_or]
  split <;> rfl

/-- What is published at the end of a scan was published before, or the scan has found it in contents
that are still those that it began with. -/
theorem kept_before_finish {ε : Type} {c : ScanCache α} {ticket : ScanTicket} {scanned : Except ε α}
    {id : String} {value : α} (kept : (c.finish ticket scanned).2.get? id = some value) :
    c.get? id = some value ∨
      id = ticket.id ∧ c.generation ticket.id = ticket.generation ∧ scanned = .ok value := by
  rw [get?_finish] at kept
  split at kept
  · rename_i publishes
    obtain ⟨rfl, current⟩ := publishes
    rcases Option.or_eq_some_iff.mp kept with earlier | ⟨-, found⟩
    · exact .inl earlier
    · cases scanned with
      | error e => cases found
      | ok value =>
        cases found
        exact .inr ⟨rfl, current, rfl⟩
  · exact .inl kept

/-- A scan of contents that are still those that it began with answers with what is published. -/
theorem kept_of_answer {ε : Type} {c : ScanCache α} {ticket : ScanTicket} {scanned : Except ε α}
    {value : α} (current : c.generation ticket.id = ticket.generation)
    (answered : (c.finish ticket scanned).1 = .ok value) :
    (c.finish ticket scanned).2.get? ticket.id = some value := by
  rw [answer_finish, if_pos current] at answered
  rw [get?_finish, if_pos ⟨rfl, current⟩]
  obtain ⟨found, rfl, rfl⟩ := map_eq_ok.mp answered
  cases c.get? ticket.id <;> rfl

/-- A scan that ends as it began, with no other one in between, publishes what it found. -/
theorem finish_begin {ε : Type} {c : ScanCache α} {id : String} (unknown : c.get? id = none)
    (scanned : Except ε α) :
    ((c.begin id).2.finish (c.begin id).1 scanned).1 = scanned ∧
      ∀ probe, ((c.begin id).2.finish (c.begin id).1 scanned).2.get? probe =
        if probe = id then scanned.toOption else c.get? probe := by
  have absent : (c.begin id).2.get? (c.begin id).1.id = none := unknown
  have current : (c.begin id).2.generation (c.begin id).1.id = (c.begin id).1.generation := rfl
  constructor
  · rw [answer_finish, if_pos current, absent]
    cases scanned <;> rfl
  · intro probe
    rw [get?_finish]
    by_cases same : probe = id
    · subst same
      rw [if_pos ⟨rfl, current⟩, if_pos rfl, get?_begin, unknown, Option.none_or]
    · rw [if_neg (fun both => same both.1), if_neg same, get?_begin]

/-- The cache has counted so many scans of a container under way. -/
def Counts (c : ScanCache α) (id : String) (n : Nat) : Prop :=
  c.underWay.get? id = if n = 0 then none else some n

theorem counts_begin {c : ScanCache α} {probe : String} {n : Nat} (counted : c.Counts probe n)
    (id : String) : (c.begin id).2.Counts probe (if probe = id then n + 1 else n) := by
  unfold Counts at counted ⊢
  simp only [begin, Table.get?_insert]
  by_cases same : probe = id
  · subst same
    rw [counted]
    cases n <;> simp
  · simp [same, counted]

theorem counts_leave {c : ScanCache α} {probe : String} {n : Nat} (counted : c.Counts probe n)
    (id : String) : (c.leave id).Counts probe (if probe = id then n - 1 else n) := by
  unfold Counts at counted ⊢
  by_cases same : probe = id
  · subst same
    match n with
    | 0 => simp [leave, show c.underWay.get? probe = none from counted]
    | 1 => simp [leave, show c.underWay.get? probe = some 1 from counted]
    | n + 2 => simp [leave, show c.underWay.get? probe = some (n + 2) from counted]
  · rw [if_neg same, ← counted]
    simp only [leave]
    split
    · exact Table.get?_insert_ne _ _ same
    · simp [Table.get?_erase, same]
    · rfl

theorem counts_finish {ε : Type} {c : ScanCache α} {probe : String} {n : Nat}
    (counted : c.Counts probe n) (ticket : ScanTicket) (scanned : Except ε α) :
    (c.finish ticket scanned).2.Counts probe (if probe = ticket.id then n - 1 else n) := by
  have left : (c.leave ticket.id).Counts probe (if probe = ticket.id then n - 1 else n) :=
    counts_leave counted ticket.id
  unfold Counts at left ⊢
  rw [underWay_finish]
  exact left

/-- A container is being resolved while nothing is published and scans of it are under way. -/
theorem state_eq_resolving {c : ScanCache α} {id : String} {n : Nat} (counted : c.Counts id n) :
    c.state id = .resolving ↔ c.get? id = none ∧ n ≠ 0 := by
  unfold Counts at counted
  simp only [state, Table.contains, get?, counted]
  cases c.published.get? id with
  | some value => simp
  | none => by_cases idle : n = 0 <;> simp [idle]

/-- A change in place is seen under its own id. -/
theorem get?_update (c : ScanCache α) (id probe : String) (change : α → α) :
    (c.update id change).get? probe =
      if probe = id then (c.get? id).map change else c.get? probe := by
  simp only [update, get?]
  cases found : c.published.get? id with
  | some value => simp [Table.get?_insert]
  | none =>
    by_cases same : probe = id
    · simp [same, found]
    · simp [same]

/-- A list that is declared stale is gone, and no other. -/
theorem get?_invalidate (c : ScanCache α) (id probe : String) :
    (c.invalidate id).get? probe = if probe = id then none else c.get? probe := by
  simp [get?, invalidate, Table.get?_erase]

end ScanCache
end Crosscut
