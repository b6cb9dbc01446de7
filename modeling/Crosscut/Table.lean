/-! Finite tables from keys to values. A table lists its entries in the order in which their keys
were first entered, one entry for each key. Every operation is described by what a later lookup
finds, so nothing outside this module looks at the entries to reason about a table. -/
namespace Crosscut

/-- Entries by key, in the order of first entry. -/
structure Table (κ α : Type) where
  entries : List (κ × α)
deriving Repr

namespace Table

variable {κ α : Type} [DecidableEq κ]

def empty : Table κ α := ⟨[]⟩

def get? (t : Table κ α) (key : κ) : Option α :=
  (t.entries.find? (·.1 = key)).map (·.2)

def contains (t : Table κ α) (key : κ) : Bool :=
  (t.get? key).isSome

/-- The keys in the order of first entry. -/
def keys (t : Table κ α) : List κ :=
  t.entries.map (·.1)

/-- The values in the order of their keys. -/
def values (t : Table κ α) : List α :=
  t.entries.map (·.2)

/-- Replaces the value of a key in place, or adds an entry at the end. -/
def insertEntry (key : κ) (value : α) : List (κ × α) → List (κ × α)
  | [] => [(key, value)]
  | entry :: rest => if entry.1 = key then (key, value) :: rest else entry :: insertEntry key value rest

/-- Enters a value under a key, in place of the one that was there. -/
def insert (t : Table κ α) (key : κ) (value : α) : Table κ α :=
  ⟨insertEntry key value t.entries⟩

def erase (t : Table κ α) (key : κ) : Table κ α :=
  ⟨t.entries.filter (·.1 ≠ key)⟩

@[simp] theorem get?_empty (key : κ) : (empty : Table κ α).get? key = none := rfl

theorem get?_insert (t : Table κ α) (key probe : κ) (value : α) :
    (t.insert key value).get? probe = if probe = key then some value else t.get? probe := by
  obtain ⟨entries⟩ := t
  simp only [get?, insert]
  induction entries with
  | nil =>
    by_cases same : probe = key
    · simp [insertEntry, same]
    · simp [insertEntry, same, Ne.symm same]
  | cons entry rest ih =>
    by_cases here : entry.1 = key
    · by_cases same : probe = key
      · simp [insertEntry, here, same]
      · simp [insertEntry, here, same, Ne.symm same]
    · by_cases found : entry.1 = probe
      · have other : probe ≠ key := fun equal => here (found.trans equal)
        simp [insertEntry, found, other]
      · simpa [insertEntry, here, found] using ih

@[simp] theorem get?_insert_self (t : Table κ α) (key : κ) (value : α) :
    (t.insert key value).get? key = some value := by
  simp [get?_insert]

theorem get?_insert_ne (t : Table κ α) {key probe : κ} (value : α) (other : probe ≠ key) :
    (t.insert key value).get? probe = t.get? probe := by
  simp [get?_insert, other]

/-- Entering the value that a key has already changes nothing. -/
theorem insert_of_get? {t : Table κ α} {key : κ} {value : α} (known : t.get? key = some value) :
    t.insert key value = t := by
  obtain ⟨entries⟩ := t
  simp only [get?, insert, mk.injEq] at known ⊢
  induction entries with
  | nil => cases known
  | cons entry rest ih =>
    by_cases here : entry.1 = key
    · have same : entry.2 = value := by simpa [here] using known
      simp [insertEntry, ← here, ← same]
    · simp [insertEntry, here, ih (by simpa [here] using known)]

theorem get?_erase (t : Table κ α) (key probe : κ) :
    (t.erase key).get? probe = if probe = key then none else t.get? probe := by
  obtain ⟨entries⟩ := t
  simp only [get?, erase]
  induction entries with
  | nil => simp
  | cons entry rest ih =>
    by_cases here : entry.1 = key
    · by_cases same : probe = key
      · simp [same]
      · simpa [here, same, Ne.symm same] using ih
    · by_cases found : entry.1 = probe
      · have other : probe ≠ key := fun equal => here (found.trans equal)
        simp [found, other]
      · simpa [here, found] using ih

@[simp] theorem get?_erase_self (t : Table κ α) (key : κ) : (t.erase key).get? key = none := by
  simp [get?_erase]

/-- Erasing a key without an entry changes nothing. -/
theorem erase_of_get? {t : Table κ α} {key : κ} (unknown : t.get? key = none) : t.erase key = t := by
  obtain ⟨entries⟩ := t
  simp only [get?, erase, mk.injEq, Option.map_eq_none_iff, List.find?_eq_none] at unknown ⊢
  exact List.filter_eq_self.mpr fun entry listed => by simpa using unknown entry listed

/-- A key is listed exactly when it has an entry. -/
theorem mem_keys {t : Table κ α} {key : κ} : key ∈ t.keys ↔ t.contains key = true := by
  obtain ⟨entries⟩ := t
  simp only [keys, contains, get?]
  induction entries with
  | nil => simp
  | cons entry rest ih =>
    by_cases here : entry.1 = key
    · simp [here]
    · simp [here, Ne.symm here]

theorem keys_insertEntry (key : κ) (value : α) (entries : List (κ × α)) :
    (insertEntry key value entries).map (·.1) =
      if key ∈ entries.map (·.1) then entries.map (·.1) else entries.map (·.1) ++ [key] := by
  induction entries with
  | nil => rfl
  | cons entry rest ih =>
    by_cases here : entry.1 = key
    · simp [insertEntry, here]
    · simp only [insertEntry, here, ↓reduceIte, List.map_cons, ih, List.mem_cons, Ne.symm here,
        false_or]
      split <;> simp

theorem nodup_keys_insert {t : Table κ α} (distinct : t.keys.Nodup) (key : κ) (value : α) :
    (t.insert key value).keys.Nodup := by
  simp only [keys, insert, keys_insertEntry]
  split
  · exact distinct
  · rename_i fresh
    refine List.nodup_append.mpr ⟨distinct, by simp, fun inside member last appended equal => ?_⟩
    exact fresh (List.mem_singleton.mp appended ▸ equal ▸ member)

theorem nodup_keys_erase {t : Table κ α} (distinct : t.keys.Nodup) (key : κ) :
    (t.erase key).keys.Nodup :=
  distinct.sublist (List.filter_sublist.map _)

/-- The values are what lookups find, as long as no key is listed twice. -/
theorem mem_values {t : Table κ α} (distinct : t.keys.Nodup) {value : α} :
    value ∈ t.values ↔ ∃ key, t.get? key = some value := by
  obtain ⟨entries⟩ := t
  simp only [keys, values, get?] at distinct ⊢
  constructor
  · intro member
    obtain ⟨found, listed, rfl⟩ := List.mem_map.mp member
    clear member
    refine ⟨found.1, ?_⟩
    induction entries with
    | nil => cases listed
    | cons entry rest ih =>
      obtain ⟨fresh, distinct⟩ := List.nodup_cons.mp distinct
      rcases List.mem_cons.mp listed with rfl | listed
      · simp
      · have other : entry.1 ≠ found.1 := by
          intro same
          exact fresh (List.mem_map.mpr ⟨found, listed, same.symm⟩)
        simpa [other] using ih distinct listed
  · rintro ⟨key, found⟩
    obtain ⟨entry, first, rfl⟩ := Option.map_eq_some_iff.mp found
    exact List.mem_map_of_mem (List.mem_of_find?_eq_some first)

/-- A value under a new key is listed last. -/
theorem values_insert_of_fresh {t : Table κ α} {key : κ} (fresh : t.get? key = none) (value : α) :
    (t.insert key value).values = t.values ++ [value] := by
  obtain ⟨entries⟩ := t
  simp only [get?, values, insert, Option.map_eq_none_iff] at fresh ⊢
  induction entries with
  | nil => rfl
  | cons entry rest ih =>
    by_cases here : entry.1 = key
    · simp [here] at fresh
    · simp only [List.find?_cons, here, decide_false] at fresh
      simp [insertEntry, here, ih fresh]

/-- Erasing a key takes its value out and no other. -/
theorem countP_values_erase {t : Table κ α} (distinct : t.keys.Nodup) {key : κ} {value : α}
    (found : t.get? key = some value) (test : α → Bool) :
    t.values.countP test = (t.erase key).values.countP test + if test value then 1 else 0 := by
  obtain ⟨entries⟩ := t
  simp only [keys, values, get?, erase] at distinct found ⊢
  induction entries with
  | nil => cases found
  | cons entry rest ih =>
    obtain ⟨fresh, distinct⟩ := List.nodup_cons.mp distinct
    by_cases here : entry.1 = key
    · have untouched : rest.filter (·.1 ≠ key) = rest := by
        apply List.filter_eq_self.mpr
        intro other listed
        have differs : other.1 ≠ key := by
          intro same
          exact fresh (List.mem_map.mpr ⟨other, listed, same.trans here.symm⟩)
        simpa using differs
      have same : entry.2 = value := by simpa [here] using found
      rw [List.filter_cons_of_neg (by simp [here]), untouched, List.map_cons, List.countP_cons, same]
    · have behind := ih distinct (by simpa [here] using found)
      rw [List.filter_cons_of_pos (by simp [here]), List.map_cons, List.map_cons, List.countP_cons,
        List.countP_cons, behind]
      omega

end Table
end Crosscut
