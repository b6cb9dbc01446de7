import Crosscut.Proofs.DocumentLaws
import Crosscut.Settings.StandIn

/-! Documents as the stand-in library merges them and finds them in files. Two tables are put together
key by key, and the document stays tidy. -/
namespace Crosscut.DocumentMerging
open Literal DocumentLaws

variable {nulls : Prop}

theorem keys_setField (name : String) (value : Literal) (fields : List (String × Literal)) :
    (setField name value fields).map Prod.fst =
      if name ∈ fields.map Prod.fst then fields.map Prod.fst else fields.map Prod.fst ++ [name] := by
  induction fields with
  | nil => rfl
  | cons field rest ih =>
    by_cases here : field.1 = name
    · simp [setField, here]
    · simp only [setField, here, if_false, List.map_cons, List.mem_cons, Ne.symm here, false_or, ih]
      split <;> rfl

/-- Two tables are put together key by key. -/
theorem fieldIn?_layFields {upper : List (String × Literal)} (distinct : (upper.map Prod.fst).Nodup)
    (base : List (String × Literal)) (probe : String) :
    fieldIn? probe (layFields base upper) =
      joined? .standIn (fieldIn? probe base) (fieldIn? probe upper) := by
  induction upper generalizing base with
  | nil => rw [layFields]; rfl
  | cons field rest ih =>
    obtain ⟨name, value⟩ := field
    obtain ⟨fresh, distinct⟩ := List.nodup_cons.mp distinct
    rw [layFields, ih distinct, fieldIn?_setField, fieldIn?_cons]
    by_cases same : name = probe
    · subst same
      rw [fieldIn?_eq_none.mpr fresh, if_pos rfl, if_pos rfl]
      cases fieldIn? name base <;> rfl
    · rw [if_neg (Ne.symm same), if_neg same]

theorem lay_of_others {lower upper : Literal} (others : ¬ (IsTable lower ∧ IsTable upper)) :
    lower.lay upper = upper := by
  cases upper with
  | table fields =>
    cases lower with
    | table base => exact absurd ⟨⟨base, rfl⟩, fields, rfl⟩ others
    | _ => rfl
  | _ => rfl

/-- Setting a field keeps a table tidy. -/
theorem tidy_setField {fields : List (String × Literal)} (tidy : Tidy nulls (.table fields))
    {name : String} {v : Literal} (good : Tidy nulls v) :
    Tidy nulls (.table (setField name v fields)) := by
  have each : ∀ field ∈ fields, Tidy nulls field.2 := by
    cases tidy with
    | plain other _ => exact absurd ⟨fields, rfl⟩ other
    | table _ each => exact each
  refine .table ?_ ?_
  · rw [keys_setField]
    split
    · exact nodup_of_tidy tidy
    · rename_i fresh
      exact List.nodup_append.mpr ⟨nodup_of_tidy tidy, List.nodup_singleton name, by
        rintro key member _ last rfl
        exact fresh (List.mem_singleton.mp last ▸ member)⟩
  · clear tidy
    induction fields with
    | nil => simpa [setField] using good
    | cons field rest ih =>
      obtain ⟨here, behind⟩ := List.forall_mem_cons.mp each
      rw [setField]
      split
      · exact List.forall_mem_cons.mpr ⟨good, behind⟩
      · exact List.forall_mem_cons.mpr ⟨here, ih behind⟩

mutual

theorem tidy_lay {lower : Literal} (below : Tidy nulls lower) :
    (upper : Literal) → Tidy nulls upper → Tidy nulls (lower.lay upper)
  | .table fields, above => by
    cases lower with
    | table base =>
      cases above with
      | plain other _ => exact absurd ⟨fields, rfl⟩ other
      | table _ each => exact tidy_layFields below fields each
    | _ => exact above
  | .null, above | .bool _, above | .integer _, above | .decimal _, above | .text _, above
  | .list _, above => above

theorem tidy_layFields {base : List (String × Literal)} (below : Tidy nulls (.table base)) :
    (fields : List (String × Literal)) → (∀ field ∈ fields, Tidy nulls field.2) →
      Tidy nulls (.table (layFields base fields))
  | [], _ => below
  | (name, value) :: rest, each => by
    obtain ⟨here, behind⟩ := List.forall_mem_cons.mp each
    refine tidy_layFields (tidy_setField below ?_) rest behind
    cases found : fieldIn? name base with
    | none => exact here
    | some lower => exact tidy_lay (tidy_field below found) value here

end

/-- The stand-in library merges as the loader relies on it. -/
theorem standIn_merges : MergesByKey .standIn where
  empty := rfl
  tables _ tidy := ⟨_, rfl, fieldIn?_layFields (nodup_of_tidy tidy) _⟩
  others := lay_of_others
  tidy below above := tidy_lay below _ above

/-- The stand-in library reads files as the loader relies on it. -/
theorem standIn_files : ReadsFiles .standIn where
  held held := by
    change FileTree.document _ _ = _
    rw [FileTree.document, held]
  source {tree path doc} read := by
    change FileTree.document tree path = _ at read
    unfold FileTree.document at read
    split at read
    · rename_i held
      cases read
      obtain ⟨place, -, there⟩ := Option.bind_eq_some_iff.mp held
      cases place with
      | outside => cases there
      | inside spot => exact .inr ⟨spot, there⟩
    · cases read
    · cases read
      exact .inl rfl

end Crosscut.DocumentMerging
