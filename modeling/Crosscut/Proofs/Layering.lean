import Crosscut.Proofs.DocumentLaws
import Mathlib.Data.List.Induction

/-! What layers make together. A key has the value of the last layer that sets it, unless a layer
above that one gives a section on the way to the key something other than a table: that takes away
what the layers below it give for the keys of the section. -/
namespace Crosscut.Layering
open Literal DocumentLaws

/-- The last layer that sets a key gives it a value, and no layer above breaks the way to the key. -/
def SetBy (layers : List Literal) (keys : List String) (v : Literal) : Prop :=
  ∃ below layer above, layers = below ++ layer :: above ∧ layer.at? keys = some v ∧
    ∀ later ∈ above, later.at? keys = none ∧ breaks later keys = false

/-- Every layer that sets a key lies below one that breaks the way to it. -/
def Unset (layers : List Literal) (keys : List String) : Prop :=
  ∀ below layer above, layers = below ++ layer :: above → (layer.at? keys).isSome = true →
    ∃ later ∈ above, breaks later keys = true

variable {kit : DocumentKit} {layers : List Literal} {keys : List String}

/-! ### Two layers -/

/-- How a layer decides a key over what is below it. -/
inductive Decides (lower : Option Literal) (upper : Literal) (keys : List String) :
    Option Literal → Prop
  | sets {v : Literal} (set : upper.at? keys = some v) (plain : ¬ IsTable v) :
      Decides lower upper keys (some v)
  | joins {fields joined : List (String × Literal)} (set : upper.at? keys = some (.table fields)) :
      Decides lower upper keys (some (.table joined))
  | cuts (broken : breaks upper keys = true) : Decides lower upper keys none
  | keeps (unset : upper.at? keys = none) (whole : breaks upper keys = false) :
      Decides lower upper keys (lower.bind (·.at? keys))

theorem bind_at?_cons (lower : Option Literal) (key : String) (keys : List String) :
    (lower.bind (·.at? [key])).bind (·.at? keys) = lower.bind (·.at? (key :: keys)) := by
  cases lower with
  | none => rfl
  | some v => exact (at?_cons v key keys).symm

/-- What the field of a layer decides for further keys, the layer decides for the keys behind the
field's. -/
theorem Decides.of_field {lower result : Option Literal} {fields : List (String × Literal)}
    {key : String} {value : Literal} (found : fieldIn? key fields = some value)
    (inner : Decides (lower.bind (·.at? [key])) value keys result) :
    Decides lower (.table fields) (key :: keys) result := by
  have here : (Literal.table fields).at? (key :: keys) = value.at? keys := by
    rw [at?_table, found]
    rfl
  have way : breaks (.table fields) (key :: keys) = breaks value keys := by
    rw [breaks_table, found]
    rfl
  cases inner with
  | sets set plain => exact .sets (here.trans set) plain
  | joins set => exact .joins (here.trans set)
  | cuts broken => exact .cuts (way.trans broken)
  | keeps unset whole =>
    rw [bind_at?_cons]
    exact .keeps (here.trans unset) (way.trans whole)

section Merging

variable (merging : MergesByKey kit)

include merging

theorem overlay_of_no_table {upper : Literal} (plain : ¬ IsTable upper) (lower : Option Literal) :
    overlay kit lower upper = upper := by
  cases lower with
  | none => rfl
  | some below => exact merging.others fun both => plain both.2

/-- Something over a table is a table with what both have at each key. -/
theorem overlay_table {lower : Option Literal} (below : ∀ v, lower = some v → Tidy True v)
    {fields : List (String × Literal)} (tidy : Tidy True (.table fields)) :
    ∃ merged, overlay kit lower (.table fields) = .table merged ∧
      ∀ key, fieldIn? key merged = joined? kit (lower.bind (·.at? [key])) (fieldIn? key fields) := by
  have alone : ∀ key, fieldIn? key fields = joined? kit none (fieldIn? key fields) := by
    intro key
    cases fieldIn? key fields <;> rfl
  cases lower with
  | none => exact ⟨fields, rfl, alone⟩
  | some v =>
    by_cases table : IsTable v
    · obtain ⟨base, rfl⟩ := table
      obtain ⟨merged, same, each⟩ := merging.tables (below _ rfl) tidy
      exact ⟨merged, same, fun key => by rw [each key, Option.bind_some, at?_single]⟩
    · refine ⟨fields, merging.others fun both => table both.1, fun key => ?_⟩
      rw [Option.bind_some, (of_no_table table key []).1]
      exact alone key

/-- A layer sets a key, or breaks the way to it, or leaves it as it is. -/
theorem decides {upper : Literal} (tidy : Tidy True upper) {lower : Option Literal}
    (below : ∀ v, lower = some v → Tidy True v) (keys : List String) :
    Decides lower upper keys ((overlay kit lower upper).at? keys) := by
  induction keys generalizing lower upper with
  | nil =>
    by_cases table : IsTable upper
    · obtain ⟨fields, rfl⟩ := table
      obtain ⟨merged, same, -⟩ := overlay_table merging below tidy
      have set : (Literal.table fields).at? [] = some (.table fields) := by rw [at?]
      rw [same, at?]
      exact .joins set
    · rw [overlay_of_no_table merging table, at?]
      exact .sets (by rw [at?]) table
  | cons key keys ih =>
    by_cases table : IsTable upper
    · obtain ⟨fields, rfl⟩ := table
      obtain ⟨merged, same, each⟩ := overlay_table merging below tidy
      rw [same, at?_table, each key]
      cases found : fieldIn? key fields with
      | none =>
        rw [joined?, bind_at?_cons]
        exact .keeps (by rw [at?_table, found]; rfl) (by rw [breaks_table, found]; rfl)
      | some value =>
        refine .of_field found (ih (tidy_field tidy found) fun v there => ?_)
        obtain ⟨w, held, inside⟩ := Option.bind_eq_some_iff.mp there
        exact tidy_at? (below w held) inside
    · rw [overlay_of_no_table merging table, (of_no_table table key keys).1]
      exact .cuts (of_no_table table key keys).2

theorem decides_merge {lower upper : Literal} (below : Tidy True lower) (above : Tidy True upper)
    (keys : List String) : Decides (some lower) upper keys ((kit.merge lower upper).at? keys) :=
  decides merging above (by rintro v ⟨⟩; exact below) keys

theorem isTable_merge {lower upper : Literal} (below : Tidy True lower) (above : Tidy True upper)
    (table : IsTable upper) : IsTable (kit.merge lower upper) := by
  obtain ⟨fields, rfl⟩ := table
  obtain ⟨merged, same, -⟩ : ∃ merged, overlay kit (some lower) (.table fields) = .table merged ∧ _ :=
    overlay_table merging (by rintro v ⟨⟩; exact below) above
  exact ⟨merged, same⟩

/-- Merging brings null to no key. -/
theorem merge_ne_null {lower upper : Literal} (below : Tidy True lower) (above : Tidy True upper)
    (noneBelow : lower.at? keys ≠ some .null) (noneAbove : upper.at? keys ≠ some .null) :
    (kit.merge lower upper).at? keys ≠ some .null := by
  have step := decides_merge merging below above keys
  generalize (kit.merge lower upper).at? keys = result at step
  cases step with
  | sets set plain =>
    rintro ⟨⟩
    exact noneAbove set
  | joins set | cuts broken => rintro ⟨⟩
  | keeps unset whole => exact noneBelow

end Merging

/-! ### One layer more -/

theorem setBy_append {v top : Literal} (set : SetBy layers keys v) (unset : top.at? keys = none)
    (whole : breaks top keys = false) : SetBy (layers ++ [top]) keys v := by
  obtain ⟨below, layer, above, rfl, gives, silent⟩ := set
  refine ⟨below, layer, above ++ [top], by simp, gives, fun later member => ?_⟩
  rcases List.mem_append.mp member with inside | last
  · exact silent later inside
  · rw [List.mem_singleton.mp last]
    exact ⟨unset, whole⟩

theorem setBy_top {v top : Literal} (set : top.at? keys = some v) : SetBy (layers ++ [top]) keys v :=
  ⟨layers, top, [], rfl, set, by simp⟩

theorem setBy_cons {v : Literal} (bottom : Literal) (set : SetBy layers keys v) :
    SetBy (bottom :: layers) keys v := by
  obtain ⟨below, layer, above, rfl, rest⟩ := set
  exact ⟨bottom :: below, layer, above, rfl, rest⟩

/-- The layers below one more. -/
theorem exists_of_append {below above : List Literal} {top layer : Literal}
    (same : layers ++ [top] = below ++ layer :: above) :
    (above = [] ∧ layer = top ∧ layers = below) ∨
      ∃ front, above = front ++ [top] ∧ layers = below ++ layer :: front := by
  rcases List.eq_nil_or_concat above with rfl | ⟨front, last, rfl⟩
  · obtain ⟨rfl, last⟩ := List.append_inj' same rfl
    cases last
    exact .inl ⟨rfl, rfl, rfl⟩
  · rw [List.concat_eq_append, ← List.cons_append, ← List.append_assoc] at same
    obtain ⟨rfl, ends⟩ := List.append_inj' same rfl
    cases ends
    exact .inr ⟨front, by simp, rfl⟩

theorem unset_append {top : Literal} (unset : Unset layers keys) (silent : top.at? keys = none) :
    Unset (layers ++ [top]) keys := by
  intro below layer above shape gives
  rcases exists_of_append shape with ⟨-, rfl, -⟩ | ⟨front, rfl, rfl⟩
  · rw [silent] at gives
    cases gives
  · obtain ⟨later, member, broken⟩ := unset below layer front rfl gives
    exact ⟨later, by simp [member], broken⟩

theorem unset_of_breaks {top : Literal} (broken : breaks top keys = true) :
    Unset (layers ++ [top]) keys := by
  intro below layer above shape gives
  rcases exists_of_append shape with ⟨-, rfl, -⟩ | ⟨front, rfl, -⟩
  · rw [at?_of_breaks broken] at gives
    cases gives
  · exact ⟨top, by simp, broken⟩

theorem unset_of_silent (silent : ∀ layer ∈ layers, layer.at? keys = none) : Unset layers keys := by
  rintro below layer above rfl gives
  rw [silent layer (by simp)] at gives
  cases gives

/-- Layers that leave every way whole set a key if one of them gives it a value. -/
theorem silent_of_unset (unset : Unset layers keys)
    (whole : ∀ layer ∈ layers, breaks layer keys = false) :
    ∀ layer ∈ layers, layer.at? keys = none := by
  intro layer member
  obtain ⟨below, above, rfl⟩ := List.append_of_mem member
  cases gives : layer.at? keys with
  | none => rfl
  | some v =>
    obtain ⟨later, there, broken⟩ := unset below layer above rfl (by rw [gives]; rfl)
    rw [whole later (by simp [there])] at broken
    cases broken

/-- The last layer that sets a key gives it one value. -/
theorem setBy_unique {v w : Literal} (one : SetBy layers keys v) (two : SetBy layers keys w) :
    v = w := by
  have order : ∀ {below above between top : List Literal} {layer last v w : Literal},
      below ++ layer :: above = (below ++ between) ++ last :: top → layer.at? keys = some v →
      (∀ later ∈ above, later.at? keys = none) → last.at? keys = some w → v = w := by
    intro below above between top layer last v w same gives silent set
    rw [List.append_assoc, List.append_cancel_left_eq] at same
    cases between with
    | nil =>
      cases same
      exact Option.some.inj (gives.symm.trans set)
    | cons head between =>
      cases same
      rw [silent last (by simp)] at set
      cases set
  obtain ⟨below, layer, above, rfl, gives, silent⟩ := one
  obtain ⟨front, last, top, same, set, quiet⟩ := two
  rcases List.append_eq_append_iff.mp same with ⟨between, rfl, -⟩ | ⟨between, rfl, -⟩
  · exact order same gives (fun later member => (silent later member).1) set
  · exact (order same.symm set (fun later member => (quiet later member).1) gives).symm

theorem not_unset_of_setBy {v : Literal} (set : SetBy layers keys v) : ¬ Unset layers keys := by
  obtain ⟨below, layer, above, rfl, gives, silent⟩ := set
  intro unset
  obtain ⟨later, member, broken⟩ := unset below layer above rfl (by rw [gives]; rfl)
  rw [(silent later member).2] at broken
  cases broken

/-! ### What stands at a key -/

/-- What layers make of a key. -/
inductive Stands (layers : List Literal) (keys : List String) : Option Literal → Prop
  | value {v : Literal} (set : SetBy layers keys v) (plain : ¬ IsTable v) :
      Stands layers keys (some v)
  | table {fields joined : List (String × Literal)} (set : SetBy layers keys (.table fields)) :
      Stands layers keys (some (.table joined))
  | absent (unset : Unset layers keys) : Stands layers keys none

namespace Stands

variable {result : Option Literal} {v : Literal}

/-- A key has the value of the last layer that sets it. -/
theorem eq_of_setBy (stands : Stands layers keys result) (set : SetBy layers keys v)
    (plain : ¬ IsTable v) : result = some v := by
  cases stands with
  | value other _ => rw [setBy_unique set other]
  | table other => exact absurd ⟨_, setBy_unique set other⟩ plain
  | absent unset => exact absurd unset (not_unset_of_setBy set)

theorem exists_of_setBy (stands : Stands layers keys result) (set : SetBy layers keys v)
    (table : IsTable v) : ∃ joined, result = some (.table joined) := by
  cases stands with
  | value other plain => exact absurd (setBy_unique set other ▸ table) plain
  | table _ => exact ⟨_, rfl⟩
  | absent unset => exact absurd unset (not_unset_of_setBy set)

theorem eq_none_of_unset (stands : Stands layers keys result) (unset : Unset layers keys) :
    result = none := by
  cases stands with
  | value set _ | table set => exact absurd unset (not_unset_of_setBy set)
  | absent _ => rfl

/-- A value that is no table comes from one layer. -/
theorem setBy (stands : Stands layers keys (some v)) (plain : ¬ IsTable v) : SetBy layers keys v := by
  cases stands with
  | value set _ => exact set
  | table => exact absurd ⟨_, rfl⟩ plain

end Stands

theorem stands_nil : Stands [] keys none :=
  .absent (unset_of_silent (by simp))

/-- A layer that others leave as it is stands for itself. -/
theorem stands_of_silent (bottom : Literal)
    (silent : ∀ layer ∈ layers, layer.at? keys = none ∧ breaks layer keys = false) :
    Stands (bottom :: layers) keys (bottom.at? keys) := by
  cases gives : bottom.at? keys with
  | none =>
    refine .absent (unset_of_silent fun layer member => ?_)
    rcases List.mem_cons.mp member with rfl | above
    · exact gives
    · exact (silent layer above).1
  | some v =>
    have set : SetBy (bottom :: layers) keys v := ⟨[], bottom, layers, rfl, gives, silent⟩
    by_cases table : IsTable v
    · obtain ⟨fields, rfl⟩ := table
      exact .table set
    · exact .value set table

section Merging

variable (merging : MergesByKey kit)

include merging

/-- One more layer decides a key over those before. -/
theorem stands_merge {lower top : Literal} (below : Tidy True lower) (above : Tidy True top)
    (before : Stands layers keys (lower.at? keys)) :
    Stands (layers ++ [top]) keys ((kit.merge lower top).at? keys) := by
  have step := decides_merge merging below above keys
  generalize (kit.merge lower top).at? keys = result at step
  cases step with
  | sets set plain => exact .value (setBy_top set) plain
  | joins set => exact .table (setBy_top set)
  | cuts broken => exact .absent (unset_of_breaks broken)
  | keeps unset whole =>
    rw [Option.bind_some]
    generalize lower.at? keys = result at before
    cases before with
    | value set plain => exact .value (setBy_append set unset whole) plain
    | table set => exact .table (setBy_append set unset whole)
    | absent none => exact .absent (unset_append none unset)

theorem tidy_foldl {nulls : Prop} {lower : Literal} (below : Tidy nulls lower) {tops : List Literal}
    (above : ∀ top ∈ tops, Tidy nulls top) : Tidy nulls (tops.foldl kit.merge lower) :=
  List.foldlRecOn tops kit.merge below fun _ tidy top member => merging.tidy tidy (above top member)

/-- The induction is on the layers from below. -/
theorem stands_foldl {lower : Literal} (below : Tidy True lower)
    (before : Stands layers keys (lower.at? keys)) {tops : List Literal}
    (above : ∀ top ∈ tops, Tidy True top) :
    Stands (layers ++ tops) keys ((tops.foldl kit.merge lower).at? keys) := by
  induction tops using List.reverseRecOn with
  | nil => simpa using before
  | append_singleton tops top ih =>
    have tidy : ∀ top ∈ tops, Tidy True top := fun top member => above top (by simp [member])
    rw [List.foldl_concat, ← List.append_assoc]
    exact stands_merge merging (tidy_foldl merging below tidy) (above top (by simp)) (ih tidy)

theorem isTable_foldl {lower : Literal} (below : Tidy True lower) (first : IsTable lower)
    {tops : List Literal} (above : ∀ top ∈ tops, Tidy True top ∧ IsTable top) :
    IsTable (tops.foldl kit.merge lower) := by
  have both : Tidy True (tops.foldl kit.merge lower) ∧ IsTable (tops.foldl kit.merge lower) := by
    refine List.foldlRecOn (motive := fun doc => Tidy True doc ∧ IsTable doc) tops kit.merge
      ⟨below, first⟩ fun doc made top member => ?_
    obtain ⟨tidy, table⟩ := above top member
    exact ⟨merging.tidy made.1 tidy, isTable_merge merging made.1 tidy table⟩
  exact both.2

theorem foldl_ne_null {lower : Literal} (below : Tidy True lower) (first : lower.at? keys ≠ some .null)
    {tops : List Literal} (above : ∀ top ∈ tops, Tidy True top ∧ top.at? keys ≠ some .null) :
    (tops.foldl kit.merge lower).at? keys ≠ some .null := by
  have both : Tidy True (tops.foldl kit.merge lower) ∧
      (tops.foldl kit.merge lower).at? keys ≠ some .null := by
    refine List.foldlRecOn (motive := fun doc => Tidy True doc ∧ doc.at? keys ≠ some .null) tops
      kit.merge ⟨below, first⟩ fun doc made top member => ?_
    obtain ⟨tidy, noNull⟩ := above top member
    exact ⟨merging.tidy made.1 tidy, merge_ne_null merging made.1 tidy made.2 noNull⟩
  exact both.2

theorem tidy_nothing {nulls : Prop} : Tidy nulls kit.empty :=
  merging.empty ▸ tidy_empty

/-- Documents merged from nothing. -/
theorem stands_merged {tops : List Literal} (above : ∀ top ∈ tops, Tidy True top) (some : keys ≠ []) :
    Stands tops keys ((tops.foldl kit.merge kit.empty).at? keys) := by
  have nothing : kit.empty.at? keys = none := by
    obtain ⟨key, rest, rfl⟩ := List.exists_cons_of_ne_nil some
    rw [merging.empty, at?_table]
    rfl
  have first : Stands [] keys (kit.empty.at? keys) := nothing ▸ stands_nil
  exact stands_foldl merging (tidy_nothing merging) first above

/-- Documents that leave the way to a key whole do so together. -/
theorem whole_merged {tops : List Literal} (above : ∀ top ∈ tops, Tidy True top ∧ IsTable top)
    (whole : ∀ top ∈ tops, breaks top keys = false) :
    breaks (tops.foldl kit.merge kit.empty) keys = false := by
  rw [← Bool.not_eq_true]
  intro broken
  obtain ⟨front, rest, w, rfl, some, there, plain⟩ := breaks_eq_true.mp broken
  by_cases first : front = []
  · obtain ⟨fields, same⟩ := isTable_foldl merging (tidy_nothing merging) ⟨[], merging.empty⟩ above
    rw [first, at?, same] at there
    exact plain ⟨fields, (Option.some.inj there).symm⟩
  · have stands := stands_merged merging (fun top member => (above top member).1) first
    rw [there] at stands
    obtain ⟨below, layer, later, rfl, gives, -⟩ := stands.setBy plain
    have member : layer ∈ below ++ layer :: later := by simp
    have cut := breaks_eq_true.mpr ⟨front, rest, w, rfl, some, gives, plain⟩
    rw [whole layer member] at cut
    cases cut

/-- Documents that leave the way to a key whole may be merged with each other first. -/
theorem stands_beneath_merged {bottom : Literal} (below : Tidy True bottom) {tops : List Literal}
    (above : ∀ top ∈ tops, Tidy True top ∧ IsTable top) (some : keys ≠ [])
    (whole : ∀ top ∈ tops, breaks top keys = false) :
    Stands (bottom :: tops) keys ((kit.merge bottom (tops.foldl kit.merge kit.empty)).at? keys) := by
  have tidy : ∀ top ∈ tops, Tidy True top := fun top member => (above top member).1
  have together := stands_merged merging tidy some
  have step := decides_merge merging below (tidy_foldl merging (tidy_nothing merging) tidy) keys
  generalize (kit.merge bottom (tops.foldl kit.merge kit.empty)).at? keys = result at step
  cases step with
  | sets set plain =>
    rw [set] at together
    exact .value (setBy_cons bottom (together.setBy plain)) plain
  | joins set =>
    rw [set] at together
    cases together with
    | value set plain => exact absurd ⟨_, rfl⟩ plain
    | table set => exact .table (setBy_cons bottom set)
  | cuts broken =>
    rw [whole_merged merging above whole] at broken
    cases broken
  | keeps unset _ =>
    rw [unset] at together
    cases together with
    | absent unset =>
      rw [Option.bind_some]
      exact stands_of_silent bottom fun top member =>
        ⟨silent_of_unset unset whole top member, whole top member⟩

end Merging

end Crosscut.Layering
