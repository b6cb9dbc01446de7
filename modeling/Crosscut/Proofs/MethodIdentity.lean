import Mathlib.Data.List.Basic
import Crosscut.Host.Type

/-! What the text of a method's identity tells. The parts of the text are written one after the
other, so the marks between them must not occur in names: an opening parenthesis ends the name of
the method, the last full stop before it ends the name of the declaring type, and commas stand
between the parameter types. Where names keep to this, the text is as good as its parts. -/
namespace Crosscut.MethodIdentity

/-- A type name without the marks that stand around it in the text of an identity. -/
structure PlainType (name : String) : Prop where
  given : name ≠ ""
  unopened : '(' ∉ name.toList
  unlisted : ',' ∉ name.toList

/-- A method whose names leave the text of its identity readable. -/
structure Plain (m : Method) : Prop where
  declaring : ∀ t, m.declaring = some t → PlainType t.name
  undotted : '.' ∉ m.name.toList
  unopened : '(' ∉ m.name.toList
  parameters : ∀ name ∈ m.parameterTypes, PlainType name

instance (name : String) : Decidable (PlainType name) :=
  decidable_of_iff (name ≠ "" ∧ '(' ∉ name.toList ∧ ',' ∉ name.toList)
    ⟨fun ⟨given, unopened, unlisted⟩ => ⟨given, unopened, unlisted⟩,
      fun plain => ⟨plain.given, plain.unopened, plain.unlisted⟩⟩

instance (m : Method) : Decidable (Plain m) :=
  decidable_of_iff ((∀ t ∈ m.declaring, PlainType t.name) ∧ '.' ∉ m.name.toList ∧
      '(' ∉ m.name.toList ∧ ∀ name ∈ m.parameterTypes, PlainType name)
    ⟨fun ⟨declaring, undotted, unopened, parameters⟩ => ⟨declaring, undotted, unopened, parameters⟩,
      fun plain => ⟨plain.declaring, plain.undotted, plain.unopened, plain.parameters⟩⟩

/-- The parts of a method's identity: the name of the declaring type, its own name and the names of
the parameter types. -/
def identity (m : Method) : String × String × List String :=
  (m.declaringName, m.name, m.parameterTypes)

/-- The text of an identity as characters. -/
theorem toList_key (m : Method) :
    m.key.text.toList = (m.declaringName.toList ++ '.' :: m.name.toList) ++
      '(' :: ([','].intercalate (m.parameterTypes.map String.toList) ++ [')']) := by
  simp [Method.key, String.toList_append, String.toList_intercalate]

theorem key_of_identity {a b : Method} (same : identity a = identity b) : a.key = b.key := by
  simp only [identity, Prod.mk.injEq] at same
  simp only [Method.key, same]

/-- A list of texts holds a character only if the separator or one of the texts does. -/
theorem not_mem_intercalate {c separator : Char} {texts : List (List Char)}
    (other : c ≠ separator) (absent : ∀ text ∈ texts, c ∉ text) :
    c ∉ [separator].intercalate texts := by
  induction texts with
  | nil => simp
  | cons first rest ih =>
    have before := absent first List.mem_cons_self
    have behind := ih fun text member => absent text (List.mem_cons_of_mem _ member)
    cases rest with
    | nil => simpa using before
    | cons => simpa [List.intercalate_cons_cons, other, before] using behind

/-- Names without commas are read back from the list that they are written in. -/
theorem splitOn_of_plain {names : List String} (some : names ≠ [])
    (plain : ∀ name ∈ names, PlainType name) :
    ([','].intercalate (names.map String.toList)).splitOn ',' = names.map String.toList := by
  refine List.splitOn_intercalate ',' ?_ (by simpa using some)
  intro text member
  obtain ⟨name, listed, rfl⟩ := List.mem_map.mp member
  exact (plain name listed).unlisted

/-- An empty list is written like a list of one empty name, and like no list of plain names. -/
theorem intercalate_ne_nil {names : List String} (some : names ≠ [])
    (plain : ∀ name ∈ names, PlainType name) : [','].intercalate (names.map String.toList) ≠ [] := by
  intro empty
  have back := splitOn_of_plain some plain
  rw [empty, List.splitOn_nil] at back
  obtain ⟨name, rest, rfl, unnamed, -⟩ := List.map_eq_cons_iff.mp back.symm
  exact (plain name List.mem_cons_self).given (by simpa using unnamed)

theorem intercalate_injective {names others : List String}
    (plain : ∀ name ∈ names, PlainType name) (plainOthers : ∀ name ∈ others, PlainType name)
    (same : [','].intercalate (names.map String.toList) =
      [','].intercalate (others.map String.toList)) : names = others := by
  by_cases none : names = []
  · subst none
    by_contra some
    exact intercalate_ne_nil (Ne.symm some) plainOthers same.symm
  · have some : others ≠ [] := by
      rintro rfl
      exact intercalate_ne_nil none plain same
    have back := congrArg (List.splitOn ',') same
    rw [splitOn_of_plain none plain, splitOn_of_plain some plainOthers] at back
    exact List.map_injective_iff.mpr (fun _ _ => String.toList_inj.mp) back

variable {a b m : Method}

theorem Plain.declaringName_unopened (plain : Plain m) : '(' ∉ m.declaringName.toList := by
  unfold Method.declaringName
  cases known : m.declaring with
  | none => simp
  | some t => exact (plain.declaring t known).unopened

/-- Only a method without a declaring type has an identity without the name of one. -/
theorem Plain.declaringName_eq_empty (plain : Plain m) :
    m.declaringName = "" ↔ m.declaring = none := by
  unfold Method.declaringName
  cases known : m.declaring with
  | none => simp
  | some t => simpa using (plain.declaring t known).given

/-- Methods with plain names have the same key exactly when they agree in the name of the declaring
type, the name and the names of the parameter types. -/
theorem key_eq_iff (plainA : Plain a) (plainB : Plain b) :
    a.key = b.key ↔ identity a = identity b := by
  refine ⟨fun same => ?_, key_of_identity⟩
  have texts := congrArg (·.text.toList) same
  simp only [toList_key] at texts
  have head : '(' ∉ b.declaringName.toList ++ '.' :: b.name.toList := by
    simp [plainB.declaringName_unopened, plainB.unopened]
  have tail : '(' ∉ [','].intercalate (b.parameterTypes.map String.toList) ++ [')'] := by
    have list : '(' ∉ [','].intercalate (b.parameterTypes.map String.toList) := by
      refine not_mem_intercalate (by decide) fun text member => ?_
      obtain ⟨name, listed, rfl⟩ := List.mem_map.mp member
      exact (plainB.parameters name listed).unopened
    simpa using list
  obtain ⟨heads, -, tails⟩ := (List.append_cons_inj_of_notMem head tail).mp texts.symm
  have cuts := congrArg (Text.cutLast '.') heads
  rw [Text.cutLast_append plainA.undotted, Text.cutLast_append plainB.undotted] at cuts
  simp only [Option.some.injEq, Prod.mk.injEq, String.toList_inj] at cuts
  have lists := intercalate_injective plainB.parameters plainA.parameters
    (List.append_cancel_right tails)
  simp only [identity, cuts, lists]

end Crosscut.MethodIdentity
