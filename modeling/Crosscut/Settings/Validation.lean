import Crosscut.Settings.Error

/-! Checks on settings that fit the schema. A log that goes to a file needs the file's path; log
filters name modules; every name of the vocabulary is given, no two kinds of advice share a name,
and the two join point types differ. The first check that fails decides the error. -/
namespace Crosscut

/-- The first member of a list that has been seen before, in the list or ahead of it. -/
def firstRepeated? {α : Type} [DecidableEq α] (seen : List α) : List α → Option α
  | [] => none
  | a :: rest => if a ∈ seen then some a else firstRepeated? (a :: seen) rest

/-- Nothing is repeated exactly when the members are distinct and new. -/
theorem firstRepeated?_eq_none {α : Type} [DecidableEq α] {seen members : List α} :
    firstRepeated? seen members = none ↔ members.Nodup ∧ ∀ a ∈ members, a ∉ seen := by
  induction members generalizing seen with
  | nil => simp [firstRepeated?]
  | cons a rest ih =>
    by_cases before : a ∈ seen
    · simp [firstRepeated?, before]
    · simp only [firstRepeated?, before, ↓reduceIte, ih, List.nodup_cons, List.mem_cons, not_or,
        forall_eq_or_imp, not_false_eq_true, true_and]
      constructor
      · rintro ⟨distinct, fresh⟩
        exact ⟨⟨fun member => (fresh a member).1 rfl, distinct⟩,
          fun b member => (fresh b member).2⟩
      · rintro ⟨⟨absent, distinct⟩, fresh⟩
        exact ⟨distinct, fun b member => ⟨fun same => absent (same ▸ member), fresh b member⟩⟩

/-- Whether a text may stand for a module in a log filter. -/
def isFilterModule (name : String) : Bool :=
  !name.isEmpty && !name.toList.any Text.isBlank

namespace LogSettings

def fault? (s : LogSettings) : Option SettingsError :=
  if s.output = .file ∧ s.filePath = none then some (.missingField "logging.file_path")
  else (s.filters.find? (!isFilterModule ·.1)).map fun filter => .invalid (.filterModule filter.1)

end LogSettings

namespace Vocabulary

/-- The names of the kinds of advice, in the order in which they are looked up. -/
def adviceNames (v : Vocabulary) : List String :=
  AdviceKind.all.map v.adviceName

def fault? (v : Vocabulary) : Option SettingsError :=
  match v.named.find? (Text.isBlankText ·.2) with
  | some (field, _) => some (.missingField ("weaving.annotations." ++ field))
  | none =>
    match firstRepeated? [] v.adviceNames with
    | some name => some (.invalid (.sharedAdviceName name))
    | none => if v.joinPoint = v.proceedingJoinPoint then some (.invalid .sameJoinPointTypes) else none

end Vocabulary

namespace Settings

def fault? (s : Settings) : Option SettingsError :=
  s.logging.fault?.or s.weaving.vocabulary.fault?

def validate (s : Settings) : Except SettingsError Settings :=
  match s.fault? with
  | some fault => .error fault
  | none => .ok s

end Settings
end Crosscut
