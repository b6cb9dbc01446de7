import Crosscut.Text.Lowering

/-! Profiles select which files of a configuration are read. -/
namespace Crosscut

/-- A profile. -/
inductive Profile where
  | development
  | production
  | custom (name : String)
deriving DecidableEq, Repr

namespace Profile

/-- The name of a profile, as it stands in file names. -/
def name : Profile → String
  | .development => "development"
  | .production => "production"
  | .custom name => name

/-- The profile that a word stands for. Upper and lower case do not matter. -/
def ofWord (word : String) : Profile :=
  match Text.lower word with
  | "production" | "prod" => .production
  | "development" | "dev" => .development
  | other => .custom other

end Profile
end Crosscut
