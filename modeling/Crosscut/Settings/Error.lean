import Crosscut.Settings.Schema

/-! Why a configuration is refused. -/
namespace Crosscut

/-- Why settings that fit the schema are not valid. -/
inductive SettingsFault where
  | filterModule (name : String)
  | sharedAdviceName (name : String)
  | sameJoinPointTypes
deriving DecidableEq, Repr

def SettingsFault.describe : SettingsFault → String
  | .filterModule name => s!"Invalid log filter module: '{name}'"
  | .sharedAdviceName name => s!"Annotation '{name}' is used for more than one advice kind"
  | .sameJoinPointTypes => "Join point and proceeding join point types must differ"

/-- Why a configuration is refused. A value that does not fit the schema is named by the keys that
lead to it; no key at all stands for a document that cannot be read. -/
inductive SettingsError where
  | fileNotFound (path : String)
  | unsupportedFormat (extension : String)
  | misfit (keys : List String)
  | invalid (fault : SettingsFault)
  | missingField (field : String)
deriving DecidableEq, Repr

def SettingsError.message : SettingsError → String
  | .fileNotFound path => s!"Configuration file not found: {path}"
  | .unsupportedFormat extension =>
    s!"Unsupported or disabled configuration file format: .{extension}"
  | .misfit keys => "Failed to parse configuration: " ++ ".".intercalate keys
  | .invalid fault => s!"Invalid configuration: {fault.describe}"
  | .missingField field => s!"Missing required configuration field: {field}"

end Crosscut
