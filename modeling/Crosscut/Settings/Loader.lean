import Crosscut.Collect
import Crosscut.Settings.DocumentKit
import Crosscut.Settings.Profile
import Crosscut.Settings.Validation

/-! Loading a configuration from layers. From the lowest to the uppermost these are the defaults, the
settings given by the program, the files, and the environment. Folders are searched in order for
the file of the profile and for the main file, and the first main file ends the search. A file that
is named takes the place of the search. -/
namespace Crosscut

/-- A folder to search: one that is named, the current one, or the user's. -/
inductive SearchFolder where
  | named (path : String)
  | current
  | user
deriving DecidableEq, Repr

/-- What a loader can see: the files, the user's folder among them, and the variables. -/
structure LoaderHost where
  tree : FileTree
  userFolder : String
  environment : Variables

/-- Where to load a configuration from. -/
structure Loader where
  profile : Option Profile := none
  folders : List SearchFolder := []
  given : List Settings := []
  file : Option String := none
  readsVariables : Bool := true

def SearchFolder.path (host : LoaderHost) : SearchFolder → String
  | .named path => path
  | .current => "."
  | .user => host.userFolder

namespace Loader

def atCurrent : Loader := { folders := [.current] }

def ofFile (path : String) : Loader := { file := some path }

/-- The profile that is named, else the one that the environment selects. -/
def profileFor (l : Loader) (host : LoaderHost) : Profile :=
  l.profile.getD (((host.environment.value? Variables.profileName).map Profile.ofWord).getD .development)

/-- The folders to search. Without any these are the current one and the user's. -/
def searched (l : Loader) : List SearchFolder :=
  if l.folders.isEmpty then [.current, .user] else l.folders

/-- The paths of the files that the search finds, from the lowest layer to the uppermost. -/
def search (host : LoaderHost) (profile : Profile) : List SearchFolder → List String
  | [] => []
  | folder :: rest =>
    let special := FileTree.join (folder.path host) ("weft." ++ profile.name ++ ".toml")
    let main := FileTree.join (folder.path host) "weft.toml"
    (if host.tree.hasPath special then [special] else []) ++
      (if host.tree.hasPath main then [main] else search host profile rest)

def paths (l : Loader) (host : LoaderHost) : Except SettingsError (List String) :=
  match l.file with
  | none => .ok (search host (l.profileFor host) l.searched)
  | some path =>
    if host.tree.hasPath path then
      if FileTree.extension path = "toml" then .ok [path]
      else .error (.unsupportedFormat (FileTree.extension path))
    else .error (.fileNotFound path)

section Documents

variable (kit : DocumentKit)

/-- The settings that the program gives, each over those before, and all over the defaults. -/
def programmed (l : Loader) : Literal :=
  kit.merge (kit.write {}) ((l.given.map kit.write).foldl kit.merge kit.empty)

/-- A document with the variables over it, if they are read. -/
def withVariables (l : Loader) (host : LoaderHost) (doc : Literal) : Literal :=
  if l.readsVariables then
    kit.merge doc (kit.environment Variables.marker Variables.separator host.environment)
  else doc

/-- The document that all layers make together. -/
def document (l : Loader) (host : LoaderHost) : Except SettingsError Literal :=
  match l.paths host with
  | .error e => .error e
  | .ok found =>
    (collect (kit.file host.tree) found).map fun files =>
      l.withVariables kit host (files.foldl kit.merge (l.programmed kit))

def load (l : Loader) (host : LoaderHost) : Except SettingsError Settings :=
  match l.document kit host with
  | .error e => .error e
  | .ok doc =>
    match kit.read doc with
    | .error e => .error e
    | .ok settings => settings.validate

/-- Loads the configuration of the current folder, or the defaults if that fails. -/
def loadOrDefault (host : LoaderHost) : Settings :=
  match atCurrent.load kit host with
  | .ok settings => settings
  | .error _ => {}

end Documents

end Loader
end Crosscut
