import Crosscut.Proofs.DocumentMerging
import Crosscut.Proofs.InlineValues
import Crosscut.Proofs.Layering
import Crosscut.Proofs.SettingsReading
import Crosscut.Settings.Loader

/-! Which layer decides a setting. The layers are the defaults, the settings given by the program, the
files that the search reaches, and the variables. A setting has the value of the last layer that sets it
above all layers that break the way to it, and the default of the schema if there is none. How documents
are read and merged is taken from the library as the laws on documents say. -/
namespace Crosscut.LayerPrecedence
open Literal DocumentLaws Layering

/-! ### The search for files -/

def mainFile (host : LoaderHost) (folder : SearchFolder) : String :=
  FileTree.join (folder.path host) "weft.toml"

def profileFile (host : LoaderHost) (profile : Profile) (folder : SearchFolder) : String :=
  FileTree.join (folder.path host) ("weft." ++ profile.name ++ ".toml")

def holdsMain (host : LoaderHost) (folder : SearchFolder) : Bool :=
  host.tree.hasPath (mainFile host folder)

/-- The folders up to the first one with a main file. -/
def reached (host : LoaderHost) (folders : List SearchFolder) : List SearchFolder :=
  folders.takeWhile (!holdsMain host ·) ++ (folders.find? (holdsMain host)).toList

theorem reached_of_main {host : LoaderHost} {folder : SearchFolder}
    (main : holdsMain host folder = true) (rest : List SearchFolder) :
    reached host (folder :: rest) = [folder] := by
  simp [reached, main]

theorem reached_of_no_main {host : LoaderHost} {folder : SearchFolder}
    (main : holdsMain host folder = false) (rest : List SearchFolder) :
    reached host (folder :: rest) = folder :: reached host rest := by
  simp [reached, main]

/-- The search finds the files of the profile in the folders that it reaches, and then the main file
of the last one. -/
theorem search_eq (host : LoaderHost) (profile : Profile) (folders : List SearchFolder) :
    Loader.search host profile folders =
      ((reached host folders).map (profileFile host profile)).filter host.tree.hasPath ++
        ((folders.find? (holdsMain host)).map (mainFile host)).toList := by
  induction folders with
  | nil => rfl
  | cons folder rest ih =>
    have step : Loader.search host profile (folder :: rest) =
        [profileFile host profile folder].filter host.tree.hasPath ++
          if holdsMain host folder = true then [mainFile host folder]
          else Loader.search host profile rest := by
      rw [List.filter_cons, List.filter_nil]
      rfl
    rw [step]
    cases main : holdsMain host folder with
    | true => rw [reached_of_main main, List.find?_cons_of_pos main]; rfl
    | false =>
      rw [reached_of_no_main main, List.find?_cons_of_neg (by simp [main]), List.map_cons,
        List.filter_cons, List.filter_cons, List.filter_nil]
      split <;> simp [ih]

/-- Folders behind one with a main file are not searched. -/
theorem search_of_main {host : LoaderHost} {folder : SearchFolder}
    (main : holdsMain host folder = true) (profile : Profile) (before after : List SearchFolder) :
    Loader.search host profile (before ++ folder :: after) =
      Loader.search host profile (before ++ [folder]) := by
  have same : reached host (before ++ folder :: after) = reached host (before ++ [folder]) ∧
      (before ++ folder :: after).find? (holdsMain host) =
        (before ++ [folder]).find? (holdsMain host) := by
    induction before with
    | nil => simp [reached_of_main main, List.find?_cons_of_pos main]
    | cons head rest ih =>
      cases first : holdsMain host head with
      | true => simp [reached_of_main first, List.find?_cons_of_pos first]
      | false => simp [reached_of_no_main first, List.find?_cons_of_neg, first, ih]
  rw [search_eq, search_eq, same.1, same.2]

section Loading

variable {kit : DocumentKit} {l : Loader} {host : LoaderHost}

/-- A loader that does not search the folders behind one with a main file loads the same. -/
theorem load_of_main {before after : List SearchFolder} {folder : SearchFolder}
    (searched : l.searched = before ++ folder :: after) (main : holdsMain host folder = true) :
    ({ l with folders := before ++ [folder] } : Loader).load kit host = l.load kit host := by
  have fewer : ({ l with folders := before ++ [folder] } : Loader).searched = before ++ [folder] := by
    simp [Loader.searched]
  have paths : ({ l with folders := before ++ [folder] } : Loader).paths host = l.paths host := by
    unfold Loader.paths
    rw [fewer, searched, search_of_main main (l.profileFor host) before after]
    rfl
  unfold Loader.load Loader.document
  rw [paths]
  rfl

/-! ### The layers -/

/-- The document that the variables give. -/
def variablesOf (kit : DocumentKit) (host : LoaderHost) : Literal :=
  kit.environment Variables.marker Variables.separator host.environment

/-- The layers of a loader from the lowest to the uppermost: the defaults, the given settings as they
were given, the documents of the files, and the variables if they are read. The files are the named one
alone, or those that the search finds. -/
def InOrder (kit : DocumentKit) (l : Loader) (host : LoaderHost) (layers : List Literal) : Prop :=
  ∃ (paths : List String) (files : List Literal),
    layers = kit.write {} :: l.given.map kit.write ++ files ++
      (if l.readsVariables then [variablesOf kit host] else []) ∧
    files.map .ok = paths.map (kit.file host.tree) ∧
    (∀ (place : Nat) path doc, paths[place]? = some path →
      host.tree.read? path = some (.document doc) → files[place]? = some doc) ∧
    match l.file with
    | some path => paths = [path]
    | none => paths =
        ((reached host l.searched).map (profileFile host (l.profileFor host))).filter
            host.tree.hasPath ++
          ((l.searched.find? (holdsMain host)).map (mainFile host)).toList

/-- The paths of a loader are the named one alone, or those that the search finds. -/
theorem paths_eq_ok {paths : List String} (found : l.paths host = .ok paths) :
    match l.file with
    | some path => paths = [path]
    | none => paths =
        ((reached host l.searched).map (profileFile host (l.profileFor host))).filter
            host.tree.hasPath ++
          ((l.searched.find? (holdsMain host)).map (mainFile host)).toList := by
  unfold Loader.paths at found
  split at found
  · rename_i none
    cases found
    rw [none]
    exact search_eq host (l.profileFor host) l.searched
  · rename_i path named
    split at found
    · split at found
      · cases found
        rw [named]
      · cases found
    · cases found

/-- The layers with the documents that are read from the files. -/
theorem inOrder_of_collect (files : ReadsFiles kit) {paths : List String} {read : List Literal}
    (found : l.paths host = .ok paths) (collected : collect (kit.file host.tree) paths = .ok read) :
    InOrder kit l host (kit.write {} :: l.given.map kit.write ++ read ++
      (if l.readsVariables then [variablesOf kit host] else [])) := by
  refine ⟨paths, read, rfl, (collect_eq_ok.mp collected).symm, fun place path doc there held => ?_,
    paths_eq_ok found⟩
  obtain ⟨file, result, same⟩ := getElem?_collect collected there
  rw [files.held held] at same
  cases same
  exact result

theorem document_eq_ok {doc : Literal} (made : l.document kit host = .ok doc) :
    ∃ paths read, l.paths host = .ok paths ∧ collect (kit.file host.tree) paths = .ok read ∧
      doc = l.withVariables kit host (read.foldl kit.merge (l.programmed kit)) := by
  unfold Loader.document at made
  split at made
  · cases made
  · rename_i paths found
    obtain ⟨read, collected, rfl⟩ := map_eq_ok.mp made
    exact ⟨paths, read, found, collected, rfl⟩

/-! ### What layers are made of -/

/-- The documents of files are tables without null that repeat no key, and the log filters that the
program gives are for different modules. -/
structure WellFormed (l : Loader) (host : LoaderHost) : Prop where
  documents : ∀ spot doc, host.tree.files.get? spot = some (.document doc) →
    IsTable doc ∧ Tidy False doc
  filters : ∀ s ∈ l.given, DistinctFilters s

/-- A layer is written from settings, or it is a document without null. -/
inductive Sourced (kit : DocumentKit) : Literal → Prop
  | settings {s : Settings} (distinct : DistinctFilters s) : Sourced kit (kit.write s)
  | document {doc : Literal} (table : IsTable doc) (tidy : Tidy False doc) : Sourced kit doc

/-- No single setting is a table. -/
theorem value?_plain (s : Settings) {keys : List String} {v : Literal}
    (held : value? s keys = some v) : ¬ IsTable v := by
  rintro ⟨fields, rfl⟩
  have events : ∀ key, eventValue? s.logging.spanEvents key ≠ some (.table fields) := by
    intro key
    unfold eventValue?
    split <;> simp
  have path : (s.logging.filePath.map Literal.text).getD .null ≠ .table fields := by
    cases s.logging.filePath <;> simp
  have logging : ∀ keys, loggingValue? s.logging keys ≠ some (.table fields) := by
    intro keys
    unfold loggingValue?
    split <;> simp [chosen, events, path]
  have weaving : ∀ keys, weavingValue? s.weaving keys ≠ some (.table fields) := by
    intro keys
    unfold weavingValue?
    split <;> simp
  unfold value? at held
  split at held
  · exact logging _ held
  · exact weaving _ held
  · cases held

section Layers

variable (laws : Documented kit)

include laws

theorem isTable_write (s : Settings) : IsTable (kit.write s) := by
  by_cases table : IsTable (kit.write s)
  · exact table
  · have whole := laws.writing.whole s (.weaving (.single (.head _)))
    rw [(of_no_table table _ _).2] at whole
    cases whole

namespace Sourced

variable {layer : Literal}

theorem isTable (sourced : Sourced kit layer) : IsTable layer := by
  cases sourced with
  | settings _ => exact isTable_write laws _
  | document table _ => exact table

theorem tidy (sourced : Sourced kit layer) : Tidy True layer := by
  cases sourced with
  | settings distinct => exact laws.writing.tidy distinct
  | document _ tidy => exact tidy_mono False.elim tidy

/-- No layer has null below the key of a setting. -/
theorem no_null (sourced : Sourced kit layer) {keys : List String} (leaf : Leaf keys) (word : String) :
    layer.at? (keys ++ [word]) ≠ some .null := by
  cases sourced with
  | settings distinct =>
    intro found
    rw [at?_append, laws.writing.value distinct leaf] at found
    obtain ⟨inner, here, there⟩ := Option.bind_eq_some_iff.mp found
    rw [(of_no_table (value?_plain _ here) word []).1] at there
    cases there
  | document _ tidy => exact at?_ne_null tidy _

end Sourced

/-! ### Documents of variables -/

theorem tidy_nested {marker separator : String} {vars : Variables} {doc : Literal}
    (member : doc ∈ vars.filterMap (nested? kit marker separator)) : Tidy False doc ∧ IsTable doc := by
  obtain ⟨var, -, made⟩ := List.mem_filterMap.mp member
  obtain ⟨keys, known, rfl⟩ := Option.map_eq_some_iff.mp made
  exact ⟨tidy_nest (laws.environment.tidy _) keys, isTable_nest (laws.environment.some_keys known)⟩

theorem sourced_variables : Sourced kit (variablesOf kit host) := by
  have bottom : Tidy False kit.empty := tidy_nothing laws.merging
  rw [variablesOf, laws.environment.each]
  refine .document (isTable_foldl laws.merging (tidy_mono False.elim bottom)
    ⟨[], laws.merging.empty⟩ fun doc member => ?_)
    (tidy_foldl laws.merging bottom fun doc member => (tidy_nested laws member).1)
  obtain ⟨tidy, table⟩ := tidy_nested laws member
  exact ⟨tidy_mono False.elim tidy, table⟩

/-- Keys of which neither lead on to the others. -/
def Apart (keys other : List String) : Prop :=
  ¬ other <+: keys ∧ ¬ keys <+: other

/-- A variable gives its keys the value that is written in it, unless a later one leads to them, through
them, or to a section on the way. -/
theorem variable_gives {keys : List String} {written : String} {before after : Variables}
    (named : host.environment = before ++ (nameOf keys, written) :: after) (some : keys ≠ [])
    (plain : ∀ key ∈ keys, PlainKey key) (value : ¬ IsTable (kit.parse written))
    (others : ∀ later ∈ after, ∀ other,
      kit.keysOf Variables.marker Variables.separator later.1 = .some other → Apart keys other) :
    (variablesOf kit host).at? keys = .some (kit.parse written) := by
  have here : nested? kit Variables.marker Variables.separator (nameOf keys, written) =
      .some (nest (kit.parse written) keys) := by
    rw [nested?, laws.environment.named some plain]
    rfl
  rw [variablesOf, laws.environment.each]
  refine (stands_merged laws.merging (fun doc member =>
    tidy_mono False.elim (tidy_nested laws member).1) some).eq_of_setBy ?_ value
  refine ⟨before.filterMap (nested? kit Variables.marker Variables.separator), _,
    after.filterMap (nested? kit Variables.marker Variables.separator), ?_, at?_nest _ _, ?_⟩
  · rw [named, List.filterMap_append, List.filterMap_cons_some here]
  · intro doc member
    obtain ⟨later, there, made⟩ := List.mem_filterMap.mp member
    obtain ⟨other, known, rfl⟩ := Option.map_eq_some_iff.mp made
    obtain ⟨behind, ahead⟩ := others later there other known
    exact nest_elsewhere _ behind ahead

/-! ### What the document holds -/

/-- A document that is made of layers: a tidy table that has no null below a setting and holds what the
layers make of every key whose way all settings leave whole. -/
structure Made (kit : DocumentKit) (layers : List Literal) (doc : Literal) : Prop where
  tidy : Tidy True doc
  table : IsTable doc
  no_null : ∀ keys word, Leaf keys → doc.at? (keys ++ [word]) ≠ some .null
  stands : ∀ keys, keys ≠ [] → (∀ s, breaks (kit.write s) keys = false) →
    Stands layers keys (doc.at? keys)

section Document

variable {layers : List Literal} {doc : Literal}

/-- One more layer on a document. -/
theorem made_merge (made : Made kit layers doc) {top : Literal} (sourced : Sourced kit top) :
    Made kit (layers ++ [top]) (kit.merge doc top) where
  tidy := laws.merging.tidy made.tidy (sourced.tidy laws)
  table := isTable_merge laws.merging made.tidy (sourced.tidy laws) (sourced.isTable laws)
  no_null keys word leaf := merge_ne_null laws.merging made.tidy (sourced.tidy laws)
    (made.no_null keys word leaf) (sourced.no_null laws leaf word)
  stands keys some whole := stands_merge laws.merging made.tidy (sourced.tidy laws)
    (made.stands keys some whole)

theorem made_foldl (made : Made kit layers doc) {tops : List Literal}
    (sourced : ∀ top ∈ tops, Sourced kit top) :
    Made kit (layers ++ tops) (tops.foldl kit.merge doc) := by
  induction tops generalizing layers doc with
  | nil => simpa using made
  | cons top tops ih =>
    obtain ⟨here, later⟩ := List.forall_mem_cons.mp sourced
    rw [List.foldl_cons, ← List.singleton_append, ← List.append_assoc]
    exact ih (made_merge laws made here) later

/-- What the program gives is merged with each other before it goes over the defaults. -/
theorem made_programmed (given : ∀ s ∈ l.given, DistinctFilters s) :
    Made kit (kit.write {} :: l.given.map kit.write) (l.programmed kit) := by
  have default : Sourced kit (kit.write {}) := .settings List.nodup_nil
  have sourced : ∀ layer ∈ l.given.map kit.write, Sourced kit layer :=
    List.forall_mem_map.mpr fun s member => .settings (given s member)
  have layers : ∀ layer ∈ l.given.map kit.write, Tidy True layer ∧ IsTable layer :=
    fun layer member => ⟨(sourced layer member).tidy laws, (sourced layer member).isTable laws⟩
  have nothing : Tidy True kit.empty := tidy_nothing laws.merging
  have together := tidy_foldl laws.merging nothing fun layer member => (layers layer member).1
  exact {
    tidy := laws.merging.tidy (default.tidy laws) together
    table := isTable_merge laws.merging (default.tidy laws) together
      (isTable_foldl laws.merging nothing ⟨[], laws.merging.empty⟩ layers)
    no_null := fun keys word leaf => by
      refine merge_ne_null laws.merging (default.tidy laws) together (default.no_null laws leaf word)
        (foldl_ne_null laws.merging nothing ?_ fun layer member =>
          ⟨(layers layer member).1, (sourced layer member).no_null laws leaf word⟩)
      rw [laws.merging.empty]
      exact at?_ne_null tidy_empty _
    stands := fun keys some whole => stands_beneath_merged laws.merging (default.tidy laws) layers some
      (List.forall_mem_map.mpr fun s _ => whole s) }

theorem made_document (formed : WellFormed l host) (made : l.document kit host = .ok doc) :
    ∃ layers, InOrder kit l host layers ∧ Made kit layers doc := by
  obtain ⟨paths, read, found, collected, rfl⟩ := document_eq_ok made
  have sourced : ∀ file ∈ read, Sourced kit file := by
    intro file member
    have result : Except.ok file ∈ paths.map (kit.file host.tree) :=
      collect_eq_ok.mp collected ▸ List.mem_map.mpr ⟨file, member, rfl⟩
    obtain ⟨path, -, known⟩ := List.mem_map.mp result
    rcases laws.files.source known with rfl | ⟨spot, held⟩
    · exact .document ⟨[], laws.merging.empty⟩ (tidy_nothing laws.merging)
    · obtain ⟨table, tidy⟩ := formed.documents spot file held
      exact .document table tidy
  have below := made_foldl laws (made_programmed laws formed.filters) sourced
  refine ⟨_, inOrder_of_collect laws.files found collected, ?_⟩
  unfold Loader.withVariables
  split
  · exact made_merge laws below (sourced_variables laws)
  · simpa using below

/-! ### The value of a setting -/

/-- Settings hold at the key of every setting what layers give for it. The value is that of the last
layer that sets the key. If no layer sets it, or only layers below one that breaks the way to it, it is
the default, as long as no section on the way stands as a list. -/
structure Follows (layers : List Literal) (s : Settings) : Prop where
  set : ∀ keys v, Leaf keys → SetBy layers keys v → value? s keys = some v
  unset : ∀ keys, Leaf keys → Unset layers keys →
    (∀ front rest items, keys = front ++ rest → rest ≠ [] → ¬ SetBy layers front (.list items)) →
      value? s keys = value? {} keys

section Values

variable {s : Settings} (made : Made kit layers doc) (read : kit.read doc = .ok s)

include made

theorem stands_front {front rest : List String} (leaf : Leaf (front ++ rest)) (some : front ≠ []) :
    Stands layers front (doc.at? front) := by
  refine made.stands front some fun t => ?_
  cases broken : breaks (kit.write t) front with
  | false => rfl
  | true =>
    have whole := laws.writing.whole t leaf
    rw [breaks_append rest broken] at whole
    cases whole

theorem stands_leaf {keys : List String} (leaf : Leaf keys) : Stands layers keys (doc.at? keys) :=
  made.stands keys (ne_nil_of_leaf leaf) fun t => laws.writing.whole t leaf

include read

/-- Settings that are read from layers have no table at the key of a setting. A table would have to be
a word with null, and no layer gives that. -/
theorem plain_of_setBy {keys : List String} {v : Literal} (leaf : Leaf keys)
    (set : SetBy layers keys v) : ¬ IsTable v := by
  intro table
  obtain ⟨joined, found⟩ := (stands_leaf laws made leaf).exists_of_setBy set table
  obtain ⟨held, known, same | ⟨word, same, -⟩⟩ := laws.reading.given made.tidy read leaf found
  · exact value?_plain s known ⟨joined, same⟩
  · refine made.no_null keys word leaf ?_
    rw [at?_append, found, same, Option.bind_some, at?_single, fieldIn?_cons, if_pos rfl]

theorem follows_layers : Follows layers s where
  set keys v leaf set := by
    have plain := plain_of_setBy laws made read leaf set
    have found := (stands_leaf laws made leaf).eq_of_setBy set plain
    obtain ⟨held, known, rfl | ⟨word, rfl, -⟩⟩ := laws.reading.given made.tidy read leaf found
    · exact known
    · exact absurd ⟨_, rfl⟩ plain
  unset keys leaf unset noList := by
    have absent := (stands_leaf laws made leaf).eq_none_of_unset unset
    refine laws.reading.missing made.tidy read leaf absent fun front rest items split some list => ?_
    by_cases whole : front = []
    · obtain ⟨fields, table⟩ := made.table
      rw [whole, at?, table] at list
      cases list
    · subst split
      have stands := stands_front laws made leaf whole
      rw [list] at stands
      exact noList front rest items rfl some (stands.setBy (by simp [IsTable]))

end Values

end Document

end Layers

end Loading

/-! ### Two folders

A loader that searches a folder with only the file of a profile, and then one with only the main
file. -/

/-- A host with the file of the profile in one folder and the main file in another. -/
def twoFolders (profile main : Literal) (environment : Variables) : LoaderHost where
  tree := (FileTree.empty.withFile "near/weft.staging.toml" (.document profile)).withFile
    "far/weft.toml" (.document main)
  userFolder := "home"
  environment := environment

/-- A loader for both folders with one setting that the program gives. -/
def staging : Loader where
  profile := some (.custom "staging")
  folders := [.named "near", .named "far"]
  given := [{ weaving := { adviseAspects := true } }]

theorem wellFormed_staging {profile main : Literal} (environment : Variables)
    (near : IsTable profile ∧ Tidy False profile) (far : IsTable main ∧ Tidy False main) :
    WellFormed staging (twoFolders profile main environment) where
  documents spot doc held := by
    have files : (twoFolders profile main environment).tree.files =
        (Table.empty.insert ["near", "weft.staging.toml"] (.document profile)).insert
          ["far", "weft.toml"] (.document main) := rfl
    rw [files, Table.get?_insert, Table.get?_insert, Table.get?_empty] at held
    split at held
    · cases held
      exact far
    · split at held
      · cases held
        exact near
      · cases held
  filters := by simp [staging, DistinctFilters]

theorem staging_paths (profile main : Literal) (environment : Variables) :
    staging.paths (twoFolders profile main environment) =
      .ok ["near/weft.staging.toml", "far/weft.toml"] := by
  have near : (twoFolders profile main environment).tree.hasPath "near/weft.staging.toml" = true := by
    rfl
  have nearMain : (twoFolders profile main environment).tree.hasPath "near/weft.toml" = false := by
    rfl
  have far : (twoFolders profile main environment).tree.hasPath "far/weft.staging.toml" = false := by
    rfl
  have farMain : (twoFolders profile main environment).tree.hasPath "far/weft.toml" = true := by rfl
  simp [Loader.paths, staging, Loader.searched, Loader.search, Loader.profileFor, SearchFolder.path,
    Profile.name, FileTree.join, near, nearMain, far, farMain]

theorem staging_files (profile main : Literal) (environment : Variables) :
    collect (DocumentKit.standIn.file (twoFolders profile main environment).tree)
      ["near/weft.staging.toml", "far/weft.toml"] = .ok [profile, main] := by
  rfl

/-- The file of the profile goes over the program, and the main file over that. -/
theorem staging_document (profile main : Literal) (environment : Variables) :
    staging.document .standIn (twoFolders profile main environment) =
      .ok ((((staging.programmed .standIn).lay profile).lay main).lay
        (Variables.layer Variables.marker Variables.separator environment)) := by
  simp only [Loader.document, staging_paths, staging_files]
  rfl

def strictly (strict : Bool) : Literal :=
  .table [("weaving", .table [("strict", .bool strict)])]

theorem tidy_strictly (strict : Bool) : IsTable (strictly strict) ∧ Tidy False (strictly strict) :=
  ⟨⟨_, rfl⟩, tidy_nest (.plain (by simp [IsTable]) (by simp)) ["weaving", "strict"]⟩

/-- A file of a profile with a setting that the main file has too. -/
def stagingFile : Literal :=
  .table [("logging", .table [("level", .text "debug")]),
    ("weaving", .table [("strict", .bool true)])]

theorem tidy_stagingFile : IsTable stagingFile ∧ Tidy False stagingFile := by
  have level : Tidy False (.table [("level", .text "debug")]) :=
    tidy_nest (v := .text "debug") (.plain (by simp [IsTable]) (by simp)) ["level"]
  have strict : Tidy False (.table [("strict", .bool true)]) :=
    tidy_nest (v := .bool true) (.plain (by simp [IsTable]) (by simp)) ["strict"]
  exact ⟨⟨_, rfl⟩, .table (by decide) (by simp [level, strict])⟩

def threadIds : Variables :=
  [("WEFT_LOGGING__THREAD_IDS", "true")]

theorem threadIds_layer : Variables.layer Variables.marker Variables.separator threadIds =
    .table [("logging", .table [("thread_ids", .bool true)])] := by
  have keys : Variables.keys? Variables.marker Variables.separator "WEFT_LOGGING__THREAD_IDS" =
      some ["logging", "thread_ids"] := by
    decide +kernel
  have literal : Inline.literal "true" = .bool true := by cbv
  simp [Variables.layer, Variables.nested?, threadIds, keys, literal, nest]
  rfl

def stagingSettings : Settings where
  logging := { level := .debug, threadIds := true }
  weaving := { adviseAspects := true }

/-- The last layer that sets a key, whatever the layers above it make of the sections on the way. -/
def LastSets (layers : List Literal) (keys : List String) (v : Literal) : Prop :=
  ∃ below layer above, layers = below ++ layer :: above ∧ layer.at? keys = some v ∧
    ∀ later ∈ above, later.at? keys = none

def lenient : Literal :=
  .table [("weaving", .text "lenient")]

/-- The stand-in library is one that the loader can rely on. -/
theorem standIn_documented : Documented .standIn where
  merging := DocumentMerging.standIn_merges
  writing := SettingsReading.standIn_writes
  reading := SettingsReading.standIn_reads
  files := DocumentMerging.standIn_files
  environment := InlineValues.standIn_variables

/-! ### Loading -/

end Crosscut.LayerPrecedence
