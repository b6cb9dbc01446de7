import Crosscut.Settings.DocumentKit
import Mathlib.Data.List.Nodup

/-! What the loader relies on in the library for documents. Two tables are merged key by key, and any
other value takes the place of the one below. Settings are written with a value for every setting, and
reading gives every setting its value in the document, or its default if there is none. Variables are
documents with one value each, merged in their order. -/
namespace Crosscut.DocumentLaws
open Literal

/-! ### Documents -/

def IsTable (v : Literal) : Prop :=
  ∃ fields, v = .table fields

/-- Tables without repeated keys, at every depth, with null only where it is allowed. -/
inductive Tidy (nulls : Prop) : Literal → Prop
  | plain {v : Literal} (other : ¬ IsTable v) (null : v = .null → nulls) : Tidy nulls v
  | table {fields : List (String × Literal)} (distinct : (fields.map Prod.fst).Nodup)
      (each : ∀ field ∈ fields, Tidy nulls field.2) : Tidy nulls (.table fields)

/-- Whether a value gives something other than a table on the way to a key. -/
def breaks : Literal → List String → Bool
  | _, [] => false
  | .table fields, key :: keys =>
    match fieldIn? key fields with
    | some value => breaks value keys
    | none => false
  | _, _ :: _ => true

/-! ### Settings -/

/-- The keys of single settings in the section on logging. Every module has a filter of its own. -/
inductive LoggingLeaf : List String → Prop
  | single {key : String} (listed : key ∈ ["level", "format", "output", "thread_ids", "file_location",
      "file_path", "rotation"]) : LoggingLeaf [key]
  | spanEvent {key : String} (listed : key ∈ ["new", "enter", "exit", "close"]) :
      LoggingLeaf ["span_events", key]
  | filter (module : String) : LoggingLeaf ["filters", module]

/-- The keys of single settings in the section on weaving. -/
inductive WeavingLeaf : List String → Prop
  | single {key : String} (listed : key ∈ ["strict", "advise_aspects"]) : WeavingLeaf [key]
  | named {key : String} (listed : key ∈ ["aspect", "pointcut", "before", "after",
      "after_returning", "after_throwing", "around", "order", "join_point", "proceeding_join_point"]) :
      WeavingLeaf ["annotations", key]

/-- The keys of single settings. -/
inductive Leaf : List String → Prop
  | logging {keys : List String} (leaf : LoggingLeaf keys) : Leaf ("logging" :: keys)
  | weaving {keys : List String} (leaf : WeavingLeaf keys) : Leaf ("weaving" :: keys)

theorem ne_nil_of_leaf {keys : List String} (leaf : Leaf keys) : keys ≠ [] := by
  rintro ⟨⟩
  cases leaf

/-- The value of a choice is its word. -/
def chosen {α : Type} [Choice α] (a : α) : Literal :=
  .text (Choice.word a)

def eventValue? (s : SpanEvents) : String → Option Literal
  | "new" => some (.bool s.new)
  | "enter" => some (.bool s.enter)
  | "exit" => some (.bool s.exit)
  | "close" => some (.bool s.close)
  | _ => none

def loggingValue? (s : LogSettings) : List String → Option Literal
  | ["level"] => some (chosen s.level)
  | ["format"] => some (chosen s.format)
  | ["output"] => some (chosen s.output)
  | ["span_events", key] => eventValue? s.spanEvents key
  | ["thread_ids"] => some (.bool s.threadIds)
  | ["file_location"] => some (.bool s.fileLocation)
  | ["file_path"] => some ((s.filePath.map Literal.text).getD .null)
  | ["rotation"] => some (chosen s.rotation)
  | ["filters", module] => (s.filters.lookup module).map chosen
  | _ => none

def weavingValue? (p : AspectPolicy) : List String → Option Literal
  | ["strict"] => some (.bool p.strict)
  | ["advise_aspects"] => some (.bool p.adviseAspects)
  | ["annotations", key] => (p.vocabulary.named.lookup key).map .text
  | _ => none

/-- The value that settings hold at the keys of a single setting. -/
def value? (s : Settings) : List String → Option Literal
  | "logging" :: keys => loggingValue? s.logging keys
  | "weaving" :: keys => weavingValue? s.weaving keys
  | _ => none

/-- No module has two log filters. -/
def DistinctFilters (s : Settings) : Prop :=
  (s.logging.filters.map Prod.fst).Nodup

/-- A value in a document stands for a setting: it is the setting's value, or a table with the
setting's word as its only key and without a value. -/
def StandsFor (given held : Literal) : Prop :=
  held = given ∨ ∃ word, given = .table [(word, .null)] ∧ held = .text word

/-- No list stands on the way to a key. -/
def Listless (doc : Literal) (keys : List String) : Prop :=
  ∀ front rest items, keys = front ++ rest → rest ≠ [] → doc.at? front ≠ some (.list items)

/-! ### Variables -/

def plainChars : List Char :=
  "abcdefghijklmnopqrstuvwxyz0123456789_".toList

/-- A key of lower-case letters, digits and underscores, without two underscores in a row and without
one at its end. -/
structure PlainKey (key : String) : Prop where
  chars : ∀ c ∈ key.toList, c ∈ plainChars
  nonempty : key ≠ ""
  apart : ¬ ['_', '_'] <:+: key.toList
  closed : key.toList.getLast? ≠ some '_'

/-- The name of the variable that leads to some keys. -/
def nameOf (keys : List String) : String :=
  Variables.marker ++ Variables.separator.intercalate (keys.map (·.map Char.toUpper))

variable (kit : DocumentKit)

/-- The document of one variable, if it counts. -/
def nested? (marker separator : String) (var : String × String) : Option Literal :=
  (kit.keysOf marker separator var.1).map (Literal.nest (kit.parse var.2))

/-! ### The laws -/

/-- A value merged over what there is. -/
def overlay (lower : Option Literal) (upper : Literal) : Literal :=
  match lower with
  | some value => kit.merge value upper
  | none => upper

/-- What merging two tables makes of what they have at a key. -/
def joined? (lower upper : Option Literal) : Option Literal :=
  match upper with
  | some value => some (overlay kit lower value)
  | none => lower

/-- Merging goes key by key where two tables meet; any other value takes the place of the lower one. -/
structure MergesByKey : Prop where
  empty : kit.empty = .table []
  tables : ∀ {base fields : List (String × Literal)}, Tidy True (.table base) →
    Tidy True (.table fields) → ∃ merged, kit.merge (.table base) (.table fields) = .table merged ∧
      ∀ key, fieldIn? key merged = joined? kit (fieldIn? key base) (fieldIn? key fields)
  others : ∀ {lower upper : Literal}, ¬ (IsTable lower ∧ IsTable upper) → kit.merge lower upper = upper
  tidy : ∀ {nulls : Prop} {lower upper : Literal}, Tidy nulls lower → Tidy nulls upper →
    Tidy nulls (kit.merge lower upper)

/-- Settings are written as tables in tables, with the value of every setting at its keys. -/
structure WritesSettings : Prop where
  tidy : ∀ {s : Settings}, DistinctFilters s → Tidy True (kit.write s)
  whole : ∀ (s : Settings) {keys : List String}, Leaf keys → breaks (kit.write s) keys = false
  value : ∀ {s : Settings} {keys : List String}, DistinctFilters s → Leaf keys →
    (kit.write s).at? keys = value? s keys

/-- Settings that are read hold what the document gives for them, and otherwise their defaults. -/
structure ReadsSettings : Prop where
  given : ∀ {doc v : Literal} {s : Settings} {keys : List String}, Tidy True doc →
    kit.read doc = .ok s → Leaf keys → doc.at? keys = some v →
      ∃ held, value? s keys = some held ∧ StandsFor v held
  missing : ∀ {doc : Literal} {s : Settings} {keys : List String}, Tidy True doc →
    kit.read doc = .ok s → Leaf keys → doc.at? keys = none → Listless doc keys →
      value? s keys = value? {} keys

/-- A file is read as the document that it holds, and no documents are found but those of files. -/
structure ReadsFiles : Prop where
  held : ∀ {tree : FileTree} {path : String} {doc : Literal},
    tree.read? path = some (.document doc) → kit.file tree path = .ok doc
  source : ∀ {tree : FileTree} {path : String} {doc : Literal}, kit.file tree path = .ok doc →
    doc = kit.empty ∨ ∃ spot, tree.files.get? spot = some (.document doc)

/-- The document of variables is made of one document for each that counts. Their values are without
null, and plain keys are found in the name that is made of them. -/
structure ReadsVariables : Prop where
  each : ∀ (marker separator : String) (vars : Variables), kit.environment marker separator vars =
    (vars.filterMap (nested? kit marker separator)).foldl kit.merge kit.empty
  some_keys : ∀ {marker separator name : String} {keys : List String},
    kit.keysOf marker separator name = some keys → keys ≠ []
  named : ∀ {keys : List String}, keys ≠ [] → (∀ key ∈ keys, PlainKey key) →
    kit.keysOf Variables.marker Variables.separator (nameOf keys) = some keys
  tidy : ∀ written : String, Tidy False (kit.parse written)

/-- All of what the loader relies on. -/
structure Documented : Prop where
  merging : MergesByKey kit
  writing : WritesSettings kit
  reading : ReadsSettings kit
  files : ReadsFiles kit
  environment : ReadsVariables kit

/-! ### Fields and keys -/

theorem fieldIn?_cons (probe name : String) (value : Literal) (rest : List (String × Literal)) :
    fieldIn? probe ((name, value) :: rest) =
      if name = probe then some value else fieldIn? probe rest := by
  by_cases same : name = probe <;> simp [fieldIn?, same]

theorem fieldIn?_eq_none {probe : String} {fields : List (String × Literal)} :
    fieldIn? probe fields = none ↔ probe ∉ fields.map Prod.fst := by
  simp [fieldIn?, List.find?_eq_none]
  grind

theorem mem_of_fieldIn? {probe : String} {value : Literal} {fields : List (String × Literal)}
    (found : fieldIn? probe fields = some value) : (probe, value) ∈ fields := by
  obtain ⟨⟨name, held⟩, there, rfl⟩ := Option.map_eq_some_iff.mp found
  have same : name = probe := by simpa using List.find?_some there
  exact same ▸ List.mem_of_find?_eq_some there

/-- In a table without repeated keys a field is found wherever it stands. -/
theorem fieldIn?_eq_some {probe : String} {value : Literal} {fields : List (String × Literal)}
    (distinct : (fields.map Prod.fst).Nodup) :
    fieldIn? probe fields = some value ↔ (probe, value) ∈ fields := by
  induction fields with
  | nil => simp [fieldIn?]
  | cons field rest ih =>
    obtain ⟨name, held⟩ := field
    obtain ⟨fresh, distinct⟩ := List.nodup_cons.mp distinct
    rw [fieldIn?_cons, List.mem_cons, Prod.mk.injEq]
    by_cases same : name = probe
    · subst same
      have absent : (name, value) ∉ rest := fun member => fresh (List.mem_map.mpr ⟨_, member, rfl⟩)
      simp [absent, eq_comm]
    · rw [if_neg same, ih distinct]
      simp [Ne.symm same]

theorem at?_table (fields : List (String × Literal)) (key : String) (keys : List String) :
    (Literal.table fields).at? (key :: keys) = (fieldIn? key fields).bind (·.at? keys) := by
  rw [at?]
  cases fieldIn? key fields <;> rfl

theorem at?_single (fields : List (String × Literal)) (key : String) :
    (Literal.table fields).at? [key] = fieldIn? key fields := by
  rw [at?_table]
  cases fieldIn? key fields <;> simp [at?]

theorem at?_cons (v : Literal) (key : String) (keys : List String) :
    v.at? (key :: keys) = (v.at? [key]).bind (·.at? keys) := by
  cases v with
  | table fields => rw [at?_table, at?_single]
  | _ => rfl

theorem at?_append (v : Literal) (front rest : List String) :
    v.at? (front ++ rest) = (v.at? front).bind (·.at? rest) := by
  induction front generalizing v with
  | nil => simp only [List.nil_append, at?, Option.bind_some]
  | cons key keys ih =>
    rw [List.cons_append, at?_cons, at?_cons v key keys]
    cases v.at? [key] with
    | none => rfl
    | some inner => exact ih inner

theorem breaks_table (fields : List (String × Literal)) (key : String) (keys : List String) :
    breaks (.table fields) (key :: keys) =
      ((fieldIn? key fields).map (breaks · keys)).getD false := by
  rw [breaks]
  cases fieldIn? key fields <;> rfl

/-- A table has nothing on the way to its own fields. -/
theorem breaks_single (fields : List (String × Literal)) (key : String) :
    breaks (.table fields) [key] = false := by
  rw [breaks_table]
  cases fieldIn? key fields with
  | none => rfl
  | some v => cases v <;> rfl

/-- A value that is no table has nothing on the way to a key. -/
theorem of_no_table {v : Literal} (plain : ¬ IsTable v) (key : String) (keys : List String) :
    v.at? (key :: keys) = none ∧ breaks v (key :: keys) = true := by
  cases v with
  | table fields => exact absurd ⟨fields, rfl⟩ plain
  | _ => exact ⟨rfl, rfl⟩

/-- What breaks the way to a key is found on the way. -/
theorem breaks_eq_true {v : Literal} {keys : List String} :
    breaks v keys = true ↔
      ∃ front rest w, keys = front ++ rest ∧ rest ≠ [] ∧ v.at? front = some w ∧ ¬ IsTable w := by
  constructor
  · intro broken
    induction keys generalizing v with
    | nil => cases v <;> cases broken
    | cons key keys ih =>
      by_cases table : IsTable v
      · obtain ⟨fields, rfl⟩ := table
        rw [breaks_table] at broken
        cases found : fieldIn? key fields with
        | none => simp [found] at broken
        | some value =>
          rw [found] at broken
          obtain ⟨front, rest, w, rfl, some, there, plain⟩ := ih broken
          exact ⟨key :: front, rest, w, rfl, some, by rw [at?_table, found]; exact there, plain⟩
      · exact ⟨[], key :: keys, v, rfl, by simp, by rw [at?], table⟩
  · rintro ⟨front, rest, w, rfl, some, there, plain⟩
    induction front generalizing v with
    | nil =>
      rw [at?] at there
      cases there
      obtain ⟨key, more, rfl⟩ := List.exists_cons_of_ne_nil some
      exact (of_no_table plain key more).2
    | cons key front ih =>
      rw [List.cons_append]
      by_cases table : IsTable v
      · obtain ⟨fields, rfl⟩ := table
        rw [at?_table] at there
        obtain ⟨value, found, inside⟩ := Option.bind_eq_some_iff.mp there
        rw [breaks_table, found]
        exact ih inside
      · rw [(of_no_table table key _).1] at there
        cases there

theorem at?_of_breaks {v : Literal} {keys : List String} (broken : breaks v keys = true) :
    v.at? keys = none := by
  obtain ⟨front, rest, w, rfl, some, there, plain⟩ := breaks_eq_true.mp broken
  obtain ⟨key, more, rfl⟩ := List.exists_cons_of_ne_nil some
  rw [at?_append, there, Option.bind_some, (of_no_table plain key more).1]

/-- The way to further keys is broken where the way to the first ones is. -/
theorem breaks_append {v : Literal} {front : List String} (rest : List String)
    (broken : breaks v front = true) : breaks v (front ++ rest) = true := by
  obtain ⟨before, after, w, rfl, some, there, plain⟩ := breaks_eq_true.mp broken
  exact breaks_eq_true.mpr ⟨before, after ++ rest, w, List.append_assoc _ _ _, by simp [some], there,
    plain⟩

/-! ### Tidiness -/

section Tidiness

variable {nulls : Prop}

theorem tidy_mono {more : Prop} (null : nulls → more) {v : Literal} (tidy : Tidy nulls v) :
    Tidy more v := by
  induction tidy with
  | plain other allowed => exact .plain other fun isNull => null (allowed isNull)
  | table distinct _ ih => exact .table distinct ih

theorem tidy_empty : Tidy nulls (.table []) :=
  .table List.nodup_nil (by simp)

theorem tidy_field {fields : List (String × Literal)} {name : String} {v : Literal}
    (tidy : Tidy nulls (.table fields)) (found : fieldIn? name fields = some v) : Tidy nulls v := by
  cases tidy with
  | plain other _ => exact absurd ⟨fields, rfl⟩ other
  | table _ each => exact each _ (mem_of_fieldIn? found)

theorem nodup_of_tidy {fields : List (String × Literal)} (tidy : Tidy nulls (.table fields)) :
    (fields.map Prod.fst).Nodup := by
  cases tidy with
  | plain other _ => exact absurd ⟨fields, rfl⟩ other
  | table distinct _ => exact distinct

theorem tidy_at? {v w : Literal} (tidy : Tidy nulls v) {keys : List String}
    (found : v.at? keys = some w) : Tidy nulls w := by
  induction keys generalizing v with
  | nil =>
    rw [at?] at found
    exact Option.some.inj found ▸ tidy
  | cons key keys ih =>
    by_cases table : IsTable v
    · obtain ⟨fields, rfl⟩ := table
      rw [at?_table] at found
      obtain ⟨value, here, there⟩ := Option.bind_eq_some_iff.mp found
      exact ih (tidy_field tidy here) there
    · rw [(of_no_table table key keys).1] at found
      cases found

/-- A tidy document without null holds none. -/
theorem at?_ne_null {v : Literal} (tidy : Tidy False v) (keys : List String) :
    v.at? keys ≠ some .null := by
  intro found
  cases tidy_at? tidy found with
  | plain _ null => exact null rfl

theorem tidy_nest {v : Literal} (tidy : Tidy nulls v) (keys : List String) :
    Tidy nulls (nest v keys) := by
  induction keys with
  | nil => exact tidy
  | cons key rest ih =>
    refine .table (List.nodup_singleton key) fun field member => ?_
    rw [List.mem_singleton.mp member]
    exact ih

end Tidiness

theorem isTable_nest {v : Literal} {keys : List String} (some : keys ≠ []) :
    IsTable (v.nest keys) := by
  obtain ⟨key, rest, rfl⟩ := List.exists_cons_of_ne_nil some
  exact ⟨_, rfl⟩

/-- A nested value has no part in keys that lead elsewhere. -/
theorem nest_elsewhere {keys other : List String} (v : Literal) (behind : ¬ other <+: keys)
    (ahead : ¬ keys <+: other) :
    (nest v other).at? keys = none ∧ breaks (nest v other) keys = false := by
  induction other generalizing keys with
  | nil => exact absurd List.nil_prefix behind
  | cons name other ih =>
    cases keys with
    | nil => exact absurd List.nil_prefix ahead
    | cons key keys =>
      have shape : nest v (name :: other) = .table [(name, nest v other)] := rfl
      rw [shape, at?_table, breaks_table, fieldIn?_cons]
      by_cases same : name = key
      · subst same
        rw [if_pos rfl]
        exact ih (fun front => behind (List.cons_prefix_cons.mpr ⟨rfl, front⟩))
          (fun front => ahead (List.cons_prefix_cons.mpr ⟨rfl, front⟩))
      · rw [if_neg same]
        exact ⟨rfl, rfl⟩

end Crosscut.DocumentLaws
