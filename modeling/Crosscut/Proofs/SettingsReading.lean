import Crosscut.Proofs.DocumentLaws
import Crosscut.Settings.StandIn

/-! Settings as the stand-in library reads them from a document, key by key, and as it writes them. -/
namespace Crosscut.SettingsReading
open Literal DocumentLaws

/-- A setting agrees with what is given for it: the given value stands for it, and without a value it is
the default. -/
def Agrees (given held default : Option Literal) : Prop :=
  match given with
  | none => held = default
  | some v => ∃ w, held = some w ∧ StandsFor v w

variable {nulls : Prop}

/-! ### Single values -/

/-- A reader whose values stand for what they are read from. -/
def Faithful {β : Type} (decode : Decoder β) (encode : β → Literal) : Prop :=
  ∀ {keys v b}, decode keys v = .ok b → StandsFor v (encode b)

theorem faithful_bool : Faithful Decoder.bool Literal.bool := by
  intro keys v b read
  cases v <;> cases read
  exact .inl rfl

theorem faithful_text : Faithful Decoder.text Literal.text := by
  intro keys v b read
  cases v <;> cases read
  exact .inl rfl

theorem faithful_text? :
    Faithful Decoder.text? fun path => (path.map Literal.text).getD .null := by
  intro keys v b read
  cases v <;> cases read <;> exact .inl rfl

theorem encode_of_ofWord? {α : Type} [Choice α] {written : String} {a : α}
    (known : Choice.ofWord? written = some a) : Choice.encode a = .text written := by
  have same := List.find?_some known
  rw [Choice.encode, eq_of_beq same]

theorem faithful_choice {α : Type} [Choice α] : Faithful (Decoder.choice (α := α)) Choice.encode := by
  intro keys v a read
  unfold Decoder.choice at read
  split at read
  · rename_i written
    split at read
    · rename_i known
      cases read
      exact .inl (encode_of_ofWord? known)
    · cases read
  · rename_i fields
    split at read
    · rename_i written value more sorted
      split at read
      · rename_i known
        cases read
        have single : fields = [(written, .null)] := by
          refine List.perm_singleton.mp ?_
          rw [← sorted]
          exact (List.mergeSort_perm _ _).symm
        exact .inr ⟨written, by rw [single], encode_of_ofWord? known⟩
      · cases read
    · cases read
  · cases read

/-! ### Sections -/

theorem Listless.behind {v value : Literal} {name : String} {rest : List String}
    (listless : Listless v (name :: rest)) (found : v.at? [name] = some value) :
    Listless value rest := by
  intro front more items split some list
  refine listless (name :: front) more items (congrArg (name :: ·) split) some ?_
  rw [at?_cons, found]
  exact list

/-- The fields that a section gives have different names, and they are what the section gives for
those. -/
theorem fields_eq_ok {rules : DecodeRules} {names : List String} {keys : List String} {v : Literal}
    {given : List (String × String × Literal)} (tidy : Tidy nulls v)
    (noList : ∀ items, v ≠ .list items) (read : Decoder.fields rules names keys v = .ok given) :
    (given.map Prod.fst).Nodup ∧
      ∀ name value, (∃ key, (name, key, value) ∈ given) ↔ v.at? [name] = some value := by
  unfold Decoder.fields at read
  split at read
  · rename_i fields
    cases read
    have perm := List.mergeSort_perm fields fun a b => decide (a.1 ≤ b.1)
    have distinct := nodup_of_tidy tidy
    refine ⟨?_, fun name value => ?_⟩
    · rw [List.map_map]
      exact (perm.map Prod.fst).nodup_iff.mpr distinct
    · rw [at?_single, fieldIn?_eq_some distinct, ← perm.mem_iff]
      simp
  · rename_i items
    exact absurd rfl (noList items)
  · cases read

/-- Fields that are set one after the other: each stays as it was set, and the others stay as they
were. -/
theorem setAll_eq_ok {α : Type} {set : α → String → Decoder α} {view : α → String → Option Literal}
    (frame : ∀ {a name keys v b}, set a name keys v = .ok b → ∀ probe, probe ≠ name →
      view b probe = view a probe)
    {keys : List String} {given : List (String × String × Literal)} {current a : α}
    (distinct : (given.map Prod.fst).Nodup) (done : Decoder.setAll set keys current given = .ok a) :
    (∀ name key v, (name, key, v) ∈ given → ∃ before keys after, set before name keys v = .ok after ∧
      view a name = view after name) ∧
      ∀ name, name ∉ given.map Prod.fst → view a name = view current name := by
  induction given generalizing current with
  | nil =>
    cases done
    simp
  | cons field rest ih =>
    obtain ⟨first, key, value⟩ := field
    obtain ⟨fresh, later⟩ := List.nodup_cons.mp distinct
    rw [Decoder.setAll] at done
    split at done
    · cases done
    · rename_i next here
      obtain ⟨given, others⟩ := ih later done
      refine ⟨fun name key v member => ?_, fun name absent => ?_⟩
      · rcases List.mem_cons.mp member with same | behind
        · cases same
          exact ⟨current, _, next, here, others first fresh⟩
        · exact given name key v behind
      · rw [List.map_cons, List.mem_cons, not_or] at absent
        rw [others name absent.2, frame here name absent.1]

section Record

variable {α : Type} {set : α → String → Decoder α} {rules : DecodeRules} {names keys : List String}
  {defaults a : α} {v : Literal}

/-- What settings hold in a field of a section: what was set from the given value, or the default. -/
theorem record_eq_ok (view : α → String → Option Literal)
    (frame : ∀ {a name keys v b}, set a name keys v = .ok b → ∀ probe, probe ≠ name →
      view b probe = view a probe)
    (tidy : Tidy nulls v) (noList : ∀ items, v ≠ .list items)
    (read : Decoder.record rules names defaults set keys v = .ok a) (name : String) :
    match v.at? [name] with
    | some value => ∃ before keys after, set before name keys value = .ok after ∧
        view a name = view after name
    | none => view a name = view defaults name := by
  unfold Decoder.record at read
  split at read
  · cases read
  · rename_i given known
    obtain ⟨distinct, held⟩ := fields_eq_ok tidy noList known
    obtain ⟨members, others⟩ := setAll_eq_ok frame distinct read
    cases found : v.at? [name] with
    | some value =>
      obtain ⟨key, member⟩ := (held name value).mpr found
      exact members name key value member
    | none =>
      refine others name fun member => ?_
      obtain ⟨⟨_, key, value⟩, there, rfl⟩ := List.mem_map.mp member
      rw [(held _ value).mp ⟨key, there⟩] at found
      cases found

/-- Settings agree with a section below one of its fields if what was set from the field does. -/
theorem reads_record {encode : α → Literal}
    (frame : ∀ {a name keys v b}, set a name keys v = .ok b → ∀ probe, probe ≠ name →
      (encode b).at? [probe] = (encode a).at? [probe])
    (tidy : Tidy nulls v) {name : String} {rest : List String} (listless : Listless v (name :: rest))
    (read : Decoder.record rules names defaults set keys v = .ok a)
    (each : ∀ {before keys value after}, Tidy nulls value → Listless value rest →
      set before name keys value = .ok after →
        Agrees (value.at? rest) ((encode after).at? (name :: rest))
          ((encode defaults).at? (name :: rest))) :
    Agrees (v.at? (name :: rest)) ((encode a).at? (name :: rest))
      ((encode defaults).at? (name :: rest)) := by
  have noList : ∀ items, v ≠ .list items := by
    rintro items rfl
    exact listless [] (name :: rest) items rfl (by simp) (by rw [at?])
  have held := record_eq_ok (fun a name => (encode a).at? [name]) frame tidy noList read name
  rw [at?_cons v]
  cases found : v.at? [name] with
  | none =>
    rw [found] at held
    exact (at?_cons _ _ _).trans ((congrArg (·.bind (·.at? rest)) held).trans (at?_cons _ _ _).symm)
  | some value =>
    rw [found] at held
    obtain ⟨before, keys, after, done, same⟩ := held
    have below := each (tidy_at? tidy found) (Listless.behind listless found) done
    rw [at?_cons, ← same, ← at?_cons] at below
    exact below

end Record

/-- One setting of a section agrees with the value that it was set from. -/
theorem agrees_single {v held : Literal} {view default : Option Literal} (same : view = some held)
    (stands : StandsFor v held) : Agrees (v.at? []) view default := by
  rw [at?]
  exact ⟨held, same, stands⟩

/-- A setting that is changed leaves the others as they are. -/
theorem frame_spanEvents {a b : SpanEvents} {name : String} {keys : List String} {v : Literal}
    (set : a.setField name keys v = .ok b) (probe : String) (other : probe ≠ name) :
    b.encode.at? [probe] = a.encode.at? [probe] := by
  unfold SpanEvents.setField at set
  split at set
  case h_5 => cases set; rfl
  all_goals
    obtain ⟨x, -, rfl⟩ := map_eq_ok.mp set
    simp [SpanEvents.encode, at?_single, fieldIn?_cons, Ne.symm other]

theorem set_spanEvents {a b : SpanEvents} {name : String} {keys : List String} {v : Literal}
    {default : Option Literal} (listed : name ∈ ["new", "enter", "exit", "close"])
    (set : a.setField name keys v = .ok b) : Agrees (v.at? []) (b.encode.at? [name]) default := by
  unfold SpanEvents.setField at set
  split at set
  case h_5 => simp_all
  all_goals
    obtain ⟨x, read, rfl⟩ := map_eq_ok.mp set
    exact agrees_single rfl (faithful_bool read)

theorem reads_spanEvents {rules : DecodeRules} {keys : List String} {v : Literal} {s : SpanEvents}
    (tidy : Tidy nulls v) {key : String} (listless : Listless v [key])
    (read : SpanEvents.decode rules keys v = .ok s) (listed : key ∈ ["new", "enter", "exit", "close"]) :
    Agrees (v.at? [key]) (s.encode.at? [key]) (({} : SpanEvents).encode.at? [key]) :=
  reads_record frame_spanEvents tidy listless read fun _ _ set => set_spanEvents listed set

theorem frame_vocabulary {a b : Vocabulary} {name : String} {keys : List String} {v : Literal}
    (set : a.setField name keys v = .ok b) (probe : String) (other : probe ≠ name) :
    b.encode.at? [probe] = a.encode.at? [probe] := by
  unfold Vocabulary.setField at set
  split at set
  case h_11 => cases set; rfl
  all_goals
    obtain ⟨x, -, rfl⟩ := map_eq_ok.mp set
    simp [Vocabulary.encode, Vocabulary.named, at?_single, fieldIn?_cons, Ne.symm other]

theorem set_vocabulary {a b : Vocabulary} {name : String} {keys : List String} {v : Literal}
    {default : Option Literal} (listed : WeavingLeaf ["annotations", name])
    (set : a.setField name keys v = .ok b) : Agrees (v.at? []) (b.encode.at? [name]) default := by
  unfold Vocabulary.setField at set
  split at set
  case h_11 =>
    cases listed with
    | named listed => simp_all
  all_goals
    obtain ⟨x, read, rfl⟩ := map_eq_ok.mp set
    exact agrees_single rfl (faithful_text read)

theorem reads_vocabulary {rules : DecodeRules} {keys : List String} {v : Literal} {s : Vocabulary}
    (tidy : Tidy nulls v) {key : String} (listless : Listless v [key])
    (read : Vocabulary.decode rules keys v = .ok s) (listed : WeavingLeaf ["annotations", key]) :
    Agrees (v.at? [key]) (s.encode.at? [key]) (({} : Vocabulary).encode.at? [key]) :=
  reads_record frame_vocabulary tidy listless read fun _ _ set => set_vocabulary listed set

theorem frame_weaving {rules : DecodeRules} {a b : AspectPolicy} {name : String} {keys : List String}
    {v : Literal} (set : a.setField rules name keys v = .ok b) (probe : String)
    (other : probe ≠ name) : b.encode.at? [probe] = a.encode.at? [probe] := by
  unfold AspectPolicy.setField at set
  split at set
  case h_4 => cases set; rfl
  all_goals
    obtain ⟨x, -, rfl⟩ := map_eq_ok.mp set
    simp [AspectPolicy.encode, at?_single, fieldIn?_cons, Ne.symm other]

theorem set_weaving {rules : DecodeRules} {a b : AspectPolicy} {name : String} {keys : List String}
    {v : Literal} {default : Option Literal} (listed : name ∈ ["strict", "advise_aspects"])
    (set : a.setField rules name keys v = .ok b) :
    Agrees (v.at? []) (b.encode.at? [name]) default := by
  unfold AspectPolicy.setField at set
  split at set
  case h_3 | h_4 => simp_all
  all_goals
    obtain ⟨x, read, rfl⟩ := map_eq_ok.mp set
    exact agrees_single rfl (faithful_bool read)

theorem frame_logging {rules : DecodeRules} {a b : LogSettings} {name : String} {keys : List String}
    {v : Literal} (set : a.setField rules name keys v = .ok b) (probe : String)
    (other : probe ≠ name) : b.encode.at? [probe] = a.encode.at? [probe] := by
  unfold LogSettings.setField at set
  split at set
  case h_10 => cases set; rfl
  all_goals
    obtain ⟨x, -, rfl⟩ := map_eq_ok.mp set
    simp [LogSettings.encode, at?_single, fieldIn?_cons, Ne.symm other]

theorem set_logging {rules : DecodeRules} {a b : LogSettings} {name : String} {keys : List String}
    {v : Literal} {default : Option Literal} (listed : name ∈ ["level", "format", "output",
      "thread_ids", "file_location", "file_path", "rotation"])
    (set : a.setField rules name keys v = .ok b) :
    Agrees (v.at? []) (b.encode.at? [name]) default := by
  unfold LogSettings.setField at set
  split at set
  case h_4 | h_9 | h_10 => simp_all
  all_goals obtain ⟨x, read, rfl⟩ := map_eq_ok.mp set
  case h_1 | h_2 | h_3 | h_8 => exact agrees_single rfl (faithful_choice read)
  case h_5 | h_6 => exact agrees_single rfl (faithful_bool read)
  case h_7 => exact agrees_single rfl (faithful_text? read)

theorem frame_settings {rules : DecodeRules} {a b : Settings} {name : String} {keys : List String}
    {v : Literal} (set : a.setField rules name keys v = .ok b) (probe : String)
    (other : probe ≠ name) : b.encode.at? [probe] = a.encode.at? [probe] := by
  unfold Settings.setField at set
  split at set
  case h_3 => cases set; rfl
  all_goals
    obtain ⟨x, -, rfl⟩ := map_eq_ok.mp set
    simp [Settings.encode, at?_single, fieldIn?_cons, Ne.symm other]

/-! ### Log filters -/

/-- The filters as a document. -/
def encodeFilters (filters : List (String × LogLevel)) : List (String × Literal) :=
  filters.map fun (name, level) => (name, Choice.encode level)

theorem names_encodeFilters (filters : List (String × LogLevel)) :
    (encodeFilters filters).map Prod.fst = filters.map Prod.fst := by
  simp [encodeFilters]

theorem names_of_choices {keys : List String} {fields : List (String × Literal)}
    {filters : List (String × LogLevel)}
    (read : collect (fun (name, value) => (Decoder.choice (keys ++ [name]) value).map (name, ·))
      fields = .ok filters) : filters.map Prod.fst = fields.map Prod.fst := by
  induction fields generalizing filters with
  | nil =>
    cases read
    rfl
  | cons field rest ih =>
    rw [collect] at read
    split at read
    · cases read
    · rename_i filter first
      obtain ⟨level, -, rfl⟩ := map_eq_ok.mp first
      obtain ⟨others, later, rfl⟩ := map_eq_ok.mp read
      rw [List.map_cons, List.map_cons, ih later]

/-- Every log filter has the level that is given for its module. -/
theorem reads_filters {keys : List String} {v : Literal} {filters : List (String × LogLevel)}
    (tidy : Tidy nulls v) (read : Decoder.choices keys v = .ok filters) (module : String) :
    Agrees (v.at? [module]) ((Literal.table (encodeFilters filters)).at? [module]) none := by
  unfold Decoder.choices at read
  split at read
  · rename_i fields
    have distinct := nodup_of_tidy tidy
    have perm := List.mergeSort_perm fields fun a b => decide (a.1 ≤ b.1)
    have names := names_of_choices read
    have unique : ((encodeFilters filters).map Prod.fst).Nodup := by
      rw [names_encodeFilters, names, (perm.map Prod.fst).nodup_iff]
      exact distinct
    rw [at?_single, at?_single]
    cases found : fieldIn? module fields with
    | none =>
      refine fieldIn?_eq_none.mpr ?_
      rw [names_encodeFilters, names, (perm.map Prod.fst).mem_iff]
      exact fieldIn?_eq_none.mp found
    | some value =>
      have member := perm.mem_iff.mpr ((fieldIn?_eq_some distinct).mp found)
      obtain ⟨place, there⟩ := List.mem_iff_getElem?.mp member
      obtain ⟨filter, held, made⟩ := getElem?_collect read there
      obtain ⟨level, chosen, rfl⟩ := map_eq_ok.mp made
      rw [(fieldIn?_eq_some unique).mpr
        (List.mem_map.mpr ⟨_, List.mem_of_getElem? held, rfl⟩)]
      exact ⟨_, rfl, faithful_choice chosen⟩
  · cases read

/-! ### The whole document -/

theorem reads_logging {rules : DecodeRules} {keys : List String} {v : Literal} {s : LogSettings}
    (tidy : Tidy nulls v) {rest : List String} (listless : Listless v rest)
    (read : LogSettings.decode rules keys v = .ok s) (leaf : LoggingLeaf rest) :
    Agrees (v.at? rest) (s.encode.at? rest) (({} : LogSettings).encode.at? rest) := by
  cases leaf with
  | single listed =>
    exact reads_record frame_logging tidy listless read fun _ _ set => set_logging listed set
  | spanEvent listed =>
    refine reads_record frame_logging tidy listless read fun tidy listless set => ?_
    obtain ⟨events, inner, rfl⟩ := map_eq_ok.mp set
    exact reads_spanEvents tidy listless inner listed
  | filter module =>
    refine reads_record frame_logging tidy listless read fun tidy _ set => ?_
    obtain ⟨filters, inner, rfl⟩ := map_eq_ok.mp set
    exact reads_filters tidy inner module

theorem reads_weaving {rules : DecodeRules} {keys : List String} {v : Literal} {p : AspectPolicy}
    (tidy : Tidy nulls v) {rest : List String} (listless : Listless v rest)
    (read : AspectPolicy.decode rules keys v = .ok p) (leaf : WeavingLeaf rest) :
    Agrees (v.at? rest) (p.encode.at? rest) (({} : AspectPolicy).encode.at? rest) := by
  cases leaf with
  | single listed =>
    exact reads_record frame_weaving tidy listless read fun _ _ set => set_weaving listed set
  | named listed =>
    refine reads_record frame_weaving tidy listless read fun tidy listless set => ?_
    obtain ⟨names, inner, rfl⟩ := map_eq_ok.mp set
    exact reads_vocabulary tidy listless inner (.named listed)

theorem reads_settings {rules : DecodeRules} {doc : Literal} {s : Settings} (tidy : Tidy nulls doc)
    {keys : List String} (listless : Listless doc keys)
    (read : Settings.decode rules [] doc = .ok s) (leaf : Leaf keys) :
    Agrees (doc.at? keys) (s.encode.at? keys) (({} : Settings).encode.at? keys) := by
  cases leaf with
  | logging leaf =>
    refine reads_record frame_settings tidy listless read fun tidy listless set => ?_
    obtain ⟨logging, inner, rfl⟩ := map_eq_ok.mp set
    exact reads_logging tidy listless inner leaf
  | weaving leaf =>
    refine reads_record frame_settings tidy listless read fun tidy listless set => ?_
    obtain ⟨weaving, inner, rfl⟩ := map_eq_ok.mp set
    exact reads_weaving tidy listless inner leaf

/-! ### Settings as a document -/

/-- Settings with log filters for different modules make a tidy document. -/
theorem tidy_encode {s : Settings} (distinct : DistinctFilters s) : Tidy True s.encode := by
  have bool : ∀ b, Tidy True (.bool b) := fun b => .plain (by simp [IsTable]) (by simp)
  have text : ∀ t, Tidy True (.text t) := fun t => .plain (by simp [IsTable]) (by simp)
  have filters : Tidy True (.table (encodeFilters s.logging.filters)) := by
    refine .table (by rwa [names_encodeFilters]) fun field member => ?_
    obtain ⟨filter, -, rfl⟩ := List.mem_map.mp member
    exact text _
  have events : Tidy True s.logging.spanEvents.encode := .table (by simp) (by simp [bool])
  have path : Tidy True ((s.logging.filePath.map Literal.text).getD .null) := by
    cases s.logging.filePath with
    | none => exact .plain (by simp [IsTable]) fun _ => trivial
    | some path => exact text path
  have names : Tidy True s.weaving.vocabulary.encode := by
    refine .table (by simp [Vocabulary.named]) fun field member => ?_
    obtain ⟨name, -, rfl⟩ := List.mem_map.mp member
    exact text _
  have logging : Tidy True s.logging.encode :=
    .table (by simp) (by simpa [Choice.encode, text, bool] using ⟨events, path, filters⟩)
  have weaving : Tidy True s.weaving.encode := .table (by simp) (by simpa [bool] using names)
  exact .table (by simp) (by simpa using ⟨logging, weaving⟩)

/-- A field is found among fields that were made of others where it is found among those. -/
theorem fieldIn?_map {α : Type} (make : α → Literal) (key : String) (fields : List (String × α)) :
    fieldIn? key (fields.map fun (name, a) => (name, make a)) = (fields.lookup key).map make := by
  induction fields with
  | nil => rfl
  | cons field rest ih =>
    obtain ⟨name, a⟩ := field
    rw [List.map_cons, fieldIn?_cons, List.lookup_cons, ih]
    by_cases same : name = key
    · simp [same]
    · have other : (key == name) = false := by simpa using Ne.symm same
      rw [if_neg same, other]

theorem at?_encode (s : Settings) {keys : List String} (leaf : Leaf keys) :
    s.encode.at? keys = value? s keys ∧ breaks s.encode keys = false := by
  cases leaf with
  | logging leaf =>
    cases leaf with
    | single listed =>
      simp only [List.mem_cons, List.not_mem_nil, or_false] at listed
      rcases listed with rfl | rfl | rfl | rfl | rfl | rfl | rfl <;> exact ⟨rfl, rfl⟩
    | spanEvent listed =>
      simp only [List.mem_cons, List.not_mem_nil, or_false] at listed
      rcases listed with rfl | rfl | rfl | rfl <;> exact ⟨rfl, rfl⟩
    | filter module =>
      have inside : s.encode.at? ["logging", "filters", module] =
          (Literal.table (encodeFilters s.logging.filters)).at? [module] := rfl
      have way : breaks s.encode ["logging", "filters", module] =
          breaks (.table (encodeFilters s.logging.filters)) [module] := rfl
      rw [inside, way, at?_single]
      exact ⟨fieldIn?_map Choice.encode module _, breaks_single _ _⟩
  | weaving leaf =>
    cases leaf with
    | single listed =>
      simp only [List.mem_cons, List.not_mem_nil, or_false] at listed
      rcases listed with rfl | rfl <;> exact ⟨rfl, rfl⟩
    | @named key listed =>
      have inside : s.encode.at? ["weaving", "annotations", key] =
          s.weaving.vocabulary.encode.at? [key] := rfl
      have way : breaks s.encode ["weaving", "annotations", key] =
          breaks s.weaving.vocabulary.encode [key] := rfl
      rw [inside, way, Vocabulary.encode, at?_single]
      exact ⟨fieldIn?_map Literal.text key _, breaks_single _ _⟩

/-- The stand-in library writes settings as the loader relies on it. -/
theorem standIn_writes : WritesSettings .standIn where
  tidy := tidy_encode
  whole s _ leaf := (at?_encode s leaf).2
  value _ leaf := (at?_encode _ leaf).1

/-- No list stands on the way to a key that has a value. -/
theorem listless_of_at? {doc v : Literal} {keys : List String} (found : doc.at? keys = some v) :
    Listless doc keys := by
  rintro front rest items rfl some list
  obtain ⟨key, more, rfl⟩ := List.exists_cons_of_ne_nil some
  rw [at?_append, list, Option.bind_some, (of_no_table (by simp [IsTable]) key more).1] at found
  cases found

/-- The stand-in library reads settings as the loader relies on it. -/
theorem standIn_reads : ReadsSettings .standIn where
  given tidy read leaf found := by
    have agrees := reads_settings tidy (listless_of_at? found) read leaf
    rw [found, (at?_encode _ leaf).1] at agrees
    exact agrees
  missing tidy read leaf absent listless := by
    have agrees := reads_settings tidy listless read leaf
    rw [absent] at agrees
    exact (at?_encode _ leaf).1.symm.trans (agrees.trans (at?_encode _ leaf).1)

/-! ### Settings read back -/

section ReadBack

open List.MergeSort.Internal

variable (rules : DecodeRules) (keys : List String)

theorem choice_encode {α : Type} [Choice α] {a : α}
    (known : Choice.ofWord? (Choice.word a) = some a) :
    Decoder.choice keys (Choice.encode a) = .ok a := by
  simp [Decoder.choice, Choice.encode, known]

theorem text?_encode (path : Option String) :
    Decoder.text? keys ((path.map Literal.text).getD .null) = .ok path := by
  cases path <;> rfl

theorem choices_encode {filters : List (String × LogLevel)} (sorted : filters.Pairwise (·.1 ≤ ·.1)) :
    Decoder.choices keys (.table (encodeFilters filters)) = .ok filters := by
  have same : (encodeFilters filters).mergeSort (fun a b => decide (a.1 ≤ b.1)) =
      encodeFilters filters :=
    List.mergeSort_of_pairwise (by simpa [encodeFilters, List.pairwise_map] using sorted)
  rw [Decoder.choices, same]
  clear same sorted
  induction filters with
  | nil => rfl
  | cons filter rest ih =>
    obtain ⟨module, level⟩ := filter
    rw [encodeFilters, List.map_cons, collect]
    dsimp only
    rw [choice_encode _ (LogLevel.ofWord?_word level)]
    exact congrArg (Except.map ((module, level) :: ·)) ih

theorem spanEvents_encode (s : SpanEvents) : SpanEvents.decode rules keys s.encode = .ok s := by
  simp [SpanEvents.decode, SpanEvents.encode, Decoder.record, Decoder.fields, List.mergeSort,
    splitInTwo, Decoder.setAll, SpanEvents.setField, Decoder.bool, Except.map]

theorem vocabulary_encode (v : Vocabulary) : Vocabulary.decode rules keys v.encode = .ok v := by
  simp [Vocabulary.decode, Vocabulary.encode, Vocabulary.named, Decoder.record, Decoder.fields,
    List.mergeSort, splitInTwo, Decoder.setAll, Vocabulary.setField, Decoder.text, Except.map]

theorem policy_encode (p : AspectPolicy) : AspectPolicy.decode rules keys p.encode = .ok p := by
  simp [AspectPolicy.decode, AspectPolicy.encode, Decoder.record, Decoder.fields, List.mergeSort,
    splitInTwo, Decoder.setAll, AspectPolicy.setField, Decoder.bool, vocabulary_encode, Except.map]

theorem logging_encode {s : LogSettings} (sorted : s.filters.Pairwise (·.1 ≤ ·.1)) :
    LogSettings.decode rules keys s.encode = .ok s := by
  have filters := choices_encode (keys ++ ["filters"]) sorted
  simp only [encodeFilters] at filters
  simp [LogSettings.decode, LogSettings.encode, Decoder.record, Decoder.fields, List.mergeSort,
    splitInTwo, Decoder.setAll, LogSettings.setField, Decoder.bool, spanEvents_encode, text?_encode,
    filters, choice_encode _ (LogLevel.ofWord?_word _), choice_encode _ (LogFormat.ofWord?_word _),
    choice_encode _ (LogOutput.ofWord?_word _), choice_encode _ (LogRotation.ofWord?_word _),
    Except.map]

/-- Settings are read back as they were written if their log filters stand in the order of the modules. -/
theorem settings_encode {s : Settings} (sorted : s.logging.filters.Pairwise (·.1 ≤ ·.1)) :
    Settings.decode rules keys s.encode = .ok s := by
  simp [Settings.decode, Settings.encode, Decoder.record, Decoder.fields, List.mergeSort,
    splitInTwo, Decoder.setAll, Settings.setField, logging_encode rules _ sorted, policy_encode,
    Except.map]

end ReadBack

end Crosscut.SettingsReading
