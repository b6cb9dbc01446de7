import Crosscut.Proofs.Substitution
import Crosscut.Proofs.TextLists
import Crosscut.Proofs.WildcardPieces

/-! Names of parameters and the types written in their place. A parameter stands for an object whose
type has the declared type in its hierarchy, found by its full name. A type pattern is compared with
every name in the hierarchy by wildcards. For a qualified name without wildcards the two tests are one,
so a clause that names a parameter selects the same methods as the clause with the type in its place;
only what they bind differs. Two kinds of names mislead: one that is spelled like a wildcard, which is
a wildcard in an argument list, and the name of a type that is also the name of a parameter of another
type. -/
namespace Crosscut.WrittenTypes
open TextLists WildcardPieces Substitution

/-- A qualified name that a type pattern can spell out, without wildcards. -/
structure PlainName (cs : List Char) : Prop where
  typed : Pointcut.isTypeText cs = true
  qualified : '.' ∈ cs
  noStar : '*' ∉ cs
  noDots : ¬ ['.', '.'] <:+: cs
  noPlus : cs.getLast? ≠ some '+'

/-- The name of the type that a meaning tests for. -/
def typeName : Meaning → String
  | .parameter b => b.declaredType.name
  | .type text => text

/-- A type may be written by its name: if the name is in scope, it stands for the type of that name. -/
def StandsForItself (scope : Scope) (type : String) : Prop :=
  ∀ m, scope.meaning? type = some m → typeName m = type

/-- The body of a clause with a type written in the place of a name: of an item in the list of `args`,
or of what `target` and `this` test. The other items of a list keep their meanings, while the name
itself may be in scope no longer. A name that is spelled like a wildcard is one in a list. -/
inductive WrittenFor (scope scope' : Scope) (name type : String) :
    Designator → String → String → Prop where
  | argument {before after : List (List Char)} {body body' : String}
      (word : name ≠ "*" ∧ name ≠ "..")
      (listed : Listed (before ++ name.toList :: after) body.toList)
      (listed' : Listed (before ++ type.toList :: after) body'.toList)
      (kept : ∀ item ∈ before ++ after,
        scope'.meaning? (String.ofList item) = scope.meaning? (String.ofList item)) :
      WrittenFor scope scope' name type .args body body'
  | object (role : ObjectRole) : WrittenFor scope scope' name type (.object role) name type

/-- Clauses that answer both questions alike, whatever they bind. -/
structure SelectAlike (c d : Clause) : Prop where
  coarse : ∀ t, c.couldMatch t = d.couldMatch t
  exact : ∀ candidate, (c.match? candidate).isSome = (d.match? candidate).isSome

variable {scope scope' : Scope} {b : Binding} {name : String}

/-! ### The two tests -/

/-- A plain name fits the types that have it in their hierarchies, and no others. -/
theorem fitsHierarchy_plain {type : String} (plain : PlainName type.toList) (t : HostType) :
    (⟨type⟩ : TypePattern).fitsHierarchy t = t.isSubtypeOf type := by
  have body : (⟨type⟩ : TypePattern).body = type.toList := by
    simp [TypePattern.body, TypePattern.admitsSubtypes, plain.noPlus]
  have qualified : (⟨type⟩ : TypePattern).isQualified = true := by
    simpa [TypePattern.isQualified, body] using plain.qualified
  unfold TypePattern.fitsHierarchy HostType.isSubtypeOf
  congr 1
  funext other
  rw [Bool.eq_iff_iff, beq_iff_eq, NameTest.passes, TypePattern.nameTest, body, qualified, if_pos rfl,
    elements_of_plain plain.noStar plain.noDots, accepts_iff_pieced, pieced_exactly, String.toList_inj]

/-- A meaning with a plain name tests for the types that have the name in their hierarchies. -/
theorem admits_subjectOf {m : Meaning} (plain : PlainName (typeName m).toList) (t : HostType) :
    (subjectOf m).admits t = t.isSubtypeOf (typeName m) := by
  cases m with
  | parameter b => rfl
  | type text => exact fitsHierarchy_plain plain t

/-- Items of argument lists that admit the same arguments, as many of them. -/
def AdmitAlike (a b : ArgPattern) : Prop :=
  a.isRest = b.isRest ∧ ∀ t, a.admits t = b.admits t

/-- Lists of such items fit the same parameter types. -/
theorem isSome_match?_of_alike {items others : List ArgPattern}
    (alike : List.Forall₂ AdmitAlike items others) (types : List HostType) :
    (ArgPattern.match? items types).isSome = (ArgPattern.match? others types).isSome := by
  unfold ArgPattern.match?
  rw [Option.isSome_map, Option.isSome_map, Matching.align_eq, Matching.align_eq]
  congr 1
  refine alignFrom_congr (alike.imp fun a b related => ⟨related.1, fun i => ?_⟩) 0
  rw [funext related.2]

/-- Object tests that admit the same make items that do. -/
theorem admitAlike_itemOf {subject other : Subject} (admits : ∀ t, subject.admits t = other.admits t) :
    AdmitAlike (itemOf subject) (itemOf other) := by
  have item : ∀ s : Subject, (itemOf s).isRest = false ∧ ∀ t, (itemOf s).admits t = s.admits t := by
    intro s
    cases s <;> exact ⟨rfl, fun _ => rfl⟩
  exact ⟨(item subject).1.trans (item other).1.symm,
    fun t => ((item subject).2 t).trans ((admits t).trans ((item other).2 t).symm)⟩

/-- The place of an item in a list takes any item that admits the same. -/
theorem alike_in_place {a b : ArgPattern} (alike : AdmitAlike a b) (front back : List ArgPattern) :
    List.Forall₂ AdmitAlike (front ++ a :: back) (front ++ b :: back) := by
  have same : ∀ items, List.Forall₂ AdmitAlike items items :=
    fun items => List.forall₂_same.mpr fun _ _ => ⟨rfl, fun _ => rfl⟩
  exact List.rel_append (same front) (.cons alike (same back))

/-- Object clauses that admit the same objects select the same calls. -/
theorem isSome_match?_of_admits {role : ObjectRole} {text text' : String} {subject other : Subject}
    (admits : ∀ t, subject.admits t = other.admits t) (candidate : Candidate) :
    ((⟨text, .object role subject⟩ : Clause).match? candidate).isSome =
      ((⟨text', .object role other⟩ : Clause).match? candidate).isSome := by
  simp only [Clause.match?, funext admits]
  split <;> rfl

/-! ### Reading -/

/-- A qualified name is never only the name of a parameter. -/
theorem isParameterName_of_qualified {text : String} (qualified : '.' ∈ text.toList) :
    Pointcut.isParameterName text = false := by
  unfold Pointcut.isParameterName
  split
  · rfl
  · rename_i c rest shape
    rw [shape] at qualified
    rcases List.mem_cons.mp qualified with rfl | later
    · have starts : (Text.isLowercase '.' || '.' == '_') = false := by decide
      rw [starts, Bool.false_and, Bool.false_and]
    · have solid : rest.all (fun d => Text.isAlphanumeric d || d == '_' || d == '$') = false :=
        List.all_eq_false.mpr ⟨'.', later, by decide⟩
      rw [solid, Bool.and_false, Bool.false_and]

/-- An item depends on the scope only through the meaning of its text. -/
theorem readArg_congr {item : List Char}
    (same : scope'.meaning? (String.ofList item) = scope.meaning? (String.ofList item)) :
    ClauseSpec.readArg scope' item = ClauseSpec.readArg scope item := by
  simp only [ClauseSpec.readArg, ClauseSpec.meaning, Scope.lookup, same]

theorem readArgs_eq_collect (scope : Scope) (items : List (List Char)) :
    ClauseSpec.readArgs scope items = collect (ClauseSpec.readArg scope) items := by
  induction items with
  | nil => rfl
  | cons item rest ih =>
    rw [ClauseSpec.readArgs, collect, ih]
    cases ClauseSpec.readArg scope item <;> rfl

/-- The name of a parameter as an item binds the parameter. -/
theorem readArg_of_name (known : scope.meaning? name = some (.parameter b))
    (word : name ≠ "*" ∧ name ≠ "..") : ClauseSpec.readArg scope name.toList = .ok (.bound b) := by
  have several : name.toList ≠ "..".toList := fun same => word.2 (String.toList_inj.mp same)
  have single : name.toList ≠ "*".toList := fun same => word.1 (String.toList_inj.mp same)
  refine (readArg_eq_ok several single).mpr ⟨some (.parameter b), ?_, nofun, rfl⟩
  rw [String.ofList_toList]
  exact lookup_eq_ok.mpr ⟨known, nofun⟩

/-- What is read for a type that is written by its name. -/
def writtenSubject (scope : Scope) (type : String) : Subject :=
  subjectOf ((scope.meaning? type).getD (.type type))

/-- It tests for the type of that name. -/
theorem admits_writtenSubject {type : String} (plain : PlainName type.toList)
    (itself : StandsForItself scope type) (t : HostType) :
    (writtenSubject scope type).admits t = t.isSubtypeOf type := by
  have same : typeName ((scope.meaning? type).getD (.type type)) = type := by
    cases known : scope.meaning? type with
    | none => rfl
    | some m => exact itself m known
  rw [writtenSubject, admits_subjectOf (by rwa [same]), same]

/-- A qualified name can be looked up, whether or not it is in scope. -/
theorem lookup_of_plain {type : String} (plain : PlainName type.toList) :
    scope.lookup type = .ok (scope.meaning? type) :=
  lookup_eq_ok.mpr ⟨rfl, fun _ => isParameterName_of_qualified plain.qualified⟩

theorem readArg_of_plain {type : String} (plain : PlainName type.toList) :
    ClauseSpec.readArg scope type.toList = .ok (itemOf (writtenSubject scope type)) := by
  have several : type.toList ≠ ['.', '.'] := by
    intro same
    exact plain.noDots (same ▸ List.infix_refl _)
  have single : type.toList ≠ ['*'] := by
    intro same
    exact plain.noStar (same ▸ List.mem_cons_self)
  refine (readArg_eq_ok several single).mpr ⟨scope.meaning? type, ?_, fun _ => plain.typed, ?_⟩
  · rw [String.ofList_toList]
    exact lookup_of_plain plain
  · rw [String.ofList_toList]
    rfl

/-- With the type in the place of the name, a list is read with a test for the type in the place of the
binding. -/
theorem readArgs_of_written {type : String} (plain : PlainName type.toList)
    (known : scope.meaning? name = some (.parameter b)) (word : name ≠ "*" ∧ name ≠ "..")
    {before after : List (List Char)}
    (kept : ∀ item ∈ before ++ after,
      scope'.meaning? (String.ofList item) = scope.meaning? (String.ofList item))
    {args : List ArgPattern}
    (read : ClauseSpec.readArgs scope (before ++ name.toList :: after) = .ok args) :
    ∃ front back, args = front ++ .bound b :: back ∧
      ClauseSpec.readArgs scope' (before ++ type.toList :: after) =
        .ok (front ++ itemOf (writtenSubject scope' type) :: back) := by
  rw [readArgs_eq_collect, collect_eq_ok, List.map_append, List.map_cons,
    readArg_of_name known word] at read
  obtain ⟨front, rest, rfl, inFront, behind⟩ := List.map_eq_append_iff.mp read.symm
  obtain ⟨arg, back, rfl, bound, inBack⟩ := List.map_eq_cons_iff.mp behind
  cases bound
  obtain ⟨keptFront, keptBack⟩ := List.forall_mem_append.mp kept
  refine ⟨front, back, rfl, ?_⟩
  rw [readArgs_eq_collect, collect_eq_ok, List.map_append, List.map_cons, List.map_append,
    List.map_cons, readArg_of_plain plain, inFront, inBack,
    List.map_congr_left fun item member => readArg_congr (keptFront item member),
    List.map_congr_left fun item member => readArg_congr (keptBack item member)]

/-- What `target` and `this` test is one text, and what it is looked up as. -/
theorem read_object_eq_ok {role : ObjectRole} {body : String} {spec : ClauseSpec} :
    ClauseSpec.read scope body (.object role) = .ok spec ↔
      Pointcut.isTypeText body.toList = true ∧ ∃ found, scope.lookup body = .ok found ∧
        .object role (subjectOf (found.getD (.type body))) = spec := by
  unfold ClauseSpec.read
  cases alone : ClauseSpec.single body with
  | error fault =>
    simp only [reduceCtorEq, false_iff, not_and]
    intro typed
    cases alone.symm.trans (single_eq_ok.mpr ⟨typed, rfl⟩)
  | ok text =>
    obtain ⟨typed, rfl⟩ := single_eq_ok.mp alone
    simp only [map_eq_ok, readSubject_eq_ok, typed, true_and]
    constructor
    · rintro ⟨subject, ⟨found, read, rfl⟩, rfl⟩
      exact ⟨found, read, rfl⟩
    · rintro ⟨found, read, rfl⟩
      exact ⟨_, ⟨found, read, rfl⟩, rfl⟩

/-- With the type in the place of the name, a body is read as a test that selects alike. -/
theorem alike_of_written (known : scope.meaning? name = some (.parameter b))
    (plain : PlainName b.declaredType.name.toList)
    (itself : StandsForItself scope' b.declaredType.name)
    {d : Designator} {body body' : String} {spec : ClauseSpec}
    (written : WrittenFor scope scope' name b.declaredType.name d body body')
    (read : ClauseSpec.read scope body d = .ok spec) :
    ∃ spec', ClauseSpec.read scope' body' d = .ok spec' ∧
      ∀ text text', SelectAlike ⟨text, spec⟩ ⟨text', spec'⟩ := by
  have admits : ∀ t, (Subject.bound b).admits t =
      (writtenSubject scope' b.declaredType.name).admits t :=
    fun t => (admits_writtenSubject plain itself t).symm
  cases written with
  | argument word listed listed' kept =>
    obtain ⟨args, items, rfl⟩ := map_eq_ok.mp read
    rw [items_eq_iff.mpr listed] at items
    obtain ⟨front, back, rfl, items'⟩ := readArgs_of_written plain known word kept items
    rw [← items_eq_iff.mpr listed'] at items'
    have alike := admitAlike_itemOf admits
    refine ⟨.args _, map_eq_ok.mpr ⟨_, items', rfl⟩,
      fun text text' => ⟨fun _ => rfl, fun candidate => ?_⟩⟩
    exact isSome_match?_of_alike (alike_in_place alike front back) _
  | object role =>
    obtain ⟨-, found, looked, rfl⟩ := read_object_eq_ok.mp read
    cases (lookup_eq_ok.mp looked).1.symm.trans known
    refine ⟨.object role (writtenSubject scope' b.declaredType.name),
      read_object_eq_ok.mpr ⟨plain.typed, _, lookup_of_plain plain, rfl⟩,
      fun text text' => ⟨admits, isSome_match?_of_admits admits⟩⟩

/-- Where the declared type of a parameter has a qualified name without wildcards, and the name stands
for nothing else in scope, a clause with the type written for the name of the parameter is accepted, and
it selects the same methods on the same types. -/
theorem written_type_selects_alike {raw raw' : RawClause} {d : Designator} {clause : Clause}
    {expression expression' : String} (known : scope.meaning? name = some (.parameter b))
    (plain : PlainName b.declaredType.name.toList)
    (itself : StandsForItself scope' b.declaredType.name)
    (written : WrittenFor scope scope' name b.declaredType.name d raw.body raw'.body)
    (accepted : raw.toClause expression scope d = .ok clause) :
    ∃ clause', raw'.toClause expression' scope' d = .ok clause' ∧ SelectAlike clause clause' := by
  obtain ⟨spec, read, rfl⟩ := RawClause.toClause_eq_ok.mp accepted
  obtain ⟨spec', read', alike⟩ := alike_of_written known plain itself written read
  exact ⟨_, RawClause.toClause_eq_ok.mpr ⟨spec', read', rfl⟩, alike raw.text raw'.text⟩

/-- A clause for a list of arguments. -/
def argsClause (items : String) : RawClause :=
  ⟨"args", .designator .args, items⟩

theorem toClause_args {items : List (List Char)} {body : String} {args : List ArgPattern}
    (listed : Text.items body.toList = items) (read : ClauseSpec.readArgs scope items = .ok args) :
    (argsClause body).toClause "" scope .args = .ok ⟨(argsClause body).text, .args args⟩ :=
  RawClause.toClause_eq_ok.mpr ⟨.args args, map_eq_ok.mpr ⟨args, listed ▸ read, rfl⟩, rfl⟩

/-- An entry of a ledger. -/
def entry : Binding :=
  ⟨"entry", .bare "demo.Entry"⟩

/-- The posting of a rent, which is an entry, with a note. -/
def posted : Candidate :=
  ⟨⟨none, ⟨"post", .bare "void", [⟨"rent", .mk "demo.Rent" 1 [] [.bare "demo.Entry"] [], []⟩,
    ⟨"note", .bare "demo.Note", []⟩], [], []⟩⟩, none⟩

/-- Where `entry` is a declared parameter, `args(entry, *)` selects the posting of a rent, and
`args(demo.Entry, *)` selects the same where nothing is declared. -/
theorem entry_or_its_type :
    ∃ clause, (argsClause "entry, *").toClause "" (.ofParameters [entry]) .args = .ok clause ∧
      (clause.match? posted).isSome ∧
      ∃ clause', (argsClause "demo.Entry, *").toClause "" [] .args = .ok clause' ∧
        SelectAlike clause clause' := by
  have known : (Scope.ofParameters [entry]).meaning? "entry" = some (.parameter entry) := by
    simp [Scope.meaning?, Scope.ofParameters, entry]
  have plain : PlainName entry.declaredType.name.toList := by
    constructor <;> decide +kernel
  have itself : StandsForItself [] entry.declaredType.name := by
    rintro m ⟨⟩
  have word : "entry" ≠ "*" ∧ "entry" ≠ ".." := by decide
  have items : Text.items "entry, *".toList = ["entry".toList, ['*']] := by decide +kernel
  have items' : Text.items "demo.Entry, *".toList = ["demo.Entry".toList, ['*']] := by decide +kernel
  have read : ClauseSpec.readArgs (.ofParameters [entry]) ["entry".toList, ['*']] =
      .ok [.bound entry, .any] := by
    rw [readArgs_eq_collect, collect, readArg_of_name known word]
    rfl
  have kept : ∀ item ∈ [] ++ [['*']], Scope.meaning? [] (String.ofList item) =
      (Scope.ofParameters [entry]).meaning? (String.ofList item) := by
    simp [Scope.meaning?, Scope.ofParameters, entry]
  have written : WrittenFor (.ofParameters [entry]) [] "entry" entry.declaredType.name .args
      "entry, *" "demo.Entry, *" :=
    .argument word (items_eq_iff.mp items) (items_eq_iff.mp items') kept
  have accepted := toClause_args items read
  exact ⟨_, accepted, by decide +kernel,
    written_type_selects_alike known plain itself written accepted⟩

/-- A parameter that is spelled like a wildcard. -/
def star : Binding :=
  ⟨"*", .bare "demo.Note"⟩

/-- A parameter that is spelled like a type, and is of another type. -/
def entryNamed : Binding :=
  ⟨"demo.Entry", .bare "demo.Note"⟩

/-- A method for one argument of a type. -/
def taking (type : String) : Candidate :=
  ⟨⟨none, ⟨"take", .bare "void", [⟨"x", .bare type, []⟩], [], []⟩⟩, none⟩

/-- The wildcard in an argument list is no name: `args(*)` selects a method that `args(demo.Note)` does
not, although `*` is a parameter of that type. And where `demo.Entry` is a parameter of another type,
`args(entry)` selects a method that `args(demo.Entry)` does not. -/
theorem misleading_names :
    (∃ clause clause', (Scope.ofParameters [star]).meaning? "*" = some (.parameter star) ∧
      PlainName star.declaredType.name.toList ∧
      (argsClause "*").toClause "" (.ofParameters [star]) .args = .ok clause ∧
      (argsClause "demo.Note").toClause "" (.ofParameters [star]) .args = .ok clause' ∧
      (clause.match? (taking "demo.Entry")).isSome = true ∧
      (clause'.match? (taking "demo.Entry")).isSome = false) ∧
    ∃ clause clause',
      (Scope.ofParameters [entry, entryNamed]).meaning? "entry" = some (.parameter entry) ∧
      PlainName entry.declaredType.name.toList ∧
      (argsClause "entry").toClause "" (.ofParameters [entry, entryNamed]) .args = .ok clause ∧
      (argsClause "demo.Entry").toClause "" (.ofParameters [entry, entryNamed]) .args = .ok clause' ∧
      (clause.match? (taking "demo.Entry")).isSome = true ∧
      (clause'.match? (taking "demo.Entry")).isSome = false := by
  have note : PlainName "demo.Note".toList := by
    constructor <;> decide +kernel
  have ledgerEntry : PlainName "demo.Entry".toList := by
    constructor <;> decide +kernel
  have known : (Scope.ofParameters [entry, entryNamed]).meaning? "entry" = some (.parameter entry) := by
    simp [Scope.meaning?, Scope.ofParameters, entry, entryNamed]
  constructor
  · have wildcard : ClauseSpec.readArgs (.ofParameters [star]) [['*']] = .ok [.any] := rfl
    have type : ClauseSpec.readArgs (.ofParameters [star]) ["demo.Note".toList] =
        .ok [.type ⟨"demo.Note"⟩] := by
      rw [readArgs_eq_collect, collect, readArg_of_plain note]
      rfl
    exact ⟨_, _, by simp [Scope.meaning?, Scope.ofParameters, star], note,
      toClause_args (by decide +kernel) wildcard, toClause_args (by decide +kernel) type,
      by decide +kernel, by decide +kernel⟩
  · have name : ClauseSpec.readArgs (.ofParameters [entry, entryNamed]) ["entry".toList] =
        .ok [.bound entry] := by
      rw [readArgs_eq_collect, collect, readArg_of_name known (by decide)]
      rfl
    have type : ClauseSpec.readArgs (.ofParameters [entry, entryNamed]) ["demo.Entry".toList] =
        .ok [.bound entryNamed] := by
      rw [readArgs_eq_collect, collect, readArg_of_plain ledgerEntry]
      rfl
    exact ⟨_, _, known, ledgerEntry, toClause_args (by decide +kernel) name,
      toClause_args (by decide +kernel) type, by decide +kernel, by decide +kernel⟩

end Crosscut.WrittenTypes
