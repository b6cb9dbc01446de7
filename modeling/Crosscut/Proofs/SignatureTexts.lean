import Crosscut.Pointcut.Parse
import Crosscut.Proofs.TextLists

/-! The texts of signatures. A signature is written with modifiers, a return type, a name that may
stand behind a declaring part and a dot, and a parameter list. A body is read exactly when it is
written with such parts, and there is only one way to see them in it. -/
namespace Crosscut.SignatureTexts
open TextLists

/-- What a signature is written with. -/
@[ext] structure Parts where
  modifiers : List Modifier
  returns : List Char
  declaring : Option (List Char)
  name : List Char
  params : List (List Char)

/-- The declaring type that a declaring part stands for: of two dots in front of the name it keeps
one, and a star completes it. -/
def completed (before : List Char) : List Char :=
  if before.getLast? = some '.' then before ++ ['*'] else before

/-- What an item of a parameter list stands for. -/
def paramPattern (item : List Char) : ParamPattern :=
  if item = ['.', '.'] then .rest else .type ⟨String.ofList item⟩

/-- The item that a parameter pattern is written as. -/
def paramText : ParamPattern → List Char
  | .rest => ['.', '.']
  | .type pattern => pattern.text.toList

/-- A name behind its declaring part. -/
def qualify : Option (List Char) → List Char → List Char
  | none, name => name
  | some before, name => before ++ '.' :: name

namespace Parts

def words (p : Parts) : List (List Char) :=
  p.modifiers.map (·.keyword.toList) ++ [p.returns, qualify p.declaring p.name]

/-- The signature that is meant. -/
def signature (p : Parts) : SignaturePattern where
  modifiers := p.modifiers
  returns := ⟨String.ofList p.returns⟩
  declaring := p.declaring.map fun before => ⟨String.ofList (completed before)⟩
  name := ⟨String.ofList p.name⟩
  params := p.params.map paramPattern

/-- The parts that a signature shows. -/
def ofSignature (s : SignaturePattern) : Parts where
  modifiers := s.modifiers
  returns := s.returns.text.toList
  declaring := s.declaring.map (·.text.toList)
  name := s.name.text.toList
  params := s.params.map paramText

/-- The parts with the declaring type that is meant. -/
def complete (p : Parts) : Parts :=
  { p with declaring := p.declaring.map completed }

/-- The parts written out, with single spaces. -/
def text (p : Parts) : List Char :=
  [' '].intercalate p.words ++ '(' :: ([',', ' '].intercalate p.params ++ [')'])

/-- Types and a name as a signature has them. Nothing is asked of the declaring part. -/
structure Readable (p : Parts) : Prop where
  returns : Pointcut.isTypeText p.returns = true
  name : Pointcut.isTypeText p.name = true
  simple : '.' ∉ p.name
  params : ∀ item ∈ p.params, Pointcut.isTypeText item = true

end Parts

/-- A body that is written with parts: words, then items in parentheses. -/
inductive Written (p : Parts) : List Char → Prop
  | intro {head inside : List Char} (readable : p.Readable) (front : Spaced p.words head)
      (listed : Listed p.params inside) : Written p (head ++ '(' :: (inside ++ [')']))

variable {cs body head inside word : List Char} {items : List (List Char)} {p q : Parts}

theorem Written.readable (written : Written p body) : p.Readable := by
  cases written
  assumption

/-! ### Type texts -/

/-- White space is in no type text: it is in no name, and the marks of type texts are no white
space. -/
theorem isTypeChar_of_blank {c : Char} (blank : Text.isBlank c = true) :
    Pointcut.isTypeChar c = false := by
  have marks : ['_', '$', '.', '*', '+', '[', ']'].all (!Text.isBlank ·) = true := by decide
  have named := Lexemes.no_name_of_blank blank
  simp only [Token.isNameChar, Bool.or_eq_false_iff] at named
  have unmarked : c ∉ ['_', '$', '.', '*', '+', '[', ']'] := fun mark => by
    simpa [blank] using List.all_eq_true.mp marks c mark
  simp only [Pointcut.isTypeChar, named, Bool.false_or]
  simpa using unmarked

theorem isTypeText_iff :
    Pointcut.isTypeText cs = true ↔ cs ≠ [] ∧ ∀ c ∈ cs, Pointcut.isTypeChar c = true := by
  simp [Pointcut.isTypeText]

theorem solid_of_isTypeText (typed : Pointcut.isTypeText cs = true) :
    ∀ c ∈ cs, Text.isBlank c = false ∧ c ≠ ',' ∧ c ≠ '(' := by
  intro c member
  have allowed := (isTypeText_iff.mp typed).2 c member
  refine ⟨?_, ?_, ?_⟩
  · by_contra blank
    rw [isTypeChar_of_blank (by simpa using blank)] at allowed
    cases allowed
  all_goals
    rintro rfl
    exact absurd allowed (by decide)

theorem word_of_isTypeText (typed : Pointcut.isTypeText cs = true) : Word cs :=
  ⟨(isTypeText_iff.mp typed).1, fun c member => (solid_of_isTypeText typed c member).1⟩

theorem item_of_isTypeText (typed : Pointcut.isTypeText cs = true) : Item cs where
  single := fun member => (solid_of_isTypeText typed ',' member).2.1 rfl
  starts := fun c leads => (solid_of_isTypeText typed c (List.mem_of_head? leads)).1
  ends := fun c closes => (solid_of_isTypeText typed c (List.mem_of_getLast? closes)).1

/-! ### Reading the parts -/

/-- The last parenthesis opens the parameter list. -/
theorem splitParameterList_eq_some :
    SignaturePattern.splitParameterList body = some (head, inside) ↔
      body = head ++ '(' :: (inside ++ [')']) ∧ '(' ∉ inside := by
  unfold SignaturePattern.splitParameterList
  constructor
  · intro split
    cases cut : Text.cutLast '(' body with
    | none =>
      rw [cut] at split
      cases split
    | some halves =>
      obtain ⟨before, behind⟩ := halves
      obtain ⟨rfl, single⟩ := Text.cutLast_eq_some cut
      rw [cut] at split
      dsimp only at split
      split at split
      · rename_i closed
        cases split
        obtain ⟨inner, rfl⟩ := List.getLast?_eq_some_iff.mp (beq_iff_eq.mp closed)
        simp at single ⊢
        exact single
      · cases split
  · rintro ⟨rfl, single⟩
    rw [Text.cutLast_append (by simp [single])]
    simp

theorem ofKeyword?_eq_some {word : String} {modifier : Modifier} :
    Modifier.ofKeyword? word = some modifier ↔ modifier.keyword = word := by
  constructor
  · intro found
    simpa using List.find?_some found
  · rintro rfl
    exact modifier.ofKeyword?_keyword

theorem readModifiers_keywords (modifiers : List Modifier) :
    SignaturePattern.readModifiers (modifiers.map (·.keyword.toList)) = .ok modifiers := by
  induction modifiers with
  | nil => rfl
  | cons modifier rest ih =>
    simp only [List.map_cons, SignaturePattern.readModifiers, String.ofList_toList,
      modifier.ofKeyword?_keyword, ih]
    rfl

theorem readModifiers_eq_ok {modifiers : List Modifier} :
    SignaturePattern.readModifiers items = .ok modifiers ↔
      items = modifiers.map (·.keyword.toList) := by
  refine ⟨fun read => ?_, fun written => written ▸ readModifiers_keywords modifiers⟩
  induction items generalizing modifiers with
  | nil =>
    cases read
    rfl
  | cons word rest ih =>
    rw [SignaturePattern.readModifiers] at read
    cases known : Modifier.ofKeyword? (String.ofList word) with
    | none =>
      rw [known] at read
      cases read
    | some modifier =>
      rw [known] at read
      obtain ⟨more, later, rfl⟩ := map_eq_ok.mp read
      have spelled := ofKeyword?_eq_some.mp known
      rw [List.map_cons, ← ih later, spelled, String.toList_ofList]

theorem readParams_eq_ok {params : List ParamPattern} :
    SignaturePattern.readParams items = .ok params ↔
      (∀ item ∈ items, Pointcut.isTypeText item = true) ∧ items.map paramPattern = params := by
  have dots : Pointcut.isTypeText ['.', '.'] = true := by decide
  induction items generalizing params with
  | nil => simp [SignaturePattern.readParams]
  | cons item rest ih =>
    have step : SignaturePattern.readParams (item :: rest) =
        if Pointcut.isTypeText item then
          (SignaturePattern.readParams rest).map (paramPattern item :: ·)
        else .error (.parameterType (String.ofList item)) := by
      rw [SignaturePattern.readParams, paramPattern]
      by_cases two : item = ['.', '.']
      · simp [two, dots]
      · simp [two]
    rw [step, List.forall_mem_cons, List.map_cons]
    split
    · rename_i typed
      rw [map_eq_ok]
      constructor
      · rintro ⟨more, read, rfl⟩
        obtain ⟨all, rfl⟩ := ih.mp read
        exact ⟨⟨typed, all⟩, rfl⟩
      · rintro ⟨⟨-, all⟩, rfl⟩
        exact ⟨_, ih.mpr ⟨all, rfl⟩, rfl⟩
    · rename_i untyped
      simp [untyped]

/-- The name is cut off at its last dot. -/
theorem splitName_qualify {name : List Char} (simple : '.' ∉ name)
    (declaring : Option (List Char)) :
    SignaturePattern.splitName (qualify declaring name) =
      (declaring.map fun before => ⟨String.ofList (completed before)⟩, name) := by
  cases declaring with
  | none => simp [qualify, SignaturePattern.splitName, Text.cutLast_eq_none.mpr simple]
  | some before =>
    simp [qualify, SignaturePattern.splitName, Text.cutLast_append simple, completed]

theorem exists_qualify (word : List Char) :
    ∃ declaring name, '.' ∉ name ∧ qualify declaring name = word := by
  cases cut : Text.cutLast '.' word with
  | none => exact ⟨none, word, Text.cutLast_eq_none.mp cut, rfl⟩
  | some halves =>
    obtain ⟨before, name⟩ := halves
    obtain ⟨rfl, simple⟩ := Text.cutLast_eq_some cut
    exact ⟨some before, name, simple, rfl⟩

/-- A qualified name shows where its name starts. -/
theorem qualify_inj {first second : Option (List Char)} {name other : List Char}
    (simple : '.' ∉ name) (plain : '.' ∉ other) (same : qualify first name = qualify second other) :
    first = second ∧ name = other := by
  have cut : ∀ {declaring : Option (List Char)} {name : List Char}, '.' ∉ name →
      Text.cutLast '.' (qualify declaring name) = declaring.map (·, name) := by
    intro declaring name simple
    cases declaring with
    | none => exact Text.cutLast_eq_none.mpr simple
    | some before => exact Text.cutLast_append simple before
  have cuts := congrArg (Text.cutLast '.') same
  rw [cut simple, cut plain] at cuts
  cases first with
  | none =>
    cases second with
    | none => exact ⟨rfl, same⟩
    | some before => cases cuts
  | some before =>
    cases second with
    | none => cases cuts
    | some other =>
      cases cuts
      exact ⟨rfl, rfl⟩

/-- The parameter list holds no parenthesis, so the last one opens it. -/
theorem no_parenthesis_inside (readable : p.Readable) (listed : Listed p.params inside) :
    '(' ∉ inside :=
  not_mem_of_listed (by decide) (by decide)
    (fun item member within => (solid_of_isTypeText (readable.params item member) '(' within).2.2 rfl)
    listed

/-- A body is read as the signature of the parts that it is written with. -/
theorem read_of_written (written : Written p body) :
    SignaturePattern.read body = .ok p.signature := by
  obtain @⟨head, inside, readable, front, listed⟩ := written
  have split := splitParameterList_eq_some.mpr
    ⟨(rfl : head ++ '(' :: (inside ++ [')']) = _), no_parenthesis_inside readable listed⟩
  rw [SignaturePattern.read, split]
  dsimp only
  rw [words_of_spaced front, items_eq_iff.mpr listed]
  simp only [Parts.words, List.reverse_append, List.reverse_cons, List.reverse_nil, List.nil_append,
    List.cons_append, List.reverse_reverse, readModifiers_keywords, readable.returns,
    splitName_qualify readable.simple, readable.name, readParams_eq_ok.mpr ⟨readable.params, rfl⟩]
  rfl

theorem written_of_read {s : SignaturePattern} (read : SignaturePattern.read body = .ok s) :
    ∃ p, Written p body ∧ p.signature = s := by
  unfold SignaturePattern.read at read
  split at read
  · cases read
  rename_i head inside split
  obtain ⟨rfl, -⟩ := splitParameterList_eq_some.mp split
  split at read
  · rename_i word returns keywords shape
    obtain ⟨declaring, name, simple, rfl⟩ := exists_qualify word
    rw [splitName_qualify simple] at read
    split at read
    · cases read
    · rename_i modifiers known
      split at read
      · cases read
      · rename_i returnTyped
        split at read
        · cases read
        · rename_i nameTyped
          obtain ⟨params, listed, rfl⟩ := map_eq_ok.mp read
          obtain ⟨paramsTyped, rfl⟩ := readParams_eq_ok.mp listed
          have words : Text.words head =
              modifiers.map (·.keyword.toList) ++ [returns, qualify declaring name] := by
            rw [← readModifiers_eq_ok.mp known, ← List.reverse_reverse (Text.words head), shape]
            simp
          refine ⟨⟨modifiers, returns, declaring, name, Text.items inside⟩,
            .intro ⟨?_, ?_, simple, paramsTyped⟩ (words_eq_iff.mp words) (items_eq_iff.mp rfl), rfl⟩
          · simpa using returnTyped
          · simpa using nameTyped
  · cases read

/-! ### One way to see the parts -/

/-- The keywords, the return type and the name are the words of the parts in this order. -/
theorem words_inj (same : p.words = q.words) :
    p.modifiers = q.modifiers ∧ p.returns = q.returns ∧
      qualify p.declaring p.name = qualify q.declaring q.name := by
  obtain ⟨keywords, rest⟩ := List.append_inj' same rfl
  have modifiers : Except.ok p.modifiers = (.ok q.modifiers : Except PatternFault _) := by
    rw [← readModifiers_keywords, keywords, readModifiers_keywords]
  simp only [List.cons.injEq, and_true] at rest
  exact ⟨Except.ok.inj modifiers, rest⟩

/-- A body is written with one list of parts only. -/
theorem parts_unique (first : Written p body) (second : Written q body) : q = p := by
  obtain @⟨head, inside, readable, front, listed⟩ := first
  generalize whole : head ++ '(' :: (inside ++ [')']) = body at second
  obtain @⟨head', inside', readable', front', listed'⟩ := second
  have split := splitParameterList_eq_some.mpr ⟨whole.symm, no_parenthesis_inside readable listed⟩
  rw [splitParameterList_eq_some.mpr ⟨rfl, no_parenthesis_inside readable' listed'⟩] at split
  cases split
  obtain ⟨modifiers, returns, names⟩ := words_inj
    ((words_of_spaced front).symm.trans (words_of_spaced front'))
  obtain ⟨declaring, name⟩ := qualify_inj readable.simple readable'.simple names
  have params := (items_eq_iff.mpr listed).symm.trans (items_eq_iff.mpr listed')
  exact (Parts.ext modifiers returns declaring name params).symm

/-! ### Writing a signature -/

theorem completed_completed (before : List Char) : completed (completed before) = completed before := by
  by_cases twice : before.getLast? = some '.'
  · simp [completed, twice]
  · simp [completed, twice]

theorem paramText_paramPattern (item : List Char) : paramText (paramPattern item) = item := by
  unfold paramPattern
  split
  · rename_i two
    exact two.symm
  · exact String.toList_ofList

/-- A signature shows the parts that it was read from, with the declaring type that is meant. -/
theorem ofSignature_signature (p : Parts) : Parts.ofSignature p.signature = p.complete := by
  simp [Parts.ofSignature, Parts.signature, Parts.complete, Function.comp_def,
    paramText_paramPattern]

theorem signature_complete (p : Parts) : p.complete.signature = p.signature := by
  simp [Parts.signature, Parts.complete, completed_completed, Function.comp_def]

theorem word_of_keyword (modifier : Modifier) : Word modifier.keyword.toList := by
  have solid : modifier.keyword.toList.all (!Text.isBlank ·) = true := by
    cases modifier <;> decide
  refine ⟨by cases modifier <;> decide, fun c member => ?_⟩
  simpa using List.all_eq_true.mp solid c member

/-- Completing the declaring part puts no white space into it. -/
theorem word_qualify_completed {declaring : Option (List Char)} {name : List Char}
    (solid : Word (qualify declaring name)) : Word (qualify (declaring.map completed) name) := by
  cases declaring with
  | none => exact solid
  | some before =>
    refine ⟨by simp [qualify], fun c member => ?_⟩
    have star : Text.isBlank '*' = false := by decide
    have inside : c ∈ qualify (some before) name ∨ c = '*' := by
      simp only [Option.map_some, qualify, completed, List.mem_append, List.mem_cons] at member ⊢
      split at member
      · simp only [List.mem_append, List.mem_singleton] at member
        tauto
      · exact .inl member
    rcases inside with known | rfl
    · exact solid.solid c known
    · exact star

theorem written_text (readable : p.Readable) (solid : ∀ word ∈ p.words, Word word) :
    Written p p.text :=
  .intro readable (spaced_intercalate solid) (listed_intercalate
    (fun item member => item_of_isTypeText (readable.params item member))
    (fun item member => (isTypeText_iff.mp (readable.params item member)).1))

/-- What a signature shows can be written out, and is read as that signature. -/
theorem read_complete_text (written : Written p body) :
    SignaturePattern.read p.complete.text = .ok p.signature := by
  obtain @⟨head, inside, readable, front, listed⟩ := written
  have words := word_of_spaced front
  rw [← signature_complete]
  refine read_of_written (written_text ⟨readable.returns, readable.name, readable.simple,
    readable.params⟩ fun word member => ?_)
  rcases List.mem_append.mp member with keyword | rest
  · obtain ⟨modifier, -, rfl⟩ := List.mem_map.mp keyword
    exact word_of_keyword modifier
  · simp only [List.mem_cons, List.not_mem_nil, or_false] at rest
    rcases rest with rfl | rfl
    · exact word_of_isTypeText readable.returns
    · have solid : Word (qualify p.declaring p.name) := words _ (by simp [Parts.words])
      exact word_qualify_completed solid

/-! ### Execution clauses -/

/-- An execution clause is what is read from its body, and a fault in the body is its error. -/
theorem toClause_execution (raw : RawClause) (expression : String) (scope : Scope) :
    raw.toClause expression scope .execution =
      match SignaturePattern.read raw.body.toList with
      | .error fault => .error (.invalidPattern expression raw.text fault)
      | .ok s => .ok ⟨raw.text, .execution s⟩ := by
  rw [RawClause.toClause, ClauseSpec.read]
  cases SignaturePattern.read raw.body.toList <;> rfl

theorem accepted_iff_written {raw : RawClause} {expression : String} {scope : Scope}
    {clause : Clause} :
    raw.toClause expression scope .execution = .ok clause ↔
      ∃ p, Written p raw.body.toList ∧ ⟨raw.text, .execution p.signature⟩ = clause := by
  rw [toClause_execution]
  constructor
  · intro accepted
    cases read : SignaturePattern.read raw.body.toList with
    | error fault =>
      rw [read] at accepted
      cases accepted
    | ok s =>
      rw [read] at accepted
      obtain ⟨p, written, rfl⟩ := written_of_read read
      exact ⟨p, written, Except.ok.inj accepted⟩
  · rintro ⟨p, written, rfl⟩
    rw [read_of_written written]

/-- An execution clause is accepted exactly when its body is written with a return type, a name and
parameters that are type texts, behind known keywords; there is one way to see these parts, the
signature of the clause shows them, and written out it is read as the same signature. Any other body
is reported as an invalid pattern. The declaring part may be any text without white space. -/
theorem bodies_are_read_as_written (raw : RawClause) (expression : String) (scope : Scope) :
    (∀ clause, raw.toClause expression scope .execution = .ok clause ↔
      ∃ p, Written p raw.body.toList ∧ ⟨raw.text, .execution p.signature⟩ = clause) ∧
    (∀ p, Written p raw.body.toList →
      (∀ q, Written q raw.body.toList → q = p) ∧
      Parts.ofSignature p.signature = p.complete ∧
      SignaturePattern.read p.complete.text = .ok p.signature) ∧
    ((∀ p, ¬ Written p raw.body.toList) → ∃ fault,
      raw.toClause expression scope .execution =
        .error (.invalidPattern expression raw.text fault)) := by
  refine ⟨fun clause => accepted_iff_written, fun p written => ?_, fun unwritten => ?_⟩
  · exact ⟨fun q again => parts_unique written again, ofSignature_signature p,
      read_complete_text written⟩
  · rw [toClause_execution]
    cases read : SignaturePattern.read raw.body.toList with
    | error fault => exact ⟨fault, rfl⟩
    | ok s =>
      obtain ⟨p, written, -⟩ := written_of_read read
      exact absurd written (unwritten p)

/-- A clause with a modifier, and with two dots in front of the name. -/
def finding : RawClause :=
  ⟨"execution", .designator .execution, "public * demo..find*(String, ..)"⟩

def findingParts : Parts where
  modifiers := [.isPublic]
  returns := ['*']
  declaring := some "demo.".toList
  name := "find*".toList
  params := ["String".toList, "..".toList]

theorem written_finding : Written findingParts finding.body.toList := by
  have front : Spaced findingParts.words "public * demo..find*".toList :=
    words_eq_iff.mp (by decide)
  have listed : Listed findingParts.params "String, ..".toList := items_eq_iff.mp (by decide)
  exact .intro ⟨by decide, by decide, by decide, by decide⟩ front listed

theorem finding_is_read_as_written :
    (finding.toClause "finding" [] .execution = .ok ⟨finding.text, .execution findingParts.signature⟩ ∧
      Parts.ofSignature findingParts.signature =
        { findingParts with declaring := some "demo.*".toList }) ∧
    ∃ fault, (⟨"execution", .designator .execution, "volatile * m()"⟩ : RawClause).toClause "m" []
      .execution = .error (.invalidPattern "m" "execution(volatile * m())" fault) := by
  obtain ⟨accepted, shown, -⟩ := bodies_are_read_as_written finding "finding" []
  obtain ⟨-, -, refused⟩ := bodies_are_read_as_written
    ⟨"execution", .designator .execution, "volatile * m()"⟩ "m" []
  refine ⟨⟨(accepted _).mpr ⟨findingParts, written_finding, rfl⟩,
    (shown findingParts written_finding).2.1⟩, refused fun p written => ?_⟩
  have read := read_of_written written
  cases read

/-- The declaring part is not checked as the other types of a signature are: no type text holds a
hyphen, and a declaring part with one is accepted. -/
theorem malformed_declaring_type_is_accepted :
    (∃ clause, (⟨"execution", .designator .execution, "* a-b.m()"⟩ : RawClause).toClause
      "execution(* a-b.m())" [] .execution = .ok clause) ∧
    ¬ ∃ p, Written p "* a-b.m()".toList ∧
      ∀ before, p.declaring = some before → Pointcut.isTypeText before = true := by
  let parts : Parts := ⟨[], ['*'], some "a-b".toList, ['m'], []⟩
  have front : Spaced parts.words "* a-b.m".toList := words_eq_iff.mp (by decide)
  have listed : Listed parts.params [] := items_eq_iff.mp (by decide)
  have written : Written parts "* a-b.m()".toList :=
    .intro ⟨by decide, by decide, by decide, by decide⟩ front listed
  refine ⟨⟨_, accepted_iff_written.mpr ⟨parts, written, rfl⟩⟩, ?_⟩
  rintro ⟨p, again, typed⟩
  obtain rfl := parts_unique written again
  exact absurd (typed _ rfl) (by decide)

end Crosscut.SignatureTexts
