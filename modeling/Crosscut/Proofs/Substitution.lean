import Crosscut.Matching.Formula
import Mathlib.Data.List.Forall2

/-! A reference to a named pointcut stands for the expression of the pointcut with the passed texts in
the place of its parameters. The parser gets there by scopes: a reference looks every passed text up
once, and hands the meaning on under the name of the parameter. The reading in this module knows no such
scopes. It carries the passed texts themselves, each with the scope that it was written in, down through
all nested references, and reads a text only where a clause uses it, as if it had been written there. The
two readings match alike, and bind from the same sources.

Replacement stops at two places. The type pattern of `within` is never a name, so nothing is put in its
place. And two dots are a run of arguments only where an argument list itself holds them; passed for a
parameter they are a type pattern. -/
namespace Crosscut.Substitution

/-- A text and the scope in which it was written. -/
structure Written where
  text : List Char
  scope : Scope

/-- An object test as an item of an argument list. -/
def itemOf : Subject → ArgPattern
  | .type pattern => .type pattern
  | .bound b => .bound b

namespace Written

def meaning? (w : Written) : Option Meaning :=
  w.scope.meaning? (String.ofList w.text)

def subject (w : Written) : Except ClauseSpec.Fault Subject :=
  ClauseSpec.readSubject w.scope (String.ofList w.text)

def annotated (w : Written) : Except ClauseSpec.Fault AnnotationPattern :=
  ClauseSpec.readAnnotated w.scope (String.ofList w.text)

/-- A passed text as an item of an argument list: what it would be if the list held it. Only two dots,
and a name that is spelled like a wildcard, are no wildcard where they are passed. -/
def argument (w : Written) : Except ClauseSpec.Fault ArgPattern :=
  if w.meaning?.isSome || w.text == ['.', '.'] then w.subject.map itemOf
  else ClauseSpec.readArg w.scope w.text

end Written

/-- The texts that are put in the place of names. -/
abbrev Replacement := List (String × Written)

namespace Replacement

/-- The text for a name. Of two texts for one name the later one counts. -/
def text? (r : Replacement) (name : String) : Option Written :=
  (r.reverse.find? (·.1 == name)).map (·.2)

/-- What stands at a place of an expression after the replacement. A text that is replaced by nothing
stands for itself, and no name of a scope outside is visible to it. -/
def place (r : Replacement) (text : List Char) : Written :=
  (r.text? (String.ofList text)).getD ⟨text, []⟩

def argument (r : Replacement) (item : List Char) : Except ClauseSpec.Fault ArgPattern :=
  if item == ['.', '.'] then .ok .rest
  else if item == ['*'] then .ok .any
  else (r.place item).argument

/-- Reads the body of a clause with the texts replaced. -/
def read (r : Replacement) (body : String) : Designator → Except ClauseSpec.Fault ClauseSpec
  | .execution => ClauseSpec.read [] body .execution
  | .within => ClauseSpec.read [] body .within
  | .object role =>
    match ClauseSpec.single body with
    | .error fault => .error fault
    | .ok text => (r.place text.toList).subject.map (.object role)
  | .args => (collect r.argument (Text.items body.toList)).map .args
  | .annotated site =>
    match ClauseSpec.single body with
    | .error fault => .error fault
    | .ok text => (r.place text.toList).annotated.map (.annotated site)

/-- The texts that a reference passes to a pointcut, for its parameters in order. -/
def passed (p : NamedPointcut) (raw : RawClause) (written : List Char → Written) : Replacement :=
  p.parameterNames.zip ((Text.items raw.body.toList).map written)

end Replacement

/-- The clauses of an expression in their boolean structure, before any of them is read. -/
def outline (expression : String) : Except ParseError (Formula RawClause) :=
  match Token.tokenize expression with
  | .error e => .error e
  | .ok [] => .error .empty
  | .ok tokens =>
    (Grammar.formula (fun raw => .ok (.leaf raw)) tokens).mapError (Grammar.Fault.toError expression)

/-- What an expression stands for when texts are put in the place of names. A reference stands for the
expression that it refers to, with the texts that it passes after the replacement. -/
inductive Stands (ctx : PointcutContext) :
    Replacement → Formula RawClause → Formula Clause → Prop where
  | clause {r : Replacement} {raw : RawClause} {d : Designator} {spec : ClauseSpec}
      (kind : raw.kind = .designator d) (read : r.read raw.body d = .ok spec) :
      Stands ctx r (.leaf raw) (.leaf ⟨raw.text, spec⟩)
  | reference {r : Replacement} {raw : RawClause} {p : NamedPointcut} {body : String}
      {inside : Formula RawClause} {f : Formula Clause} (kind : raw.kind = .reference)
      (denoted : ctx.find? raw.keyword = some p) (expression : p.expression? = some body)
      (outlined : outline body = .ok inside)
      (below : Stands ctx (.passed p raw r.place) inside f) :
      Stands ctx r (.leaf raw) (.reference raw.keyword f)
  | not {r : Replacement} {inner : Formula RawClause} {f : Formula Clause}
      (below : Stands ctx r inner f) : Stands ctx r inner.not f.not
  | and {r : Replacement} {left right : Formula RawClause} {f g : Formula Clause}
      (onLeft : Stands ctx r left f) (onRight : Stands ctx r right g) :
      Stands ctx r (left.and right) (f.and g)
  | or {r : Replacement} {left right : Formula RawClause} {f g : Formula Clause}
      (onLeft : Stands ctx r left f) (onRight : Stands ctx r right g) :
      Stands ctx r (left.or right) (f.or g)

/-- Formulas that match the same candidates with the same sources, and that ask the same of types. -/
structure Alike (f g : Formula Clause) : Prop where
  matches? : ∀ c, f.match? c = g.match? c
  coarse : ∀ t, f.couldMatch t = g.couldMatch t

theorem alike_refl (f : Formula Clause) : Alike f f := ⟨fun _ => rfl, fun _ => rfl⟩

variable {ctx : PointcutContext} {r : Replacement}

/-- An expression stands for one formula only. -/
theorem stands_unique {shape : Formula RawClause} {f g : Formula Clause}
    (first : Stands ctx r shape f) (second : Stands ctx r shape g) : f = g := by
  induction first generalizing g with
  | clause kind read =>
    cases second with
    | clause kind' read' =>
      cases kind.symm.trans kind'
      cases read.symm.trans read'
      rfl
    | reference kind' => cases kind.symm.trans kind'
  | reference kind denoted expression outlined below ih =>
    cases second with
    | clause kind' => cases kind.symm.trans kind'
    | reference kind' denoted' expression' outlined' below' =>
      cases denoted.symm.trans denoted'
      cases expression.symm.trans expression'
      cases outlined.symm.trans outlined'
      rw [ih below']
  | not below ih =>
    cases second with
    | not below' => rw [ih below']
  | and onLeft onRight ihLeft ihRight =>
    cases second with
    | and onLeft' onRight' => rw [ihLeft onLeft', ihRight onRight']
  | or onLeft onRight ihLeft ihRight =>
    cases second with
    | or onLeft' onRight' => rw [ihLeft onLeft', ihRight onRight']

/-- A written text has the meaning that a reference finds for it. -/
inductive Means (w : Written) : Meaning → Prop where
  | name {m : Meaning} (known : w.meaning? = some m) : Means w m
  | type (unknown : w.meaning? = none)
      (free : Pointcut.isParameterName (String.ofList w.text) = false)
      (typed : Pointcut.isTypeText w.text = true) : Means w (.type (String.ofList w.text))

/-- A scope holds the meanings of the texts of a replacement, under the same names. -/
def Agrees (r : Replacement) (scope : Scope) : Prop :=
  List.Forall₂ (fun replaced named => replaced.1 = named.1 ∧ Means replaced.2 named.2) r scope

/-- An object test for a meaning. -/
def subjectOf : Meaning → Subject
  | .parameter b => .bound b
  | .type text => .type ⟨text⟩

/-- An annotation test for a meaning. -/
def annotatedOf : Meaning → AnnotationPattern
  | .parameter b => ⟨b.declaredType.name, some b.name⟩
  | .type text => ⟨text, none⟩

variable {scope : Scope} {w : Written} {m : Meaning}

/-- A text is looked up without an error unless it can only be a name and is none. -/
theorem lookup_eq_ok {text : String} {found : Option Meaning} :
    scope.lookup text = .ok found ↔
      scope.meaning? text = found ∧ (found = none → Pointcut.isParameterName text = false) := by
  unfold Scope.lookup
  cases known : scope.meaning? text with
  | some m =>
    simp only [Except.ok.injEq]
    constructor
    · rintro rfl
      exact ⟨rfl, nofun⟩
    · exact And.left
  | none =>
    cases Pointcut.isParameterName text with
    | true =>
      simp only [↓reduceIte, reduceCtorEq, false_iff]
      rintro ⟨rfl, free⟩
      cases free rfl
    | false =>
      simp only [Bool.false_eq_true, ↓reduceIte, Except.ok.injEq]
      exact ⟨fun same => ⟨same, fun _ => trivial⟩, And.left⟩

theorem meaning_eq_ok {text : String} {found : Option Meaning} :
    ClauseSpec.meaning scope text = .ok found ↔ scope.lookup text = .ok found := by
  unfold ClauseSpec.meaning
  cases scope.lookup text <;> simp [Except.mapError]

/-- A text that is looked up means what is found, or is a type pattern. -/
theorem means_of_lookup {text : List Char} {found : Option Meaning}
    (read : scope.lookup (String.ofList text) = .ok found)
    (typed : found = none → Pointcut.isTypeText text = true) :
    Means ⟨text, scope⟩ (found.getD (.type (String.ofList text))) := by
  obtain ⟨known, free⟩ := lookup_eq_ok.mp read
  cases found with
  | some m => exact .name known
  | none => exact .type known (free rfl) (typed rfl)

/-- What a written text is looked up as. -/
theorem lookup_of_means (means : Means w m) : ∃ found,
    w.scope.lookup (String.ofList w.text) = .ok found ∧ found.getD (.type (String.ofList w.text)) = m := by
  cases means with
  | name known => exact ⟨some m, lookup_eq_ok.mpr ⟨known, nofun⟩, rfl⟩
  | type unknown free typed => exact ⟨none, lookup_eq_ok.mpr ⟨unknown, fun _ => free⟩, rfl⟩

/-- An object test reads a text as what it is looked up as. -/
theorem readSubject_eq_ok {text : String} {subject : Subject} :
    ClauseSpec.readSubject scope text = .ok subject ↔
      ∃ found, scope.lookup text = .ok found ∧ subjectOf (found.getD (.type text)) = subject := by
  unfold ClauseSpec.readSubject
  rw [map_eq_ok]
  refine exists_congr fun found => and_congr meaning_eq_ok ?_
  rcases found with _ | (b | passed) <;> rfl

theorem readAnnotated_eq_ok {text : String} {pattern : AnnotationPattern} :
    ClauseSpec.readAnnotated scope text = .ok pattern ↔
      ∃ found, scope.lookup text = .ok found ∧ annotatedOf (found.getD (.type text)) = pattern := by
  unfold ClauseSpec.readAnnotated
  rw [map_eq_ok]
  refine exists_congr fun found => and_congr meaning_eq_ok ?_
  rcases found with _ | (b | passed) <;> rfl

/-- An item that is no wildcard is read as what it is looked up as, if that can be a type. -/
theorem readArg_eq_ok {item : List Char} {arg : ArgPattern} (several : item ≠ ['.', '.'])
    (single : item ≠ ['*']) :
    ClauseSpec.readArg scope item = .ok arg ↔
      ∃ found, scope.lookup (String.ofList item) = .ok found ∧
        (found = none → Pointcut.isTypeText item = true) ∧
        itemOf (subjectOf (found.getD (.type (String.ofList item)))) = arg := by
  unfold ClauseSpec.readArg
  simp only [beq_iff_eq, several, single, ↓reduceIte]
  cases read : ClauseSpec.meaning scope (String.ofList item) with
  | error fault =>
    simp only [reduceCtorEq, false_iff, not_exists]
    rintro found ⟨known, -⟩
    cases read.symm.trans (meaning_eq_ok.mpr known)
  | ok found =>
    rw [meaning_eq_ok.mp read]
    rcases found with _ | (b | passed)
    · by_cases typed : Pointcut.isTypeText item = true <;> simp [typed, subjectOf, itemOf]
    · simp [subjectOf, itemOf]
    · simp [subjectOf, itemOf]

theorem subject_of_means (means : Means w m) : w.subject = .ok (subjectOf m) := by
  obtain ⟨found, read, rfl⟩ := lookup_of_means means
  exact readSubject_eq_ok.mpr ⟨found, read, rfl⟩

theorem annotated_of_means (means : Means w m) : w.annotated = .ok (annotatedOf m) := by
  obtain ⟨found, read, rfl⟩ := lookup_of_means means
  exact readAnnotated_eq_ok.mpr ⟨found, read, rfl⟩

/-- Items of argument lists that fit the same arguments and bind the same. -/
inductive AlikeItem : ArgPattern → ArgPattern → Prop where
  | refl (item : ArgPattern) : AlikeItem item item
  | star : AlikeItem (.type .any) .any

/-- A passed text fits and binds as its meaning does. -/
theorem argument_of_means (means : Means w m) :
    ∃ item, w.argument = .ok item ∧ AlikeItem (itemOf (subjectOf m)) item := by
  unfold Written.argument
  split
  · rw [subject_of_means means]
    exact ⟨_, rfl, .refl _⟩
  · rename_i plain
    simp only [Bool.or_eq_true, beq_iff_eq, not_or, Option.not_isSome_iff_eq_none] at plain
    cases means with
    | name known => cases plain.1.symm.trans known
    | type unknown free typed =>
      by_cases star : w.text = ['*']
      · rw [star]
        exact ⟨.any, rfl, .star⟩
      · have read := lookup_eq_ok.mpr ⟨unknown, fun _ => free⟩
        exact ⟨_, (readArg_eq_ok plain.2 star).mpr ⟨none, read, fun _ => typed, rfl⟩, .refl _⟩

/-- A name is replaced exactly if it is in scope, and by a text of its meaning. -/
theorem lookup_of_agrees (agrees : Agrees r scope) (name : String) :
    (r.text? name = none ∧ scope.meaning? name = none) ∨
      ∃ w m, r.text? name = some w ∧ scope.meaning? name = some m ∧ Means w m := by
  unfold Replacement.text? Scope.meaning?
  have backwards := List.forall₂_reverse_iff.mpr agrees
  generalize r.reverse = replaced at backwards ⊢
  generalize scope.reverse = named at backwards ⊢
  induction backwards with
  | nil => exact .inl ⟨rfl, rfl⟩
  | @cons replaced named rest others related _ ih =>
    -- both lists are searched from the end, and they hold the same names in the same places
    obtain ⟨same, means⟩ := related
    by_cases here : named.1 = name
    · refine .inr ⟨replaced.2, named.2, ?_, ?_, means⟩ <;> simp [same, here]
    · simpa [same, here] using ih

/-- What a text of an expression means in scope, its replacement means as well. -/
theorem means_place (agrees : Agrees r scope) {text : List Char} (means : Means ⟨text, scope⟩ m) :
    Means (r.place text) m := by
  unfold Replacement.place
  rcases lookup_of_agrees agrees (String.ofList text) with ⟨kept, unknown⟩ | ⟨w, n, replaced, known, same⟩
  · rw [kept, Option.getD_none]
    cases means with
    | name known => cases known.symm.trans unknown
    | type _ free typed => exact .type rfl free typed
  · rw [replaced, Option.getD_some]
    cases means with
    | name known' =>
      cases known.symm.trans known'
      exact same
    | type unknown => cases known.symm.trans unknown

/-- The alignment depends on the patterns only through what they stand for and accept. -/
theorem alignFrom_congr {π ρ : Type} {isRest : π → Bool} {isRest' : ρ → Bool}
    {accepts : π → Nat → Bool} {accepts' : ρ → Nat → Bool} {stop : Nat} {ps : List π} {qs : List ρ}
    (alike : List.Forall₂ (fun p q => isRest p = isRest' q ∧ ∀ i, accepts p i = accepts' q i) ps qs)
    (start : Nat) :
    Matching.alignFrom isRest accepts stop start ps =
      Matching.alignFrom isRest' accepts' stop start qs := by
  induction alike generalizing start with
  | nil => rfl
  | cons related _ ih =>
    obtain ⟨sameRest, sameTest⟩ := related
    simp only [Matching.alignFrom, sameRest, sameTest, ih]

theorem isRest_of_alike {a b : ArgPattern} (alike : AlikeItem a b) : a.isRest = b.isRest := by
  cases alike <;> rfl

theorem admits_of_alike {a b : ArgPattern} (alike : AlikeItem a b) (t : HostType) :
    a.admits t = b.admits t := by
  cases alike with
  | refl => rfl
  | star => exact TypePattern.any_fitsHierarchy t

theorem source?_of_alike {a b : ArgPattern} (alike : AlikeItem a b) : a.source? = b.source? := by
  cases alike <;> rfl

/-- Items that are alike bind the same at the same places. -/
theorem sources_of_alike {items others : List ArgPattern} (alike : List.Forall₂ AlikeItem items others)
    (places : List (Option Nat)) :
    List.zipWith ArgPattern.source? items places = List.zipWith ArgPattern.source? others places := by
  induction alike generalizing places with
  | nil => rfl
  | cons related _ ih =>
    cases places with
    | nil => rfl
    | cons place rest =>
      rw [List.zipWith_cons_cons, List.zipWith_cons_cons, source?_of_alike related, ih rest]

/-- Lists of items that are alike fit the same parameter types and bind the same. -/
theorem match?_of_alike {items others : List ArgPattern} (alike : List.Forall₂ AlikeItem items others)
    (types : List HostType) : ArgPattern.match? items types = ArgPattern.match? others types := by
  unfold ArgPattern.match?
  have aligned : ∀ start, Matching.alignFrom ArgPattern.isRest (fun a i => types[i]?.any a.admits)
      types.length start items = Matching.alignFrom ArgPattern.isRest
        (fun a i => types[i]?.any a.admits) types.length start others := by
    refine alignFrom_congr (alike.imp fun a b related => ⟨isRest_of_alike related, fun i => ?_⟩)
    rw [funext (admits_of_alike related)]
  rw [Matching.align_eq, Matching.align_eq, aligned]
  simp only [sources_of_alike alike]

/-- An item of an argument list, replaced, is alike. -/
theorem argument_of_agrees (agrees : Agrees r scope) {item : List Char} {arg : ArgPattern}
    (made : ClauseSpec.readArg scope item = .ok arg) :
    ∃ other, r.argument item = .ok other ∧ AlikeItem arg other := by
  unfold Replacement.argument
  by_cases several : item = ['.', '.']
  · subst several
    exact ⟨arg, made, .refl _⟩
  · by_cases star : item = ['*']
    · subst star
      exact ⟨arg, made, .refl _⟩
    · obtain ⟨found, read, typed, rfl⟩ := (readArg_eq_ok several star).mp made
      simp only [beq_iff_eq, several, star, ↓reduceIte]
      exact argument_of_means (means_place agrees (means_of_lookup read typed))

/-- The items of an argument list, replaced, are alike. -/
theorem items_of_agrees (agrees : Agrees r scope) {items : List (List Char)} {args : List ArgPattern}
    (made : ClauseSpec.readArgs scope items = .ok args) :
    ∃ others, collect r.argument items = .ok others ∧ List.Forall₂ AlikeItem args others := by
  induction items generalizing args with
  | nil =>
    cases made
    exact ⟨[], rfl, .nil⟩
  | cons item rest ih =>
    unfold ClauseSpec.readArgs at made
    split at made
    · cases made
    · rename_i arg first
      obtain ⟨later, behind, rfl⟩ := map_eq_ok.mp made
      obtain ⟨others, found, alike⟩ := ih behind
      obtain ⟨other, read, related⟩ := argument_of_agrees agrees first
      refine ⟨other :: others, ?_, .cons related alike⟩
      simp only [collect, read, found, Except.map]

/-- A body is a single text if it can be a type. -/
theorem single_eq_ok {body text : String} :
    ClauseSpec.single body = .ok text ↔ Pointcut.isTypeText body.toList = true ∧ body = text := by
  unfold ClauseSpec.single
  split
  · rename_i empty
    simp [Pointcut.isTypeText, String.isEmpty_iff.mp empty]
  · split
    · rename_i typed
      simp [typed]
    · rename_i other
      simp [other]

/-- What the only text of a body is looked up as is what it means. -/
theorem means_of_single {body text : String} {found : Option Meaning}
    (alone : ClauseSpec.single body = .ok text) (read : scope.lookup text = .ok found) :
    Means ⟨text.toList, scope⟩ (found.getD (.type text)) := by
  obtain ⟨typed, rfl⟩ := single_eq_ok.mp alone
  rw [← String.ofList_toList (s := body)] at read
  simpa using means_of_lookup read fun _ => typed

/-- A clause, replaced, tests the same and binds the same. -/
theorem read_of_agrees (agrees : Agrees r scope) {body : String} {d : Designator} {spec : ClauseSpec}
    (made : ClauseSpec.read scope body d = .ok spec) (text : String) :
    ∃ replaced, r.read body d = .ok replaced ∧ Alike (.leaf ⟨text, spec⟩) (.leaf ⟨text, replaced⟩) := by
  cases d with
  | execution => exact ⟨spec, made, alike_refl _⟩
  | within => exact ⟨spec, made, alike_refl _⟩
  | object role =>
    cases alone : ClauseSpec.single body with
    | error fault => simp [ClauseSpec.read, alone] at made
    | ok name =>
      simp only [ClauseSpec.read, Replacement.read, alone] at made ⊢
      obtain ⟨subject, named, rfl⟩ := map_eq_ok.mp made
      obtain ⟨found, read, rfl⟩ := readSubject_eq_ok.mp named
      have kept := subject_of_means (means_place agrees (means_of_single alone read))
      exact ⟨_, map_eq_ok.mpr ⟨_, kept, rfl⟩, alike_refl _⟩
  | args =>
    obtain ⟨items, listed, rfl⟩ := map_eq_ok.mp made
    obtain ⟨others, read, alike⟩ := items_of_agrees agrees listed
    refine ⟨.args others, map_eq_ok.mpr ⟨others, read, rfl⟩, fun c => ?_, fun _ => rfl⟩
    exact match?_of_alike alike _
  | annotated site =>
    cases alone : ClauseSpec.single body with
    | error fault => simp [ClauseSpec.read, alone] at made
    | ok name =>
      simp only [ClauseSpec.read, Replacement.read, alone] at made ⊢
      obtain ⟨pattern, named, rfl⟩ := map_eq_ok.mp made
      obtain ⟨found, read, rfl⟩ := readAnnotated_eq_ok.mp named
      have kept := annotated_of_means (means_place agrees (means_of_single alone read))
      exact ⟨_, map_eq_ok.mpr ⟨_, kept, rfl⟩, alike_refl _⟩

/-- What a reference finds for a text that it passes is what the text means. -/
theorem means_of_passedMeaning {raw : RawClause} {expression : String} {text : List Char}
    (made : raw.passedMeaning expression scope text = .ok m) : Means ⟨text, scope⟩ m := by
  unfold RawClause.passedMeaning at made
  split at made
  · cases made
  · rename_i meaning read
    cases made
    exact means_of_lookup read nofun
  · rename_i read
    split at made
    · rename_i typed
      cases made
      exact means_of_lookup read fun _ => typed
    · cases made

/-- The scope of an expansion holds the meanings of the texts that are passed. -/
theorem agrees_of_passAll {p : NamedPointcut} {raw : RawClause} {expression : String} {inner : Scope}
    {written : List Char → Written}
    (same : ∀ text m, Means ⟨text, scope⟩ m → Means (written text) m)
    (made : raw.passAll expression scope (p.parameterNames.zip (Text.items raw.body.toList)) = .ok inner) :
    Agrees (.passed p raw written) inner := by
  have each := collect_eq_ok.mp made
  rw [← List.forall₂_eq_eq_eq, List.forall₂_map_left_iff, List.forall₂_map_right_iff] at each
  unfold Replacement.passed
  rw [List.zip_map_right]
  refine List.forall₂_map_left_iff.mpr (each.imp ?_)
  rintro ⟨name, text⟩ named read
  obtain ⟨m, found, rfl⟩ := map_eq_ok.mp read
  exact ⟨rfl, same text m (means_of_passedMeaning found)⟩

theorem alike_not {f g : Formula Clause} (alike : Alike f g) : Alike f.not g.not where
  matches? c := by simp only [Formula.match?, alike.matches?]
  coarse _ := rfl

theorem alike_and {f g f' g' : Formula Clause} (onLeft : Alike f g) (onRight : Alike f' g') :
    Alike (f.and f') (g.and g') where
  matches? c := by simp only [Formula.match?, onLeft.matches?, onRight.matches?]
  coarse t := by simp only [Formula.couldMatch, onLeft.coarse, onRight.coarse]

theorem alike_or {f g f' g' : Formula Clause} (onLeft : Alike f g) (onRight : Alike f' g') :
    Alike (f.or f') (g.or g') where
  matches? c := by simp only [Formula.match?, onLeft.matches?, onRight.matches?]
  coarse t := by simp only [Formula.couldMatch, onLeft.coarse, onRight.coarse]

/-- Standing for a formula up to what it matches is handed on by the connectives. -/
theorem congruent_stands : Grammar.Congruent fun f shape => ∃ g, Stands ctx r shape g ∧ Alike f g where
  not := by
    rintro f shape ⟨g, stands, alike⟩
    exact ⟨g.not, .not stands, alike_not alike⟩
  and := by
    rintro f shape f' shape' ⟨g, stands, alike⟩ ⟨g', stands', alike'⟩
    exact ⟨g.and g', .and stands stands', alike_and alike alike'⟩
  or := by
    rintro f shape f' shape' ⟨g, stands, alike⟩ ⟨g', stands', alike'⟩
    exact ⟨g.or g', .or stands stands', alike_or alike alike'⟩

/-- A formula that matches like what an expression stands for with the texts replaced. -/
def Substituted (ctx : PointcutContext) (r : Replacement) (expression : String) (f : Formula Clause) :
    Prop :=
  ∃ shape g, outline expression = .ok shape ∧ Stands ctx r shape g ∧ Alike f g

/-- An expression whose clauses all match like what they stand for does so as a whole. -/
theorem substituted_of_clauses {active : List String} {expression : String} {tokens : List Token}
    {f : Formula Clause}
    (clauses : ∀ raw f, Pointcut.readClause ctx active scope expression raw = .ok f →
      ∃ g, Stands ctx r (.leaf raw) g ∧ Alike f g)
    (expanded : Pointcut.expand ctx active scope expression = .ok (tokens, f)) :
    Substituted ctx r expression f := by
  obtain ⟨scanned, filled, read⟩ := Pointcut.expand_eq_ok.mp expanded
  obtain ⟨shape, outlined, g, stands, alike⟩ :=
    Grammar.formula_related congruent_stands
      (fun raw f made => ⟨.leaf raw, rfl, clauses raw f made⟩) read
  refine ⟨shape, g, ?_, stands, alike⟩
  unfold outline
  rw [scanned]
  cases tokens with
  | nil => cases filled rfl
  | cons first rest => exact (congrArg (Except.mapError _) outlined).trans rfl

/-- Parsing in a scope is replacing the names of the scope by texts of the same meanings, and reading
what comes out in no scope at all. The induction is on the nesting of the expansions. -/
theorem expand_substituted {active : List String} {expression : String} {tokens : List Token}
    {f : Formula Clause} (agrees : Agrees r scope)
    (expanded : Pointcut.expand ctx active scope expression = .ok (tokens, f)) :
    Substituted ctx r expression f := by
  induction active, scope, expression using Pointcut.expand_induction generalizing r tokens f with
  | step active scope expression ih =>
    refine substituted_of_clauses ?_ expanded
    intro raw f made
    rcases Pointcut.readClause_eq_ok.mp made with
      ⟨d, clause, kind, test, rfl⟩ | ⟨inner, tokens, body, kind, entered, found, rfl⟩
    · obtain ⟨spec, understood, rfl⟩ := RawClause.toClause_eq_ok.mp test
      obtain ⟨replaced, same, alike⟩ := read_of_agrees agrees understood raw.text
      exact ⟨_, .clause kind same, alike⟩
    · obtain ⟨p, denoted, -, named, -, passed⟩ := RawClause.expansion_eq_ok.mp entered
      have handed : Agrees (.passed p raw r.place) inner.val.scope :=
        agrees_of_passAll (fun _ _ => means_place agrees) passed
      obtain ⟨shape, g, outlined, stands, alike⟩ := ih inner inner.property handed found
      exact ⟨_, .reference kind denoted named outlined stands, alike.matches?, alike.coarse⟩

/-- The named pointcuts of an aspect, as methods without parameters that list the names of theirs. -/
def pointcut (name argNames value : String) : Declaration HostType :=
  ⟨name, .bare "void", [], [.isPublic],
    [⟨"Pointcut", [("value", .text value), ("argNames", .text argNames)]⟩]⟩

/-- An aspect whose `posted` hands its parameter on to `writes` under another name, whose `inside`
names a type for `within`, and whose `calls` has a parameter for a whole argument list. -/
def ledger : HostType :=
  .mk "demo.Ledger" 1 [⟨"Aspect", []⟩] []
    [pointcut "writes" "it, other" "args(it, other)",
      pointcut "posted" "entry" "writes(entry, *) && target(demo.Service)",
      pointcut "inside" "t" "within(t)",
      pointcut "calls" "x" "args(x)"]

/-- What the expressions of an advice method of the aspect are parsed in. -/
def advising : PointcutContext where
  aspect := some ledger
  parameters := [⟨"item", .bare "demo.Item"⟩]

/-- A service that posts an item with a note, and can be asked to stop. -/
def service : HostType :=
  .mk "demo.Service" 2 [] []
    [⟨"post", .bare "void", [⟨"a", .bare "demo.Item", []⟩, ⟨"b", .bare "java.lang.String", []⟩],
        [.isPublic], []⟩,
      ⟨"stop", .bare "void", [], [.isPublic], []⟩]

/-- Stops the service. -/
def stop : Method :=
  ⟨some service, ⟨"stop", .bare "void", [], [.isPublic], []⟩⟩

/-- The reference `posted(item)`. -/
def posting : RawClause := ⟨"posted", .reference, "item"⟩

/-- What an expression without parameters matches of a method, if it is accepted. -/
def matchOf (expression : String) (m : Method) : Option (Option Sources) :=
  (Pointcut.parse { advising with parameters := [] } expression).toOption.map (·.match? (.own m))

end Crosscut.Substitution
