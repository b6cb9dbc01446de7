import Crosscut.Proofs.Commits
import Crosscut.Proofs.MethodIdentity

/-! Every method has a place of its own among the shadows of a matcher. The shadows are kept by the
texts of identities, and a text could stand for more than one method. Where names are plain it does
not: it tells the name of the declaring type, the name of the method and the names of the parameter
types, and types are told apart by their names. So a lookup finds what was last committed for the
method itself, and the matches of an overload or of another type's method never take its place. -/
namespace Crosscut.ShadowsByMethod
open Commits MethodIdentity

variable {matcher : Matcher} {commits later : List Commit} {m other : Method} {result : MatchResult}

/-- What was last committed under the text of an identity was last committed for the method. -/
theorem last?_eq_some_iff (plain : ∀ commit ∈ commits, Plain commit.1) (plainOwn : Plain m)
    {shadow : Shadow} :
    last? commits m.key = some shadow ↔ LeftBy commits (identity · = identity m) shadow := by
  have agree : ∀ commit ∈ commits, (commit.1.key = m.key ↔ identity commit.1 = identity m) :=
    fun commit member => key_eq_iff (plain commit member) plainOwn
  rw [last?_eq_some]
  constructor
  · exact fun left => left.of_agreeing agree
  · exact fun left => left.of_agreeing fun commit member => (agree commit member).symm

theorem last?_eq_none_iff (plain : ∀ commit ∈ commits, Plain commit.1) (plainOwn : Plain m) :
    last? commits m.key = none ↔
      ∀ commit ∈ commits, commit.2.matched = true → identity commit.1 ≠ identity m := by
  rw [last?_eq_none]
  refine forall₂_congr fun commit member => ?_
  rw [Ne, key_eq_iff (plain commit member) plainOwn]

/-- A commit that is repeated changes nothing, unless another match has been committed for the same
method in between. -/
theorem choose_again (plain : ∀ commit ∈ later, Plain commit.1) (plainOther : Plain other)
    (apart : ∀ commit ∈ later, commit.2.matched = true → identity commit.1 ≠ identity other) :
    (commitAll matcher (commits ++ (other, result) :: later)).choose other result =
      commitAll matcher (commits ++ (other, result) :: later) := by
  cases matched : result.matched with
  | false => exact Matcher.choose_of_unmatched _ other matched
  | true =>
    have last : last? (commits ++ (other, result) :: later) other.key = some result.shadow := by
      refine last?_eq_some.mpr ⟨commits, other, result, later, rfl, matched, rfl, rfl, ?_⟩
      intro commit member successful same
      exact apart commit member successful ((key_eq_iff (plain commit member) plainOther).mp same)
    apply Matcher.choose_of_kept
    rw [shadow?_commitAll, last, Option.some_or]

/-- A commit for one method leaves the shadows of the others as they are. -/
theorem shadow?_choose_apart (plainOwn : Plain m) (plainOther : Plain other)
    (apart : identity other ≠ identity m) :
    (matcher.choose other result).shadow? m = matcher.shadow? m := by
  rw [Matcher.shadow?_choose, if_neg]
  rintro ⟨-, same⟩
  exact apart ((key_eq_iff plainOwn plainOther).mp same).symm

/-- Methods with plain names have the same key exactly when they agree in the name of the declaring
type, the name and the names of the parameter types. After any commits for such methods on a new
matcher, a method has the shadow of the last match that was committed for a method with its names, and
none if there is no such match. A further commit changes nothing if its result is no match, or if it
repeats one after which no other match was committed for its method, and it never changes the shadow
of a method with other names. -/
theorem each_method_has_its_last_match {ctx : PointcutContext} {expression : String}
    (parsed : Matcher.parse ctx expression = .ok matcher)
    (plain : ∀ commit ∈ commits, Plain commit.1) (plainOwn : Plain m) (plainOther : Plain other) :
    (other.key = m.key ↔ other.declaringName = m.declaringName ∧ other.name = m.name ∧
        other.parameterTypes = m.parameterTypes) ∧
      (∀ shadow, (commitAll matcher commits).shadow? m = some shadow ↔
        LeftBy commits (identity · = identity m) shadow) ∧
      ((commitAll matcher commits).shadow? m = none ↔
        ∀ commit ∈ commits, commit.2.matched = true → identity commit.1 ≠ identity m) ∧
      ∀ result,
        (result.matched = false →
          (commitAll matcher commits).choose other result = commitAll matcher commits) ∧
        (identity other ≠ identity m →
          ((commitAll matcher commits).choose other result).shadow? m =
            (commitAll matcher commits).shadow? m) ∧
        ∀ later, (∀ commit ∈ later, Plain commit.1) →
          (∀ commit ∈ later, commit.2.matched = true → identity commit.1 ≠ identity other) →
          (commitAll matcher (commits ++ (other, result) :: later)).choose other result =
            commitAll matcher (commits ++ (other, result) :: later) := by
  refine ⟨?_, ?_, ?_, fun result => ⟨?_, ?_, ?_⟩⟩
  · rw [key_eq_iff plainOther plainOwn]
    simp only [identity, Prod.mk.injEq]
  · intro shadow
    rw [shadow?_of_parse parsed]
    exact last?_eq_some_iff plain plainOwn
  · rw [shadow?_of_parse parsed]
    exact last?_eq_none_iff plain plainOwn
  · exact Matcher.choose_of_unmatched _ other
  · exact shadow?_choose_apart plainOwn plainOther
  · exact fun later plainLater => choose_again plainLater plainOther

/-- The declaration of a method that posts an entry, or nothing. -/
def posted (entry : List String) : Declaration HostType :=
  ⟨"post", .bare "void", entry.map fun type => ⟨"entry", .bare type, []⟩, [.isPublic], []⟩

def ledger : HostType :=
  .mk "demo.Ledger" 1 [] [] [posted [], posted ["java.lang.String"]]

def journal : HostType :=
  .mk "demo.Journal" 2 [] [] [posted ["java.lang.String"]]

def ledgerPost : Method :=
  ⟨some ledger, posted ["java.lang.String"]⟩

/-- The overload without an entry. -/
def ledgerTick : Method :=
  ⟨some ledger, posted []⟩

def journalPost : Method :=
  ⟨some journal, posted ["java.lang.String"]⟩

def posting : PointcutContext where
  parameters := [⟨"entry", .bare "java.lang.String"⟩]

/-- The entry that the ledger posts is the first argument. -/
def ledgerEntry : Shadow :=
  ⟨⟨"demo.Ledger.post(java.lang.String)"⟩, [("entry", .argument 0)]⟩

/-- For the method of the ledger, the match of another type's method is committed and then its own;
after that a match for the other type, and an overload that does not match. The method has its own
match, whatever is committed for the overload, and the overload has none. -/
theorem ledger_keeps_its_own_match :
    ∃ matcher commits, Matcher.parse posting "args(entry)" = .ok matcher ∧
      commits = [(ledgerPost, matcher.matchOwn journalPost),
        (ledgerPost, matcher.matchOwn ledgerPost), (journalPost, matcher.matchOwn journalPost),
        (ledgerTick, matcher.matchOwn ledgerTick)] ∧
      (∀ commit ∈ commits, Plain commit.1) ∧ Plain ledgerPost ∧ Plain ledgerTick ∧
      ledgerTick.key ≠ ledgerPost.key ∧
      (commitAll matcher commits).shadow? ledgerPost = some ledgerEntry ∧
      (commitAll matcher commits).shadow? ledgerTick = none ∧
      ∀ result, ((commitAll matcher commits).choose ledgerTick result).shadow? ledgerPost =
        some ledgerEntry := by
  have seen : (Matcher.parse posting "args(entry)").toOption.map (fun matcher =>
      (matcher.matchOwn ledgerPost, (matcher.matchOwn ledgerTick).matched)) =
      some (⟨true, ledgerEntry⟩, false) := by
    decide +kernel
  obtain ⟨matcher, parsed, found⟩ := exists_ok_of_map seen
  obtain ⟨own, missed⟩ := Prod.mk.inj found
  let commits : List Commit := [(ledgerPost, matcher.matchOwn journalPost),
    (ledgerPost, matcher.matchOwn ledgerPost), (journalPost, matcher.matchOwn journalPost),
    (ledgerTick, matcher.matchOwn ledgerTick)]
  have plainPost : Plain ledgerPost := by decide +kernel
  have plainTick : Plain ledgerTick := by decide +kernel
  have plainJournal : Plain journalPost := by decide +kernel
  have plain : ∀ commit ∈ commits, Plain commit.1 := by
    simp [commits, plainPost, plainTick, plainJournal]
  have otherType : identity journalPost ≠ identity ledgerPost := by decide +kernel
  have overload : identity ledgerTick ≠ identity ledgerPost := by decide +kernel
  have otherBoth : identity journalPost ≠ identity ledgerTick := by decide +kernel
  obtain ⟨keys, lookup, -, further⟩ := each_method_has_its_last_match parsed plain plainPost plainTick
  obtain ⟨-, -, absent, -⟩ := each_method_has_its_last_match parsed plain plainTick plainPost
  have kept : (commitAll matcher commits).shadow? ledgerPost = some ledgerEntry := by
    apply (lookup ledgerEntry).mpr
    refine ⟨[(ledgerPost, matcher.matchOwn journalPost)], ledgerPost, matcher.matchOwn ledgerPost, _,
      rfl, ?_, rfl, ?_, ?_⟩
    · rw [own]
    · rw [own]
    · simp [otherType, missed]
  refine ⟨matcher, commits, parsed, rfl, plain, plainPost, plainTick, ?_, kept, ?_, ?_⟩
  · intro same
    exact overload (by simp [identity, keys.mp same])
  · apply absent.mpr
    simp [commits, overload.symm, otherBoth, missed]
  · intro result
    rw [(further result).2.1 overload, kept]

end Crosscut.ShadowsByMethod
