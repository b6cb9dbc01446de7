import Crosscut.Matching.Clause
import Crosscut.Proofs.SignatureTexts
import Crosscut.Proofs.WildcardPieces

/-! Names behind a declaring part. A signature is matched in two halves, cut at the last dot: the
declaring type against the type of a method, and the name against its name. On a type without
supertypes this is as good as one wildcard pattern for the dotted name of the method, because a name
holds no dot and the cut can only fall where the last dot of the text is. The pattern is the written
one unless two dots stand in front of the name: then a star stands between them. -/
namespace Crosscut.QualifiedNames
open Wildcard WildcardPieces TextLists SignatureTexts

variable {before name : List Char}

/-! ### What a signature asks -/

/-- What a signature asks of a method besides its name and the type that declares it. -/
structure OthersFit (s : SignaturePattern) (m : Method) : Prop where
  modifiers : ∀ modifier ∈ s.modifiers, modifier ∈ m.modifiers
  returns : s.returns.fits m.returns = true
  params : s.fitsParams (m.parameters.map (·.type)) = true

/-- Nothing is asked but a name behind a declaring part. -/
structure Unconstrained (p : Parts) : Prop where
  modifiers : p.modifiers = []
  returns : p.returns = ['*']
  params : p.params = [['.', '.']]

/-- The declaring part and the name as one pattern for dotted names. A plus sign that ends the
declaring part belongs to neither. -/
def wholeName (before name : List Char) : List Element :=
  if before.getLast? = some '+' then elements before.dropLast ++ .exactly '.' :: elements name
  else elements (before ++ '.' :: name)

/-- The dotted name of a method of a type. -/
def dotted (t : HostType) (m : Method) : List Char :=
  t.name.toList ++ '.' :: m.name.toList

variable {s : SignaturePattern} {m : Method} {t : HostType} {p : Parts}

theorem any_fits (t : HostType) : TypePattern.any.fits t = true :=
  afterRun_iff.mpr
    ⟨Text.afterLast '.' t.name.toList, [], (List.append_nil _).symm, Text.not_mem_afterLast _ _, rfl⟩

theorem rest_fitsParams (free : s.params = [.rest]) (types : List HostType) :
    s.fitsParams types = true := by
  simp [SignaturePattern.fitsParams, free, Matching.align_eq, Matching.alignFrom]

theorem othersFit_of_unconstrained (free : Unconstrained p) (m : Method) :
    OthersFit p.signature m where
  modifiers := by simp [Parts.signature, free.modifiers]
  returns := by
    have star : p.signature.returns = .any := by simp [Parts.signature, free.returns]; rfl
    rw [star]
    exact any_fits m.returns
  params := rest_fitsParams (by simp [Parts.signature, free.params, paramPattern]) _

/-- Only a type itself is in the hierarchy of a type without supertypes. -/
theorem fitsHierarchy_flat (flat : t.supertypes = []) (pattern : TypePattern) :
    pattern.fitsHierarchy t = pattern.fitsName t.name := by
  rw [TypePattern.fitsHierarchy, HostType.anyName_eq, HostType.hierarchy_eq, flat]
  simp [TypePattern.fitsName]

theorem fits_iff (declares : m.declaring = some t) (flat : t.supertypes = [])
    {pattern : TypePattern} (asked : s.declaring = some pattern) :
    s.fits m = true ↔ OthersFit s m ∧ pattern.fitsName t.name = true ∧ s.name.fits m.name = true := by
  simp only [SignaturePattern.fits, declares, asked, Option.all_some, Option.any_some,
    fitsHierarchy_flat flat, Bool.and_eq_true, List.all_eq_true, List.contains_iff_mem]
  constructor
  · rintro ⟨⟨⟨⟨modifiers, named⟩, returns⟩, fits⟩, params⟩
    exact ⟨⟨modifiers, returns, params⟩, fits, named⟩
  · rintro ⟨others, fits, named⟩
    exact ⟨⟨⟨⟨others.modifiers, named⟩, others.returns⟩, fits⟩, others.params⟩

/-- Both halves of a qualified name fit exactly when the whole fits the dotted name of the method. -/
theorem halves_fit_iff (packaged : '.' ∈ before) (apart : before.getLast? ≠ some '.')
    (simple : '.' ∉ name) (plain : '.' ∉ m.name.toList) :
    ((⟨String.ofList before⟩ : TypePattern).fitsName t.name = true ∧
      (⟨String.ofList name⟩ : NamePattern).fits m.name = true) ↔
      accepts (wholeName before name) (dotted t m) = true := by
  -- The pattern of the declaring part without its plus sign, which holds a dot too.
  obtain ⟨body, shape, dot, whole⟩ : ∃ body, (⟨String.ofList before⟩ : TypePattern).body = body ∧
      '.' ∈ body ∧ wholeName before name = elements body ++ .exactly '.' :: elements name := by
    by_cases plus : before.getLast? = some '+'
    · obtain ⟨front, rfl⟩ := List.getLast?_eq_some_iff.mp plus
      refine ⟨front, by simp [TypePattern.body, TypePattern.admitsSubtypes], by simpa using packaged, ?_⟩
      simp [wholeName]
    · refine ⟨before, by simp [TypePattern.body, TypePattern.admitsSubtypes, plus], packaged, ?_⟩
      rw [wholeName, if_neg plus, elements_append_dot apart simple]
  have qualified : (⟨String.ofList before⟩ : TypePattern).isQualified = true := by
    rw [TypePattern.isQualified, shape]
    simpa using dot
  rw [whole, dotted, accepts_iff_pieced, pieced_last_dot simple plain, TypePattern.fitsName,
    NameTest.passes, TypePattern.nameTest, qualified, shape, if_pos rfl, NamePattern.fits, fits,
    String.toList_ofList, accepts_iff_pieced, accepts_iff_pieced]

theorem completed_apart (before : List Char) : (completed before).getLast? ≠ some '.' := by
  unfold completed
  split
  · simp
  · rename_i apart
    exact apart

theorem mem_completed (packaged : '.' ∈ before) : '.' ∈ completed before := by
  unfold completed
  split
  · simp [packaged]
  · exact packaged

/-- A clause with a qualified name matches exactly when its other parts fit and the completed whole
fits the dotted name of the method. -/
theorem match_iff_completed {raw : RawClause} {expression : String} {scope : Scope} {clause : Clause}
    {candidate : Candidate} (accepted : raw.toClause expression scope .execution = .ok clause)
    (written : Written p raw.body.toList) (declaring : p.declaring = some before)
    (packaged : '.' ∈ before) (declares : candidate.method.declaring = some t)
    (flat : t.supertypes = []) (plain : '.' ∉ candidate.method.name.toList) :
    (clause.match? candidate).isSome = true ↔ OthersFit p.signature candidate.method ∧
      accepts (wholeName (completed before) p.name) (dotted t candidate.method) = true := by
  have made : clause = ⟨raw.text, .execution p.signature⟩ := by
    obtain ⟨q, again, rfl⟩ := accepted_iff_written.mp accepted
    rw [parts_unique written again]
  have asked : p.signature.declaring = some ⟨String.ofList (completed before)⟩ := by
    simp [Parts.signature, declaring]
  have halves := halves_fit_iff (t := t) (mem_completed packaged) (completed_apart before)
    written.readable.simple plain
  rw [← halves, made]
  refine Iff.trans ?_ (fits_iff declares flat asked)
  simp [Clause.match?]

/-- On a type without supertypes, a clause with a qualified name matches exactly when its other
parts fit the method and the written name, as one pattern, fits the dotted name of the method. A plus
sign at the end of the declaring part asks for subtypes too and is left out of the pattern. Where two dots stand in front of the name this holds of the pattern with a star between them, which stands
for one segment: neither the package itself nor types further below it are reached. -/
theorem qualified_names_match_as_a_whole {raw : RawClause} {expression : String} {scope : Scope}
    {clause : Clause} {candidate : Candidate}
    (accepted : raw.toClause expression scope .execution = .ok clause)
    (written : Written p raw.body.toList) (declaring : p.declaring = some before)
    (packaged : '.' ∈ before) (declares : candidate.method.declaring = some t)
    (flat : t.supertypes = []) (plain : '.' ∉ candidate.method.name.toList) :
    (before.getLast? ≠ some '.' →
      ((clause.match? candidate).isSome = true ↔ OthersFit p.signature candidate.method ∧
        accepts (wholeName before p.name) (dotted t candidate.method) = true)) ∧
    (∀ package, before = package ++ ['.'] →
      ((clause.match? candidate).isSome = true ↔ OthersFit p.signature candidate.method ∧
        accepts (elements (package ++ ['.', '*', '.'] ++ p.name)) (dotted t candidate.method) = true)) ∧
    (Unconstrained p → OthersFit p.signature candidate.method) := by
  have matched := match_iff_completed accepted written declaring packaged declares flat plain
  refine ⟨fun apart => ?_, fun package shape => ?_, fun free => othersFit_of_unconstrained free _⟩
  · rwa [completed, if_neg apart] at matched
  · subst shape
    rw [completed, if_pos (by simp), wholeName, if_neg (by simp)] at matched
    simpa using matched

/-- A type with one method. -/
def posting (name : String) : HostType :=
  .mk name 0 [] [] [⟨"post", .bare "void", [], [], []⟩]

/-- The method of such a type. -/
def postOf (name : String) : Method :=
  ⟨some (posting name), ⟨"post", .bare "void", [], [], []⟩⟩

/-- A clause that asks for the method behind two dots. -/
def posts : RawClause :=
  ⟨"execution", .designator .execution, "* demo..post(..)"⟩

def postsParts : Parts :=
  ⟨[], ['*'], some "demo.".toList, "post".toList, [['.', '.']]⟩

def postsClause : Clause :=
  ⟨posts.text, .execution postsParts.signature⟩

theorem written_posts : Written postsParts posts.body.toList := by
  have front : Spaced postsParts.words "* demo..post".toList := words_eq_iff.mp (by decide)
  have listed : Listed postsParts.params ['.', '.'] := items_eq_iff.mp (by decide)
  exact .intro ⟨by decide, by decide, by decide, by decide⟩ front listed

theorem accepted_posts : posts.toClause "posts" [] .execution = .ok postsClause :=
  accepted_iff_written.mpr ⟨postsParts, written_posts, rfl⟩

theorem posts_match_one_segment_below :
    posts.toClause "posts" [] .execution = .ok postsClause ∧
    Written postsParts posts.body.toList ∧
    (postsClause.match? (.own (postOf "demo.Ledger"))).isSome = true := by
  have flat : (posting "demo.Ledger").supertypes = [] := rfl
  have declares : (Candidate.own (postOf "demo.Ledger")).method.declaring =
      some (posting "demo.Ledger") := rfl
  obtain ⟨-, starred, unconstrained⟩ := qualified_names_match_as_a_whole accepted_posts
    written_posts rfl (by decide) declares flat (by decide)
  refine ⟨accepted_posts, written_posts, (starred "demo".toList rfl).mpr ⟨?_, by decide⟩⟩
  exact unconstrained ⟨rfl, rfl, rfl⟩

/-- The written name fits a method two segments below the package, and the clause does not match
it. -/
theorem dots_before_a_name_do_not_reach_down :
    posts.toClause "posts" [] .execution = .ok postsClause ∧
    fits "demo..post" "demo.stock.Ledger.post" = true ∧
    (postsClause.match? (.own (postOf "demo.stock.Ledger"))).isSome = false :=
  ⟨accepted_posts, by decide, by decide⟩

end Crosscut.QualifiedNames
