import Crosscut.Matcher
import Crosscut.Proofs.Inheritance

/-! The coarse question about a type never loses a match. Each kind of clause is shown to answer
yes for a type as soon as it matches some candidate that the type offers; the connectives keep
this, a negation because it always answers yes. The argument needs one thing of the host: that the
types a clause looks at, the declaring type of a listed method and the type it is called on, lie in
the hierarchy that the coarse question sees. -/
namespace Crosscut.CoarseFilter
open Inheritance

/-- A candidate that a type offers: a method that can be called on the type, considered on the type
itself or on a type above it. -/
structure Offered (t : HostType) (c : Candidate) : Prop where
  listed : c.method ∈ t.methods
  below : ∀ s, c.target = some s → s ∈ t.hierarchy

/-- A listed method is offered on the type itself. -/
theorem offered_on {t : HostType} {m : Method} (listed : m ∈ t.methods) : Offered t (.on t m) where
  listed := listed
  below := by
    intro s same
    cases same
    exact t.self_mem_hierarchy

/-- A listed method is offered on the type that declares it. -/
theorem offered_own {t : HostType} {m : Method} (listed : m ∈ t.methods) : Offered t (.own m) where
  listed := listed
  below := by
    intro s same
    obtain ⟨declaring, above, known⟩ := declaring_in_hierarchy listed
    rw [Candidate.own, known] at same
    cases same
    exact above

variable {t : HostType} {c : Candidate}

/-- What holds of the declaring type of an offered method holds of a supertype. -/
private theorem declaring_above (offered : Offered t c) {test : HostType → Bool}
    (passed : c.method.declaring.any test = true) : ∃ s ∈ t.hierarchy, test s = true := by
  obtain ⟨s, above, known⟩ := declaring_in_hierarchy offered.listed
  rw [known] at passed
  exact ⟨s, above, passed⟩

/-- What holds of the type that an offered method is called on holds of a supertype. -/
private theorem target_above (offered : Offered t c) {test : HostType → Bool}
    (passed : c.target.any test = true) : ∃ s ∈ t.hierarchy, test s = true := by
  obtain ⟨s, known, passes⟩ := (Option.any_eq_true test c.target).mp passed
  exact ⟨s, offered.below s known, passes⟩

theorem fitsHierarchy_inherited {pattern : TypePattern} {s : HostType} (above : s ∈ t.hierarchy)
    (fit : pattern.fitsHierarchy s = true) : pattern.fitsHierarchy t = true :=
  anyName_inherited above fit

theorem admits_inherited {subject : Subject} {s : HostType} (above : s ∈ t.hierarchy)
    (admitted : subject.admits s = true) : subject.admits t = true := by
  cases subject with
  | type pattern => exact fitsHierarchy_inherited above admitted
  | bound b => exact isSubtypeOf_inherited above admitted

/-- A signature that fits an offered method may fit the type. -/
theorem signature_could_match {signature : SignaturePattern} (offered : Offered t c)
    (fit : signature.fits c.method = true) : signature.couldMatch t = true := by
  simp only [SignaturePattern.fits, Bool.and_eq_true] at fit
  obtain ⟨⟨⟨⟨-, named⟩, -⟩, declared⟩, -⟩ := fit
  have somewhere : signature.declaring.all (·.fitsHierarchy t) = true := by
    cases wanted : signature.declaring with
    | none => rfl
    | some pattern =>
      rw [wanted] at declared
      obtain ⟨s, above, fit⟩ := declaring_above offered declared
      exact fitsHierarchy_inherited above fit
  have listed : t.methods.any (signature.name.fits ·.name) = true :=
    List.any_eq_true.mpr ⟨c.method, offered.listed, named⟩
  simp only [SignaturePattern.couldMatch, somewhere, listed, Bool.and_self]

/-- An annotation that is found for an offered method may be found for the type. -/
theorem site_could_match {site : AnnotationSite} {name : String} (offered : Offered t c)
    (found : site.holds name c = true) : site.couldMatch name t = true := by
  cases site with
  | target =>
    obtain ⟨s, above, carried⟩ := target_above offered found
    exact carries_inherited above carried
  | within =>
    obtain ⟨s, above, marked⟩ := declaring_above offered found
    exact carries_iff.mpr ⟨s, above, marked⟩
  | method | args | params => exact List.any_eq_true.mpr ⟨c.method, offered.listed, found⟩

/-- A clause that matches an offered candidate may match on the type. -/
theorem clause_could_match (clause : Clause) (offered : Offered t c)
    (found : (clause.match? c).isSome = true) : clause.couldMatch t = true := by
  unfold Clause.match? at found
  unfold Clause.couldMatch
  cases spec : clause.spec with
  | execution signature =>
    simp only [spec, Option.isSome_ite] at found
    exact signature_could_match offered found
  | within pattern =>
    simp only [spec, Option.isSome_ite] at found
    obtain ⟨s, above, fit⟩ := declaring_above offered found
    exact fitsHierarchy_inherited above (TypePattern.fitsHierarchy_of_fits fit)
  | object role subject =>
    simp only [spec, Option.isSome_ite] at found
    obtain ⟨s, above, admitted⟩ := target_above offered found
    exact admits_inherited above admitted
  | args items => rfl
  | annotated site pattern =>
    simp only [spec, Option.isSome_ite] at found
    exact site_could_match offered found

/-- A formula that matches an offered candidate may match on the type. -/
theorem formula_could_match (f : Formula Clause) (offered : Offered t c)
    (found : (f.match? c).isSome = true) : f.couldMatch t = true := by
  induction f with
  | leaf clause => exact clause_could_match clause offered found
  | not inner => rfl
  | and left right ihLeft ihRight =>
    rw [Formula.match?] at found
    rw [Formula.couldMatch, Bool.and_eq_true]
    cases first : left.match? c with
    | none => simp [first] at found
    | some bound =>
      simp only [first, Option.isSome_map] at found
      exact ⟨ihLeft (by rw [first]; rfl), ihRight found⟩
  | or left right ihLeft ihRight =>
    rw [Formula.match?] at found
    rw [Formula.couldMatch, Bool.or_eq_true]
    cases first : left.match? c with
    | none =>
      simp only [first] at found
      exact .inr (ihRight found)
    | some bound => exact .inl (ihLeft (by rw [first]; rfl))
  | reference name body ih => exact ih found

/-- A match of an offered candidate is never refused by the coarse question. -/
theorem matched_could_match (matcher : Matcher) (offered : Offered t c)
    (matched : (matcher.evaluate c).matched = true) : matcher.couldMatch t = true := by
  rw [Matcher.matched_evaluate] at matched
  exact formula_could_match matcher.pointcut.root offered matched

/-- Where the coarse question refuses a type, no method that can be called on the type matches,
whether it is considered on the type or on the type that declares it. -/
theorem refused_type_has_no_match (matcher : Matcher) (t : HostType) (m : Method)
    (listed : m ∈ t.methods) (refused : matcher.couldMatch t = false) :
    (matcher.matchOn t m).matched = false ∧ (matcher.matchOwn m).matched = false := by
  have never : ∀ c, Offered t c → (matcher.evaluate c).matched = false := by
    intro c offered
    cases matched : (matcher.evaluate c).matched with
    | false => rfl
    | true => exact absurd (matched_could_match matcher offered matched) (by simp [refused])
  exact ⟨never _ (offered_on listed), never _ (offered_own listed)⟩

/-- A type that declares a method and carries an annotation. -/
def service : HostType :=
  .mk "demo.Service" 1 [⟨"demo.Traced", []⟩] []
    [⟨"place", .bare "void", [⟨"item", .bare "demo.Item", []⟩], [.isPublic], []⟩]

def orderService : HostType :=
  .mk "demo.OrderService" 2 [] [service] []

def place : Method :=
  ⟨some service, ⟨"place", .bare "void", [⟨"item", .bare "demo.Item", []⟩], [.isPublic], []⟩⟩

/-- A pointcut of which no part holds for the inherited method but the negation. -/
def audited : String :=
  "(within(shop..*) || @target(demo.Audited)) && !execution(* cancel(..))"

/-- An inherited method on a type that the coarse question refuses. -/
theorem inherited_method_is_refused :
    ∃ matcher, Matcher.parse {} audited = .ok matcher ∧ place ∈ orderService.methods ∧
      matcher.couldMatch orderService = false ∧
      (matcher.matchOn orderService place).matched = false ∧
      (matcher.matchOwn place).matched = false := by
  have coarse : (Matcher.parse {} audited).toOption.map (·.couldMatch orderService) = some false := by
    decide +kernel
  obtain ⟨matcher, parsed, refused⟩ := exists_ok_of_map coarse
  have listed : place ∈ orderService.methods := List.mem_singleton_self place
  exact ⟨matcher, parsed, listed, refused,
    refused_type_has_no_match matcher orderService place listed refused⟩

end Crosscut.CoarseFilter
