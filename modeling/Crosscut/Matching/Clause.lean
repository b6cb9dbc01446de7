import Crosscut.Matching.Align
import Crosscut.Matching.Source

/-! The two questions that a clause answers. The coarse one, about a type alone, may err on the
side of yes: where it says no, no method that can be called on the type matches. The exact one is
about a method considered on a target type, and tells which parameters a match binds. -/
namespace Crosscut

/-- A method and the type on which its call is considered. -/
structure Candidate where
  method : Method
  target : Option HostType

/-- A method considered on the type that declares it. -/
def Candidate.own (m : Method) : Candidate := ⟨m, m.declaring⟩

/-- A method considered on objects of a type. -/
def Candidate.on (t : HostType) (m : Method) : Candidate := ⟨m, some t⟩

namespace SignaturePattern

/-- Whether some method of a type may have the signature. -/
def couldMatch (s : SignaturePattern) (t : HostType) : Bool :=
  s.declaring.all (·.fitsHierarchy t) && t.methods.any (s.name.fits ·.name)

/-- Whether parameter types fit the parameter list. -/
def fitsParams (s : SignaturePattern) (types : List HostType) : Bool :=
  (Matching.align (· == .rest)
    (fun p i => match p with
      | .rest => true
      | .type pattern => types[i]?.any pattern.fits)
    s.params types.length).isSome

/-- Whether a method has the signature. A supertype may stand for the declaring type. -/
def fits (s : SignaturePattern) (m : Method) : Bool :=
  s.modifiers.all (m.modifiers.contains ·) && s.name.fits m.name && s.returns.fits m.returns &&
    s.declaring.all (fun pattern => m.declaring.any pattern.fitsHierarchy) &&
    s.fitsParams (m.parameters.map (·.type))

end SignaturePattern

namespace Subject

def admits (s : Subject) (t : HostType) : Bool :=
  match s with
  | .type pattern => pattern.fitsHierarchy t
  | .bound b => t.isSubtypeOf b.declaredType.name

def sources (s : Subject) (role : ObjectRole) : Sources :=
  match s with
  | .type _ => []
  | .bound b => [(b.name, .object role)]

end Subject

namespace ArgPattern

/-- Whether the item stands for the rest. -/
def isRest : ArgPattern → Bool
  | .rest => true
  | _ => false

/-- Whether a parameter of a type may stand at the place of the item. -/
def admits (a : ArgPattern) (t : HostType) : Bool :=
  match a with
  | .any | .rest => true
  | .type pattern => pattern.fitsHierarchy t
  | .bound b => t.isSubtypeOf b.declaredType.name

/-- What an item binds at its place. -/
def source? (a : ArgPattern) (place : Option Nat) : Option (String × BindingSource) :=
  match a, place with
  | .bound b, some index => some (b.name, .argument index)
  | _, _ => none

/-- What a list of items binds on parameter types that it fits. -/
def match? (items : List ArgPattern) (types : List HostType) : Option Sources :=
  (Matching.align isRest (fun a i => types[i]?.any a.admits) items types.length).map
    fun places => (List.zipWith source? items places).filterMap id

end ArgPattern

namespace AnnotationSite

/-- Whether the annotation may be found for some method of a type. -/
def couldMatch (site : AnnotationSite) (name : String) (t : HostType) : Bool :=
  match site with
  | .target | .within => t.carries name
  | .method => t.methods.any (·.isAnnotatedWith name)
  | .args => t.methods.any fun m => m.parameters.any (·.type.carries name)
  | .params => t.methods.any fun m => m.parameters.any (·.isAnnotatedWith name)

/-- Whether the annotation is found for a method. -/
def holds (site : AnnotationSite) (name : String) (c : Candidate) : Bool :=
  match site with
  | .target => c.target.any (·.carries name)
  | .within => c.method.declaring.any (·.isAnnotatedWith name)
  | .method => c.method.isAnnotatedWith name
  | .args => c.method.parameters.any (·.type.carries name)
  | .params => c.method.parameters.any (·.isAnnotatedWith name)

end AnnotationSite

/-- What a match of an annotation clause binds. -/
def AnnotationPattern.sources (p : AnnotationPattern) (site : AnnotationSite) : Sources :=
  match p.receiver with
  | some name => [(name, .annotated site p.typeName)]
  | none => []

namespace Clause

/-- The coarse question: whether some method of a type may match. -/
def couldMatch (c : Clause) (t : HostType) : Bool :=
  match c.spec with
  | .execution signature => signature.couldMatch t
  | .within pattern => pattern.fitsHierarchy t
  | .object _ subject => subject.admits t
  | .args _ => true
  | .annotated site pattern => site.couldMatch pattern.typeName t

/-- The exact question: nothing if the candidate does not match, else what the match binds. -/
def match? (c : Clause) (candidate : Candidate) : Option Sources :=
  match c.spec with
  | .execution signature => if signature.fits candidate.method then some [] else none
  | .within pattern => if candidate.method.declaring.any pattern.fits then some [] else none
  | .object role subject =>
    if candidate.target.any subject.admits then some (subject.sources role) else none
  | .args items => ArgPattern.match? items (candidate.method.parameters.map (·.type))
  | .annotated site pattern =>
    if site.holds pattern.typeName candidate then some (pattern.sources site) else none

end Clause
end Crosscut
