import Crosscut.Pattern

/-! The clauses of a pointcut expression: what each kind of clause tests and which pointcut
parameters it binds. -/
namespace Crosscut

/-- The two objects of a call: the one that is called and the proxy in front of it. -/
inductive ObjectRole where
  | target | this
deriving DecidableEq, Repr

/-- Where an annotation clause looks: the target type with its supertypes, the declaring type,
the method, the types of the parameters, or the parameters themselves. -/
inductive AnnotationSite where
  | target | within | method | args | params
deriving DecidableEq, Repr

/-- The built-in tests. -/
inductive Designator where
  | execution
  | within
  | object (role : ObjectRole)
  | args
  | annotated (site : AnnotationSite)
deriving DecidableEq, Repr

/-- The word for an object of a call. -/
def ObjectRole.keyword : ObjectRole → String
  | .target => "target"
  | .this => "this"

def AnnotationSite.keyword : AnnotationSite → String
  | .target => "@target"
  | .within => "@within"
  | .method => "@annotation"
  | .args => "@args"
  | .params => "@params"

namespace Designator

def all : List Designator :=
  [.execution, .within, .object .target, .object .this, .args, .annotated .target,
    .annotated .within, .annotated .method, .annotated .args, .annotated .params]

/-- The word that a test is written with. -/
def keyword : Designator → String
  | .execution => "execution"
  | .within => "within"
  | .object role => role.keyword
  | .args => "args"
  | .annotated site => site.keyword

def ofKeyword? (word : String) : Option Designator :=
  all.find? (·.keyword == word)

theorem ofKeyword?_keyword (d : Designator) : ofKeyword? d.keyword = some d := by
  rcases d with _ | _ | (_ | _) | _ | (_ | _ | _ | _ | _) <;> decide

end Designator

/-- What a clause is by its first word: a built-in test, or a reference to a named pointcut. -/
inductive ClauseKind where
  | designator (d : Designator)
  | reference
deriving DecidableEq, Repr

namespace ClauseKind

/-- The kind of clause that starts with a word. Words that no test uses name pointcuts, unless
they start with an at sign. -/
def ofKeyword? (word : String) : Option ClauseKind :=
  match Designator.ofKeyword? word with
  | some d => some (.designator d)
  | none => if word.toList.head? == some '@' then none else some .reference

def label : ClauseKind → String
  | .designator d => d.keyword
  | .reference => "<reference>"

end ClauseKind

/-- A declared pointcut parameter: its name and its type. -/
structure Binding where
  name : String
  declaredType : HostType

/-- What `target` and `this` test: a type pattern, or the type of a parameter that they bind. -/
inductive Subject where
  | type (pattern : TypePattern)
  | bound (binding : Binding)

/-- One item of an argument list: any one argument, any number of arguments, an argument whose
type fits, or an argument that a parameter is bound to. -/
inductive ArgPattern where
  | any
  | rest
  | type (pattern : TypePattern)
  | bound (binding : Binding)

/-- One item of the parameter list of a signature. -/
inductive ParamPattern where
  | rest
  | type (pattern : TypePattern)
deriving DecidableEq, Repr

/-- The shape of a method signature. Without a declaring type any type may declare the method. -/
structure SignaturePattern where
  modifiers : List Modifier
  returns : TypePattern
  declaring : Option TypePattern
  name : NamePattern
  params : List ParamPattern
deriving DecidableEq, Repr

/-- The annotation type that a clause looks for, and the parameter that receives what it finds. -/
structure AnnotationPattern where
  typeName : String
  receiver : Option String
deriving DecidableEq, Repr

/-- What a clause tests. -/
inductive ClauseSpec where
  | execution (signature : SignaturePattern)
  | within (pattern : TypePattern)
  | object (role : ObjectRole) (subject : Subject)
  | args (items : List ArgPattern)
  | annotated (site : AnnotationSite) (pattern : AnnotationPattern)

/-- A clause: its text as written and what it tests. -/
structure Clause where
  text : String
  spec : ClauseSpec

def ClauseSpec.designator : ClauseSpec → Designator
  | .execution _ => .execution
  | .within _ => .within
  | .object role _ => .object role
  | .args _ => .args
  | .annotated site _ => .annotated site

def ArgPattern.boundName? : ArgPattern → Option String
  | .bound b => some b.name
  | _ => none

/-- The names of the parameters that a clause binds, in order. -/
def Clause.boundNames (c : Clause) : List String :=
  match c.spec with
  | .execution _ | .within _ => []
  | .object _ (.type _) => []
  | .object _ (.bound b) => [b.name]
  | .args items => items.filterMap ArgPattern.boundName?
  | .annotated _ pattern => pattern.receiver.toList

end Crosscut
