import Crosscut.Matching.Clause
import Crosscut.Pointcut.Parse

/-! Evaluation of a pointcut. A negation cannot be decided for a type as a whole, because some of
its methods may fail the negated part while others pass, so the coarse question answers yes to
it. A negation binds nothing; a conjunction binds what both sides bind; a disjunction binds what
its first matching side binds. -/
namespace Crosscut
namespace Formula

/-- The coarse question: whether some method of a type may match. -/
def couldMatch (t : HostType) : Formula Clause → Bool
  | .leaf clause => clause.couldMatch t
  | .not _ => true
  | .and left right => left.couldMatch t && right.couldMatch t
  | .or left right => left.couldMatch t || right.couldMatch t
  | .reference _ body => body.couldMatch t

/-- The exact question: nothing if the candidate does not match, else what the match binds. -/
def match? (c : Candidate) : Formula Clause → Option Sources
  | .leaf clause => clause.match? c
  | .not inner => if (inner.match? c).isSome then none else some []
  | .and left right =>
    match left.match? c with
    | none => none
    | some bound => (right.match? c).map (bound ++ ·)
  | .or left right =>
    match left.match? c with
    | some bound => some bound
    | none => right.match? c
  | .reference _ body => body.match? c

end Formula

/-- Whether some method of a type may match. -/
def Pointcut.couldMatch (p : Pointcut) (t : HostType) : Bool :=
  p.root.couldMatch t

/-- What a match of a candidate binds. -/
def Pointcut.match? (p : Pointcut) (c : Candidate) : Option Sources :=
  p.root.match? c

end Crosscut
