/-! The boolean structure of a pointcut expression over any kind of leaf. A reference to a named
pointcut keeps the name under which it was written above the formula it stands for. -/
namespace Crosscut

/-- A boolean formula over leaves. -/
inductive Formula (α : Type) where
  | leaf (value : α)
  | not (inner : Formula α)
  | and (left right : Formula α)
  | or (left right : Formula α)
  | reference (name : String) (body : Formula α)
deriving Repr

namespace Formula

variable {α : Type}

/-- The leaves from left to right, followed by what stands behind them. -/
def leavesBefore (behind : List α) : Formula α → List α
  | .leaf value => value :: behind
  | .not inner => inner.leavesBefore behind
  | .and left right | .or left right => left.leavesBefore (right.leavesBefore behind)
  | .reference _ body => body.leavesBefore behind

def leaves (f : Formula α) : List α :=
  f.leavesBefore []

/-- The same formula with its leaves numbered from left to right, starting from a number, and the
number behind the last one. -/
def numberFrom (next : Nat) : Formula α → Formula Nat × Nat
  | .leaf _ => (.leaf next, next + 1)
  | .not inner =>
    let (inner, stop) := inner.numberFrom next
    (.not inner, stop)
  | .and left right =>
    let (left, middle) := left.numberFrom next
    let (right, stop) := right.numberFrom middle
    (.and left right, stop)
  | .or left right =>
    let (left, middle) := left.numberFrom next
    let (right, stop) := right.numberFrom middle
    (.or left right, stop)
  | .reference name body =>
    let (body, stop) := body.numberFrom next
    (.reference name body, stop)

/-- The same formula with each leaf replaced by its position among the leaves. -/
def numbered (f : Formula α) : Formula Nat :=
  (f.numberFrom 0).1

theorem leavesBefore_eq (f : Formula α) (behind : List α) :
    f.leavesBefore behind = f.leaves ++ behind := by
  unfold leaves
  induction f generalizing behind with
  | leaf value => rfl
  | not inner ih => exact ih behind
  | and left right ihLeft ihRight | or left right ihLeft ihRight =>
    simp only [leavesBefore]
    rw [ihLeft (right.leavesBefore behind), ihLeft (right.leavesBefore []), ihRight behind,
      List.append_assoc]
  | reference name body ih => exact ih behind

@[simp] theorem leaves_leaf (value : α) : (leaf value).leaves = [value] := rfl

@[simp] theorem leaves_not (f : Formula α) : f.not.leaves = f.leaves := rfl

@[simp] theorem leaves_and (left right : Formula α) :
    (left.and right).leaves = left.leaves ++ right.leaves :=
  leavesBefore_eq left right.leaves

@[simp] theorem leaves_or (left right : Formula α) :
    (left.or right).leaves = left.leaves ++ right.leaves :=
  leavesBefore_eq left right.leaves

@[simp] theorem leaves_reference (name : String) (f : Formula α) :
    (reference name f).leaves = f.leaves := rfl

/-- Numbering counts the leaves. -/
theorem numberFrom_snd (f : Formula α) (next : Nat) :
    (f.numberFrom next).2 = next + f.leaves.length := by
  induction f generalizing next with
  | leaf value => rfl
  | not inner ih => exact ih next
  | and left right ihLeft ihRight | or left right ihLeft ihRight =>
    simp only [numberFrom, ihLeft, ihRight, leaves_and, leaves_or, List.length_append, Nat.add_assoc]
  | reference name body ih => exact ih next

/-- The leaves of a numbered formula are consecutive numbers. -/
theorem leaves_numberFrom (f : Formula α) (next : Nat) :
    (f.numberFrom next).1.leaves = List.range' next f.leaves.length := by
  induction f generalizing next with
  | leaf value => rfl
  | not inner ih => exact ih next
  | and left right ihLeft ihRight | or left right ihLeft ihRight =>
    simp only [numberFrom, leaves_and, leaves_or, ihLeft, ihRight, numberFrom_snd,
      List.length_append]
    exact List.range'_append_1
  | reference name body ih => exact ih next

end Formula
end Crosscut
