import ArrayCells.Operand

/-!
Integer coercion and evaluation.  Arithmetic is exact, and every result on the way has to fit a
signed 64-bit word.  `evaluate` reduces arithmetic to integers and removes groups; what it returns
has neither left.
-/

namespace ArrayCells

/-- The result of an operator, if it fits a word. -/
def ArithOp.apply (op : ArithOp) (lhs rhs : Int) : Except Fault Int :=
  if FitsWord (op.exact lhs rhs) then .ok (op.exact lhs rhs)
  else .error (.typeMismatch (.overflow op lhs rhs))

/-- The negated number, if it fits a word. -/
def negate (n : Int) : Except Fault Int :=
  if FitsWord (-n) then .ok (-n) else .error (.typeMismatch .negationOverflow)

namespace Operand

/-- The value of an arithmetic operand. -/
def toInt : Operand → Except Fault Int
  | int n _ => .ok n
  | group x _ => toInt x
  | neg x _ => do negate (← toInt x)
  | arith op a b _ => do
    let lhs ← toInt a
    let rhs ← toInt b
    op.apply lhs rhs
  | x => .error (.typeMismatch (.expectedInt x.kind))

/-- The bounds of a range, looking through groups. -/
def range? : Operand → Option (Option Operand × Option Operand)
  | range lo hi _ => some (lo, hi)
  | group x _ => range? x
  | _ => none

/-- The value of a bound that may be absent. -/
def boundValue : Option Operand → Except Fault (Option Int)
  | none => .ok none
  | some x => some <$> x.toInt

/-- The values of the bounds of a range, the lower one first. -/
def boundValues (bounds : Option Operand × Option Operand) :
    Except Fault (Option Int × Option Int) := do
  let lo ← boundValue bounds.1
  let hi ← boundValue bounds.2
  return (lo, hi)

mutual

/-- The value of an operand: arithmetic becomes an integer, a group becomes its inner operand and
takes that one's label, and contents are evaluated from left to right. -/
def evaluate : Operand → Except Fault Operand
  | int n l => .ok (int n l)
  | view v l => .ok (view v l)
  | neg x l => return int (← toInt (neg x l)) l
  | arith op a b l => return int (← toInt (arith op a b l)) l
  | group x _ => evaluate x
  | range lo hi l => do
    let lo ← evaluateBound lo
    let hi ← evaluateBound hi
    return range lo hi l
  | list items _ l => return list (← evaluateItems items) none l
  | spread x l => return spread (← evaluate x) l

def evaluateBound : Option Operand → Except Fault (Option Operand)
  | none => .ok none
  | some x => return some (← evaluate x)

def evaluateItems : List Operand → Except Fault (List Operand)
  | [] => .ok []
  | x :: rest => do
    let y ← evaluate x
    let ys ← evaluateItems rest
    return y :: ys

end

end Operand

/-- The list of the values of all items, without a title. -/
def TitledList.evaluate (list : TitledList) : Except Fault TitledList :=
  return { items := ← Operand.evaluateItems list.items }

end ArrayCells
