import ArrayCells.Operand
import ArrayCells.Source.Grammar

/-!
From expression text to operands.  The expressions that denote operands are integers, unary minus,
`+ - *`, parentheses, lists, ranges and calls of `spread`; every other one is refused by its form.
An inclusive range `a..=b` is the half-open `a..(b) + 1`.
-/

namespace ArrayCells.Source

/-- The expression that a text is. -/
def Expr.ofText (text : String) : Except Fault Expr :=
  match Expr.ofText? text with
  | some e => .ok e
  | none => .error (.unsupported .malformed)

/-- The refusal of an expression. -/
def Expr.refusal (e : Expr) : Fault :=
  .unsupported (.form e.form)

mutual

/-- The operand that an expression denotes.  Parts are looked at from left to right, and the first
one that denotes nothing is reported; an operator without a value comes before its operands. -/
def Expr.toOperand : Expr → Except Fault Operand
  | .integer value =>
    if FitsWord value then .ok (.int value) else .error (.typeMismatch .literalTooLarge)
  | .literal => .error (.unsupported .nonIntegerLiteral)
  | .negated e => return .neg (← e.toOperand)
  | .arith op a b => do
    let lhs ← a.toOperand
    let rhs ← b.toOperand
    return .arith op lhs rhs
  | .paren e => return .group (← e.toOperand)
  | .array items => return .list (← Expr.toOperands items)
  | .range lower upper closed => do
    let lo ← Expr.toBound lower
    let hi ← Expr.toBound upper
    return .range lo (if closed then hi.map fun x => .arith .add (.group x) (.int 1) else hi)
  | .call (.path (some "spread")) args => do
    match ← Expr.toOperands args with
    | [x] => return .group (.spread x)
    | items => return .group (.spread (.list items))
  | e => .error e.refusal

def Expr.toBound : Option Expr → Except Fault (Option Operand)
  | none => .ok none
  | some e => return some (← e.toOperand)

def Expr.toOperands : List Expr → Except Fault (List Operand)
  | [] => .ok []
  | e :: rest => do
    let x ← e.toOperand
    let xs ← Expr.toOperands rest
    return x :: xs

end

/-- The operand that a text denotes. -/
def operandOfText (text : String) : Except Fault Operand := do
  (← Expr.ofText text).toOperand

/-- The name and the index operands of an access, of which the later ones have been read already.
The base of an index may be in parentheses. -/
def Expr.accessFrom : Expr → List Operand → Except Fault (String × List Operand)
  | .index base i, later => do
    let x ← i.toOperand
    base.accessFrom (x :: later)
  | .paren e, later => e.accessFrom later
  | .path (some name), later => .ok (name, later)
  | .path none, _ => .error (.unsupported .qualifiedPath)
  | e, _ => .error e.refusal

/-- The name and the index operands, the outermost first, of an expression that is an access: a name
or an index expression. -/
def Expr.toAccess : Expr → Except Fault (String × List Operand)
  | .index base i => (Expr.index base i).accessFrom []
  | .path name => (Expr.path name).accessFrom []
  | e => .error e.refusal

/-- The name and the index operands of an access that a text denotes. -/
def accessOfText (text : String) : Except Fault (String × List Operand) := do
  (← Expr.ofText text).toAccess

end ArrayCells.Source
