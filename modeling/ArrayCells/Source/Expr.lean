import ArrayCells.Operand.Kind
import ArrayCells.Source.Form

/-!
Expressions as they are read.  What can denote an operand or an access is kept as a tree; of all
other expressions only the form is.
-/

namespace ArrayCells.Source

inductive Expr where
  | integer (value : Nat)
  /-- A literal other than an integer. -/
  | literal
  /-- A path, and its name if it is a single identifier. -/
  | path (name : Option String)
  | negated (inner : Expr)
  | arith (op : ArithOp) (lhs rhs : Expr)
  /-- A comparison, which cannot be an operand of another one. -/
  | comparison
  | paren (inner : Expr)
  | array (items : List Expr)
  | range (lower upper : Option Expr) (closed : Bool)
  | call (callee : Expr) (args : List Expr)
  | index (base index : Expr)
  /-- An expression that ends with its block, so that it can stand as a statement. -/
  | blockLike (found : Form)
  | other (found : Form)

namespace Expr

def form : Expr → Form
  | integer _ | literal => .literal
  | path _ => .path
  | negated _ => .unary
  | arith .. | comparison => .binary
  | paren _ | range .. => .unnamed
  | array _ => .array
  | call .. => .call
  | index .. => .index
  | blockLike found | other found => found

def isRange : Expr → Bool
  | range .. => true
  | _ => false

def isComparison : Expr → Bool
  | comparison => true
  | _ => false

def isBlockLike : Expr → Bool
  | blockLike _ => true
  | _ => false

end Expr

end ArrayCells.Source
