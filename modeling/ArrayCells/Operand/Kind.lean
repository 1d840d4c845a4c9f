/-!
The kinds of operands and the arithmetic operators, with the words and symbols by which messages
and printed operands name them.
-/

namespace ArrayCells

/-- What an operand is, apart from its contents. -/
inductive OperandKind where
  | int
  | range
  | view
  | list
  | spread
  | group
  | negation
  | arithmetic
deriving DecidableEq

/-- The word for a kind in messages. -/
def OperandKind.name : OperandKind → String
  | .int => "int"
  | .range => "range"
  | .view => "array"
  | .list => "list"
  | .spread => "spread"
  | .group => "group"
  | .negation => "negation"
  | .arithmetic => "binary operation"

/-- The operators with a value. -/
inductive ArithOp where
  | add
  | sub
  | mul
deriving DecidableEq

namespace ArithOp

def symbol : ArithOp → String
  | add => "+"
  | sub => "-"
  | mul => "*"

/-- The exact result, which need not fit a machine word. -/
def exact : ArithOp → Int → Int → Int
  | add, a, b => a + b
  | sub, a, b => a - b
  | mul, a, b => a * b

end ArithOp

/-- Whether a number fits a signed 64-bit word. -/
def FitsWord (n : Int) : Prop :=
  -9223372036854775808 ≤ n ∧ n ≤ 9223372036854775807

instance (n : Int) : Decidable (FitsWord n) :=
  inferInstanceAs (Decidable (_ ∧ _))

end ArrayCells
