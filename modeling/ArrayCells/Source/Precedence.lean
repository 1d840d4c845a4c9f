import ArrayCells.Source.Expr
import ArrayCells.Source.Reader

/-!
The binary operators and how tightly they hold their operands.
-/

namespace ArrayCells.Source

/-- How tightly an operator holds its operands, the loosest first. -/
inductive Precedence where
  | jump
  | assign
  | range
  | or
  | and
  | letValue
  | compare
  | bitOr
  | bitXor
  | bitAnd
  | shift
  | sum
  | product
  | cast
deriving DecidableEq

namespace Precedence

def level : Precedence → Nat
  | jump => 0
  | assign => 1
  | range => 2
  | or => 3
  | and => 4
  | letValue => 5
  | compare => 6
  | bitOr => 7
  | bitXor => 8
  | bitAnd => 9
  | shift => 10
  | sum => 11
  | product => 12
  | cast => 13

instance : LT Precedence := ⟨fun p q => p.level < q.level⟩

instance (p q : Precedence) : Decidable (p < q) :=
  inferInstanceAs (Decidable (p.level < q.level))

end Precedence

/-- A binary operator: how it is written, how tightly it binds, and its meaning for integers. -/
structure BinaryOperator where
  symbol : String
  precedence : Precedence
  meaning : Option ArithOp := none
deriving DecidableEq

/-- All binary operators; one that begins with another stands before it. -/
def binaryOperators : List BinaryOperator :=
  [⟨"+=", .assign, none⟩, ⟨"-=", .assign, none⟩, ⟨"*=", .assign, none⟩, ⟨"/=", .assign, none⟩,
    ⟨"%=", .assign, none⟩, ⟨"^=", .assign, none⟩, ⟨"&=", .assign, none⟩, ⟨"|=", .assign, none⟩,
    ⟨"<<=", .assign, none⟩, ⟨">>=", .assign, none⟩, ⟨"&&", .and, none⟩, ⟨"||", .or, none⟩,
    ⟨"<<", .shift, none⟩, ⟨">>", .shift, none⟩, ⟨"==", .compare, none⟩, ⟨"<=", .compare, none⟩,
    ⟨"!=", .compare, none⟩, ⟨">=", .compare, none⟩, ⟨"+", .sum, some .add⟩, ⟨"-", .sum, some .sub⟩,
    ⟨"*", .product, some .mul⟩, ⟨"/", .product, none⟩, ⟨"%", .product, none⟩, ⟨"^", .bitXor, none⟩,
    ⟨"&", .bitAnd, none⟩, ⟨"|", .bitOr, none⟩, ⟨"<", .compare, none⟩, ⟨">", .compare, none⟩]

/-- The expression of an operator and its operands. -/
def BinaryOperator.apply (op : BinaryOperator) (lhs rhs : Expr) : Expr :=
  match op.meaning with
  | some meaning => .arith meaning lhs rhs
  | none => if op.precedence == .compare then .comparison else .other .binary

/-- What can join an expression to what follows it. -/
inductive Junction where
  | binary (op : BinaryOperator)
  | assignment
  | range
  | cast

def Junction.precedence : Junction → Precedence
  | binary op => op.precedence
  | assignment => .assign
  | range => .range
  | cast => .cast

/-- What joins the expression before these tokens to them, if anything does. -/
def junction? (ts : List Token) : Option Junction :=
  match binaryOperators.find? fun op => beginsWith op.symbol.toList ts with
  | some op => some (.binary op)
  | none =>
    if beginsWith "=".toList ts && !beginsWith "=>".toList ts then some .assignment
    else if beginsWith "..".toList ts then some .range
    else if ts.head? == some (.name "as") then some .cast
    else none

end ArrayCells.Source
