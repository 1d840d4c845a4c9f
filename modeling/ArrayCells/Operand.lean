import ArrayCells.Shape

/-!
Operands: the values that an evaluator passes around.  Besides integers these are index ranges,
views of array regions, lists, and the compound forms that indexes and arguments need.  Every
operand can carry a label, which is shown to people and never looked at: `same` compares operands
without labels.
-/

namespace ArrayCells

/-- A region of an array: the type of its elements, its shape and its first cell.  A view holds no
values, its elements are read from a store. -/
structure View where
  typeName : String
  shape : Shape
  base : CellId
deriving DecidableEq

namespace View

/-- The length of the outermost dimension. -/
def length (view : View) : Nat :=
  view.shape.lengths.headD 0

def isEmpty (view : View) : Bool :=
  view.length == 0

/-- Views are the same if they have the same type, lengths and first cell, whatever was initialized
when they were taken. -/
def same (a b : View) : Bool :=
  a.typeName == b.typeName && a.shape.lengths == b.shape.lengths && a.base == b.base

end View

/-- An operand.  The last argument of every constructor is the label. -/
inductive Operand where
  | int (value : Int) (label : Option String := none)
  /-- A half-open index range; an absent bound is the end of the dimension. -/
  | range (lower upper : Option Operand) (label : Option String := none)
  | view (view : View) (label : Option String := none)
  /-- A list, which can carry a title of its own. -/
  | list (items : List Operand) (title : Option String := none) (label : Option String := none)
  /-- An operand that stands for its elements. -/
  | spread (inner : Operand) (label : Option String := none)
  /-- An expression that consists of a single operand. -/
  | group (inner : Operand) (label : Option String := none)
  | neg (inner : Operand) (label : Option String := none)
  | arith (op : ArithOp) (lhs rhs : Operand) (label : Option String := none)
deriving Inhabited

namespace Operand

def kind : Operand → OperandKind
  | int .. => .int
  | range .. => .range
  | view .. => .view
  | list .. => .list
  | spread .. => .spread
  | group .. => .group
  | neg .. => .negation
  | arith .. => .arithmetic

def label? : Operand → Option String
  | int _ l | range _ _ l | view _ l | list _ _ l | spread _ l | group _ l | neg _ l
  | arith _ _ _ l => l

/-- The same operand with another label. -/
def withLabel? (l : Option String) : Operand → Operand
  | int n _ => int n l
  | range lo hi _ => range lo hi l
  | view v _ => view v l
  | list items title _ => list items title l
  | spread x _ => spread x l
  | group x _ => group x l
  | neg x _ => neg x l
  | arith op a b _ => arith op a b l

def withLabel (x : Operand) (l : String) : Operand :=
  x.withLabel? (some l)

def isInt (x : Operand) : Bool := x.kind == .int

def isRange (x : Operand) : Bool := x.kind == .range

def isView (x : Operand) : Bool := x.kind == .view

def isList (x : Operand) : Bool := x.kind == .list

/-- Whether the operand is an expression of a single operand. -/
def isGroup (x : Operand) : Bool := x.kind == .group

/-- Whether the operand stands for its elements. -/
def isSpread (x : Operand) : Bool := x.kind == .spread

/-- The operand inside an expression of a single operand. -/
def grouped? : Operand → Option Operand
  | group x _ => some x
  | _ => none

mutual

/-- Whether two operands are the same apart from labels and titles, at any depth. -/
def same : Operand → Operand → Bool
  | int m _, int n _ => m == n
  | range lo hi _, range lo' hi' _ => sameBound lo lo' && sameBound hi hi'
  | view v _, view w _ => v.same w
  | list xs _ _, list ys _ _ => sameItems xs ys
  | spread x _, spread y _ => same x y
  | group x _, group y _ => same x y
  | neg x _, neg y _ => same x y
  | arith op a b _, arith op' a' b' _ => op == op' && same a a' && same b b'
  | _, _ => false

def sameBound : Option Operand → Option Operand → Bool
  | none, none => true
  | some x, some y => same x y
  | _, _ => false

def sameItems : List Operand → List Operand → Bool
  | [], [] => true
  | x :: xs, y :: ys => same x y && sameItems xs ys
  | _, _ => false

end

@[simp]
theorem label?_withLabel? (l : Option String) (x : Operand) : (x.withLabel? l).label? = l := by
  cases x <;> rfl

@[simp]
theorem withLabel?_withLabel? (x : Operand) (l l' : Option String) :
    (x.withLabel? l).withLabel? l' = x.withLabel? l' := by
  cases x <;> rfl

@[simp]
theorem kind_withLabel? (l : Option String) (x : Operand) : (x.withLabel? l).kind = x.kind := by
  cases x <;> rfl

end Operand

/-- A list of operands with a title, as one builds it before it becomes an operand. -/
structure TitledList where
  items : List Operand := []
  title : Option String := none
deriving Inhabited

namespace TitledList

def length (list : TitledList) : Nat :=
  list.items.length

def isEmpty (list : TitledList) : Bool :=
  list.items.isEmpty

def push (list : TitledList) (x : Operand) : TitledList :=
  { list with items := list.items ++ [x] }

/-- Puts the contents of `x` into the place of an item, which keeps its label.  There is no such
place beyond the end. -/
def replace? (list : TitledList) (index : Nat) (x : Operand) : Option TitledList :=
  list.items[index]?.map fun old =>
    { list with items := list.items.set index (x.withLabel? old.label?) }

def entitle (list : TitledList) (title : String) : TitledList :=
  { list with title := some title }

/-- One dimension, as long as the list. -/
def shape (list : TitledList) : Shape :=
  .fresh [list.length]

def toOperand (list : TitledList) : Operand :=
  .list list.items list.title

/-- Lists are the same if their items are, in order. -/
def same (a b : TitledList) : Bool :=
  Operand.sameItems a.items b.items

end TitledList

end ArrayCells
