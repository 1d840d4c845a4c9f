import ArrayCells.Binding
import ArrayCells.Operand.Arithmetic
import ArrayCells.Operand.Element

/-!
Reading through a binding.  `read` fetches the contents of one cell or row.  `item` is the read that
an evaluator makes: its indexes are operands, the last of which may be a range, and a tuple that
leaves dimensions open gives a view.  What `item` returns is labelled with the access.
-/

namespace ArrayCells

/-- The indexes of an access: integers, and possibly a final range. -/
structure Access where
  fixed : List Int
  range : Option (Option Int × Option Int) := none
deriving DecidableEq

namespace Access

/-- Evaluates the operands of an access from left to right; `position` of them have been seen and
there are `count` in all.  Only the last one can be a range. -/
def ofOperandsFrom (position count : Nat) : List Operand → Except Fault Access
  | [] => .ok ⟨[], none⟩
  | x :: rest =>
    match x.range? with
    | some bounds =>
      match rest with
      | [] => do return ⟨[], some (← Operand.boundValues bounds)⟩
      | _ :: _ => .error (.misplacedRange position count)
    | none => do
      let i ← x.toInt
      let access ← ofOperandsFrom (position + 1) count rest
      return { access with fixed := i :: access.fixed }

def ofOperands (indexes : List Operand) : Except Fault Access :=
  ofOperandsFrom 0 indexes.length indexes

/-- The label of what an access reads: the given label followed by the fixed indexes, or `___`. -/
def label (access : Access) (given : Option String) : String :=
  match given with
  | some l => l ++ bracketed access.fixed
  | none => "___"

end Access

namespace Binding

variable {σ : Type} [CellStore σ]

/-- The contents of what a tuple addresses. -/
def read (store : σ) (b : Binding) (indexes : List Int) : Except Fault Content := do
  match ← b.target (CellStore.hasRows store) indexes with
  | .row cell row =>
    match CellStore.readRow store cell row with
    | some content => .ok content
    | none => .error (.uninitializedRead b.name (.row row))
  | .scalar cell | .indexed cell =>
    match CellStore.read store cell with
    | some content => .ok content
    | none => .error (.uninitializedRead b.name (.element indexes))

/-- A cell as an operand; the store may read the cells of constants in its own way. -/
def readCell (store : σ) (b : Binding) (cell : CellId) (ctx : Context) : Except Fault Operand :=
  if b.isConstant then CellStore.readConstItem store cell ctx
  else CellStore.readItem store cell ctx

/-- A row as an operand. -/
def readRow (store : σ) (label : String) (cell : CellId) (row : Int) : Except Fault Operand :=
  match CellStore.readRow store cell row with
  | some content => .ok content.toOperand
  | none => .error (.uninitializedRead label (.labelledRow row))

/-- What an access reads from an array: the cell of a full tuple, a row of a cell, or a view of
what the tuple leaves open. -/
def itemOfArray (store : σ) (b : Binding) (shape : Shape) (access : Access) (label : String)
    (ctx : Context) : Except Fault Operand :=
  let region : Except Fault Operand := do
    let (lower, upper) := access.range.getD (none, none)
    let (shape, base) ← shape.narrow access.fixed b.base lower upper
    return .view ⟨b.typeName, shape, base⟩
  match access.range, access.fixed.drop shape.dim with
  | none, [] =>
    if shape.isFull access.fixed then do
      b.readCell store (← shape.locate b.base access.fixed) ctx
    else region
  | none, [row] =>
    if CellStore.hasRows store then do
      readRow store label (← shape.locate b.base (access.fixed.take shape.dim)) row
    else region
  | _, _ => region

/-- What an access reads from a scalar: its cell, or a row of it. -/
def itemOfScalar (store : σ) (b : Binding) (access : Access) (label : String) (ctx : Context) :
    Except Fault Operand :=
  match access.range, access.fixed with
  | none, [] => b.readCell store b.base ctx
  | none, [row] =>
    if CellStore.hasRows store then readRow store label b.base row else .error b.notAnArray
  | _, _ => .error b.notAnArray

/-- What an access reads from the binding, labelled with the access. -/
def item (store : σ) (b : Binding) (indexes : List Operand) (ctx : Context) :
    Except Fault Operand := do
  let access ← Access.ofOperands indexes
  let label := access.label ctx.label
  let value ←
    match b.shape with
    | some shape => b.itemOfArray store shape access label ctx
    | none => b.itemOfScalar store access label ctx
  return value.withLabel label

end Binding

end ArrayCells
