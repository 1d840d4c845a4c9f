import ArrayCells.Context
import ArrayCells.Operand

/-!
Stores hold the contents of cells.  A store has to read, write and reserve cells; all else has a
default: no rows, reads as operands that turn a number into an integer, and nothing to do when
cells are released.
-/

namespace ArrayCells

/-- What a cell or a row holds. -/
inductive Content where
  | number (value : Int)
  | operand (value : Operand)

namespace Content

/-- An operand to be stored; a plain integer is stored as its number and loses its label. -/
def ofOperand : Operand → Content
  | .int n _ => number n
  | x => operand x

/-- The contents as an operand. -/
def toOperand : Content → Operand
  | number n => .int n
  | operand x => x

def number? : Content → Option Int
  | number n => some n
  | operand _ => none

end Content

/-- The operations on a store.  A store may pack rows under a cell, selected by a row number. -/
class CellStore (σ : Type) where
  read : σ → CellId → Option Content
  write : σ → CellId → Content → σ
  /-- Reserves consecutive cells and tells the first of them. -/
  reserve : σ → Nat → CellId × σ
  hasRows : σ → Bool := fun _ => false
  readRow : σ → CellId → Int → Option Content := fun _ _ _ => none
  writeRow : σ → CellId → Int → Content → Except Fault σ := fun _ cell row _ =>
    .error (.notAnArray ("row " ++ toString row ++ " of " ++ cell.text))
  /-- Reads a cell as an operand.  A cell that holds nothing is named by the label, if any. -/
  readItem : σ → CellId → Context → Except Fault Operand := fun store cell ctx =>
    match read store cell with
    | some content => .ok content.toOperand
    | none => .error (.uninitializedRead (ctx.label.getD cell.text) (.cell cell))
  /-- Reads a cell of a constant as an operand. -/
  readConstItem : σ → CellId → Context → Except Fault Operand := readItem
  /-- Forgets what a number of consecutive cells and their rows hold. -/
  release : σ → CellId → Nat → σ := fun store _ _ => store

end ArrayCells
