import ArrayCells.Store

/-!
The store that keeps all cells and rows in memory.  Cells are reserved one after the other and never
reused.
-/

namespace ArrayCells

/-- Cells and rows with their contents. -/
structure Memory where
  cells : Std.ExtTreeMap CellId Content := ∅
  rows : Std.ExtTreeMap RowId Content := ∅
  /-- Whether rows can be written. -/
  packsRows : Bool := false
  /-- The number of the next cell to be reserved. -/
  next : Nat := 0

namespace Memory

/-- An empty store with rows. -/
def withRows : Memory where
  packsRows := true

/-- How many cells hold something. -/
def size (memory : Memory) : Nat :=
  memory.cells.size

def isEmpty (memory : Memory) : Bool :=
  memory.cells.isEmpty

/-- Whether a cell is one of `count` consecutive ones. -/
def inRegion (first : CellId) (count : Nat) (cell : CellId) : Bool :=
  first.number ≤ cell.number && cell.number < first.number + count

def write (memory : Memory) (cell : CellId) (content : Content) : Memory :=
  { memory with cells := memory.cells.insert cell content }

def reserve (memory : Memory) (count : Nat) : CellId × Memory :=
  (⟨memory.next⟩, { memory with next := memory.next + count })

def writeRow (memory : Memory) (cell : CellId) (row : Int) (content : Content) :
    Except Fault Memory :=
  if memory.packsRows then
    .ok { memory with rows := memory.rows.insert ⟨cell, row⟩ content }
  else
    .error (.notAnArray ("row " ++ toString row ++ " of " ++ cell.text))

def release (memory : Memory) (first : CellId) (count : Nat) : Memory :=
  { memory with
    cells := memory.cells.filter fun cell _ => !inRegion first count cell
    rows := memory.rows.filter fun id _ => !inRegion first count id.cell }

instance : CellStore Memory where
  read memory cell := memory.cells[cell]?
  write := write
  reserve := reserve
  hasRows := packsRows
  readRow memory cell row := memory.rows[(⟨cell, row⟩ : RowId)]?
  writeRow := writeRow
  release := release

end Memory

end ArrayCells
