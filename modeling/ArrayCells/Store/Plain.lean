import ArrayCells.Operand.Arithmetic
import ArrayCells.Store.Memory

/-!
Stores that only read, write and reserve cells, and leave the rest to the defaults.  `PlainCells`
does no more; `RowsAnnounced` also claims to have rows, although every row is unread and cannot be
written; `NegatedConstants` reads the cells of constants with the opposite sign.
-/

namespace ArrayCells

/-- Cells without rows. -/
structure PlainCells where
  memory : Memory := {}

instance : CellStore PlainCells where
  read store cell := store.memory.cells[cell]?
  write store cell content := ⟨store.memory.write cell content⟩
  reserve store count := let (first, memory) := store.memory.reserve count; (first, ⟨memory⟩)

/-- Cells with the claim to have rows. -/
structure RowsAnnounced where
  memory : Memory := {}

instance : CellStore RowsAnnounced where
  read store cell := store.memory.cells[cell]?
  write store cell content := ⟨store.memory.write cell content⟩
  reserve store count := let (first, memory) := store.memory.reserve count; (first, ⟨memory⟩)
  hasRows _ := true

/-- Cells that constants read negated. -/
structure NegatedConstants where
  memory : Memory := {}

instance : CellStore NegatedConstants where
  read store cell := store.memory.cells[cell]?
  write store cell content := ⟨store.memory.write cell content⟩
  reserve store count := let (first, memory) := store.memory.reserve count; (first, ⟨memory⟩)
  readConstItem store cell ctx :=
    match store.memory.cells[cell]? with
    | some content => do return .int (-(← content.toOperand.toInt))
    | none => .error (.uninitializedRead (ctx.label.getD cell.text) (.cell cell))

end ArrayCells
