import Std.Data.ExtTreeMap

/-!
Names of storage cells.  A `CellId` is the number of one cell; a `RowId` selects one of the rows
packed under a cell.  Both are ordered by their numbers, so they can be keys of ordered maps, and
two keys compare as equal only if they are the same key.
-/

namespace ArrayCells

/-- The number of a storage cell, or of the first cell of a region. -/
structure CellId where
  number : Nat
deriving DecidableEq, Inhabited

namespace CellId

/-- The cell `count` places after this one. -/
def advance (cell : CellId) (count : Nat) : CellId :=
  ⟨cell.number + count⟩

/-- Cells are written with a leading `@`. -/
def text (cell : CellId) : String :=
  "@" ++ toString cell.number

instance : Ord CellId where
  compare a b := compare a.number b.number

instance : Std.TransOrd CellId where
  eq_swap := Std.OrientedOrd.eq_swap (α := Nat)
  isLE_trans := Std.TransOrd.isLE_trans (α := Nat)

instance : Std.LawfulEqOrd CellId where
  eq_of_compare {a b} h := by
    cases a; cases b
    exact congrArg CellId.mk (Std.LawfulEqOrd.eq_of_compare (α := Nat) h)

@[simp]
theorem number_advance (cell : CellId) (count : Nat) :
    (cell.advance count).number = cell.number + count := rfl

end CellId

/-- One row packed under a cell. -/
structure RowId where
  cell : CellId
  row : Int
deriving DecidableEq, Inhabited

namespace RowId

/-- Rows are ordered by their cell first. -/
def order (a b : RowId) : Ordering :=
  compareLex (compareOn RowId.cell) (compareOn RowId.row) a b

instance : Ord RowId where
  compare := order

instance : Std.TransOrd RowId :=
  inferInstanceAs (Std.TransCmp (compareLex (compareOn RowId.cell) (compareOn RowId.row)))

instance : Std.LawfulEqOrd RowId where
  eq_of_compare {a b} h := by
    have both : compare a.cell b.cell = .eq ∧ compare a.row b.row = .eq := by
      simpa only [compareLex, compareOn, Ordering.then_eq_eq] using
        (show (compareLex (compareOn RowId.cell) (compareOn RowId.row)) a b = .eq from h)
    cases a; cases b
    exact congr (congrArg RowId.mk (Std.LawfulEqOrd.eq_of_compare both.1))
      (Std.LawfulEqOrd.eq_of_compare both.2)

end RowId

end ArrayCells
