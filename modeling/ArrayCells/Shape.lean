import ArrayCells.Fault
import ArrayCells.Shape.RowMajor

/-!
Shapes of arrays.  A `Shape` holds the dimension lengths and one mark for every cell, which tells
whether the cell has been initialized.  A tuple of at most as many indexes as there are dimensions
addresses a region: the cells whose tuples it begins, which are consecutive in row-major order.
`narrow` derives the shape of such a region, also of a slice of it, with the marks of its cells.
-/

namespace ArrayCells

/-- Dimension lengths, and a mark for every cell in row-major order. -/
structure Shape where
  lengths : List Nat
  marks : List Bool
  length_marks : marks.length = volume lengths
deriving DecidableEq

namespace Shape

/-- The shape with no cell marked. -/
def fresh (lengths : List Nat) : Shape where
  lengths := lengths
  marks := List.replicate (volume lengths) false
  length_marks := List.length_replicate

/-- The shape of a declaration, and the number of cells it needs: without lengths a scalar, which
has no shape and one cell. -/
def ofDeclaration (lengths : List Nat) : Option Shape × Nat :=
  match lengths with
  | [] => (none, 1)
  | _ :: _ => (some (fresh lengths), volume lengths)

/-- The number of dimensions. -/
def dim (shape : Shape) : Nat :=
  shape.lengths.length

/-- The number of cells. -/
def size (shape : Shape) : Nat :=
  shape.marks.length

/-- Whether every index is at least zero and below the length of its dimension, and no index is
left over. -/
def fits : List Int → List Nat → Bool
  | [], _ => true
  | _ :: _, [] => false
  | i :: indexes, n :: lengths => decide (0 ≤ i ∧ i < n) && fits indexes lengths

/-- Whether the tuple addresses a cell or a region of the shape. -/
def accepts (shape : Shape) (indexes : List Int) : Bool :=
  fits indexes shape.lengths

/-- Whether the tuple has an index for every dimension. -/
def isFull (shape : Shape) (indexes : List Int) : Bool :=
  indexes.length == shape.dim

def outOfShape (shape : Shape) (indexes : List Int) : Fault :=
  .indexOutOfShape indexes shape.lengths

/-- How far the region of the tuple lies from the first cell. -/
def offset (shape : Shape) (indexes : List Int) : Except Fault Nat :=
  if shape.accepts indexes then .ok (rank shape.lengths indexes)
  else .error (shape.outOfShape indexes)

/-- The first cell of the region of the tuple, in an array that begins at `base`. -/
def locate (shape : Shape) (base : CellId) (indexes : List Int) : Except Fault CellId :=
  return base.advance (← shape.offset indexes)

/-- How many cells the region of a tuple of this length has. -/
def regionSize (shape : Shape) (fixed : Nat) : Nat :=
  volume (shape.lengths.drop fixed)

/-- Whether the tuple addresses a region all of whose cells are marked. -/
def isMarked (shape : Shape) (indexes : List Int) : Bool :=
  shape.accepts indexes
    && ((shape.marks.drop (rank shape.lengths indexes)).take
          (shape.regionSize indexes.length)).all id

/-- Marks every cell of the region of the tuple. -/
def mark (shape : Shape) (indexes : List Int) : Except Fault Shape := do
  let first ← shape.offset indexes
  let count := shape.regionSize indexes.length
  return { shape with
    marks := shape.marks.mapIdx fun k marked => marked || (first ≤ k && k < first + count)
    length_marks := by rw [List.length_mapIdx, shape.length_marks] }

/-- The marks of `volume lengths` consecutive cells from `first` on, as a shape of these lengths. -/
def restrict (shape : Shape) (first : Nat) (lengths : List Nat) : Shape where
  lengths := lengths
  marks := (List.range (volume lengths)).map fun k => shape.marks.getD (first + k) false
  length_marks := by rw [List.length_map, List.length_range]

/-- The bounds of a slice of a dimension of the given length: an absent bound is the end of the
dimension.  Bounds that do not lie in order within the dimension are refused with the offending
one, the lower bound being to blame only if it lies outside on its own. -/
def sliceBounds (length : Nat) (lower upper : Option Int) : Except Int (Nat × Nat) :=
  let lo := lower.getD 0
  let hi := upper.getD length
  if lo < 0 ∨ hi < lo ∨ length < hi then
    .error (if lo < 0 ∨ length < lo then lo else hi)
  else
    .ok (lo.toNat, hi.toNat)

/-- The shape and the first cell of the region of a tuple.  If a bound is given, the region is cut
down to a slice of its outermost dimension. -/
def narrow (shape : Shape) (indexes : List Int) (base : CellId) (lower upper : Option Int) :
    Except Fault (Shape × CellId) := do
  let first ← shape.offset indexes
  let rest := shape.lengths.drop indexes.length
  if lower.isNone && upper.isNone then
    return (shape.restrict first rest, base.advance first)
  match rest with
  | [] => throw (shape.outOfShape indexes)
  | length :: inner =>
    match sliceBounds length lower upper with
    | .error bad => throw (shape.outOfShape (indexes ++ [bad]))
    | .ok (lo, hi) =>
      let start := first + lo * volume inner
      return (shape.restrict start ((hi - lo) :: inner), base.advance start)

end Shape

end ArrayCells
