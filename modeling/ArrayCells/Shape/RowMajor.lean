/-!
Row-major numbering of the index tuples of an array: the last index varies fastest.  `rank` numbers
the first cell below a tuple, `tupleAt` finds the tuple of a number, and a `TupleCursor` steps
through all tuples in order and knows how many are left.
-/

namespace ArrayCells

/-- How many cells an array of these dimension lengths has; one when there are no dimensions. -/
def volume : List Nat → Nat
  | [] => 1
  | n :: rest => n * volume rest

/-- The number of the first cell whose tuple begins with the given indexes. -/
def rank : List Nat → List Int → Nat
  | _ :: rest, i :: indexes => i.toNat * volume rest + rank rest indexes
  | _, _ => 0

/-- The tuple with the given number. -/
def tupleAt : List Nat → Nat → List Int
  | [], _ => []
  | _ :: rest, k => (k / volume rest : Nat) :: tupleAt rest (k % volume rest)

/-- A position in the sequence of all index tuples. -/
structure TupleCursor where
  lengths : List Nat
  next : Nat
deriving DecidableEq

namespace TupleCursor

/-- The cursor before the first tuple. -/
def start (lengths : List Nat) : TupleCursor :=
  ⟨lengths, 0⟩

/-- How many tuples are still to come. -/
def remaining (cursor : TupleCursor) : Nat :=
  volume cursor.lengths - cursor.next

/-- The next tuple and the cursor after it. -/
def next? (cursor : TupleCursor) : Option (List Int × TupleCursor) :=
  if cursor.next < volume cursor.lengths then
    some (tupleAt cursor.lengths cursor.next, { cursor with next := cursor.next + 1 })
  else
    none

/-- The cursor after at most `count` further tuples. -/
def skip (cursor : TupleCursor) : Nat → TupleCursor
  | 0 => cursor
  | count + 1 =>
    match cursor.next? with
    | some (_, after) => after.skip count
    | none => cursor

/-- All tuples still to come, in order. -/
def toList (cursor : TupleCursor) : List (List Int) :=
  (List.range' cursor.next cursor.remaining).map (tupleAt cursor.lengths)

end TupleCursor

/-- All index tuples of an array, in row-major order. -/
def tuples (lengths : List Nat) : List (List Int) :=
  (TupleCursor.start lengths).toList

@[simp]
theorem length_tuples (lengths : List Nat) : (tuples lengths).length = volume lengths := by
  simp [tuples, TupleCursor.toList, TupleCursor.remaining, TupleCursor.start]

end ArrayCells
