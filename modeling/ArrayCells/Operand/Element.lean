import ArrayCells.Operand.Text
import ArrayCells.Store

/-!
Elements of operands.  `item` follows a tuple of indexes through lists, groups and views; an index
tuple that ends inside a view gives a narrower view, and one that uses up its dimensions reads the
cell from the store.
-/

namespace ArrayCells

variable {σ : Type} [CellStore σ]

namespace View

/-- The cell that a full tuple addresses, read from the store, or the narrower view that a shorter
tuple leaves. -/
def item (store : σ) (view : View) (indexes : List Int) : Except Fault Operand :=
  if view.shape.isFull indexes then do
    let cell ← view.shape.locate view.base indexes
    CellStore.readItem store cell {}
  else do
    let (shape, base) ← view.shape.narrow indexes view.base none none
    return .view { view with shape, base }

/-- The elements along the outermost dimension. -/
def elements (store : σ) (view : View) : Except Fault (List Operand) :=
  (List.range view.length).mapM fun (i : Nat) => view.item store [(i : Int)]

end View

namespace Operand

mutual

/-- The element that a tuple of indexes leads to; the empty tuple leads to the operand itself.
Operands without elements are named by their label, or else by their text. -/
def item (store : σ) : Operand → List Int → Except Fault Operand
  | x, [] => .ok x
  | list items _ _, i :: rest =>
    let outside := Fault.outOfBounds i items.length
    if i < 0 then .error outside else itemOf store outside items i.toNat rest
  | view v _, indexes => v.item store indexes
  | group x _, indexes => item store x indexes
  | x, _ :: _ => .error (.notAnArray (x.label?.getD x.text))

/-- Follows further indexes from the item at a position; `outside` tells that there is none. -/
def itemOf (store : σ) (outside : Fault) : List Operand → Nat → List Int → Except Fault Operand
  | [], _, _ => .error outside
  | x :: _, 0, rest => item store x rest
  | _ :: xs, k + 1, rest => itemOf store outside xs k rest

end

/-- The operands that a container holds along its outermost dimension, looking through groups and
spreads. -/
def elements (store : σ) : Operand → Except Fault (List Operand)
  | list items _ _ => .ok items
  | view v _ => v.elements store
  | group x _ => elements store x
  | spread x _ => elements store x
  | x => .error (.typeMismatch (.notUnrollable x.kind))

/-- The operands that a spread stands for. -/
def unrolled (store : σ) : Operand → Except Fault (List Operand)
  | spread x _ => elements store x
  | x => .error (.typeMismatch (.notUnrollable x.kind))

end Operand

/-- The element of a list; the empty tuple leads to the whole list as an operand. -/
def TitledList.item (store : σ) (list : TitledList) (indexes : List Int) :
    Except Fault Operand :=
  list.toOperand.item store indexes

end ArrayCells
