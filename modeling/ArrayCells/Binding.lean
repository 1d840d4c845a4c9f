import Std.Data.ExtTreeSet
import ArrayCells.Context
import ArrayCells.Shape

/-!
Bindings of names to storage.  A `Binding` names a first cell and, if it is an array, a shape.  It
holds no values, only the record of what has been initialized: a flag for the whole, a mark for
every cell of the shape, and the set of initialized rows.  `target` finds what an index tuple
addresses; a tuple that selects a row leads to the record of rows, any other non-empty tuple on an
array to the marks of the shape, and all else to the flag.
-/

namespace ArrayCells

/-- The number of a lexical scope. -/
structure ScopeId where
  number : Nat := 0
deriving DecidableEq, Inhabited

def ScopeId.text (scope : ScopeId) : String :=
  "scope#" ++ toString scope.number

/-- Flags of a binding: whether it is a constant, and further named ones in the order in which they
were attached. -/
structure Flags where
  constant : Bool := false
  named : List (String × Bool) := []
deriving DecidableEq, Inhabited

/-- A flag by its name; `const` is always there. -/
def Flags.get? (flags : Flags) (name : String) : Option Bool :=
  if name == "const" then some flags.constant else flags.named.lookup name

/-- What an access addresses in the store. -/
inductive Target where
  /-- The one cell of a scalar. -/
  | scalar (cell : CellId)
  /-- A cell of an array, or the first cell of a region. -/
  | indexed (cell : CellId)
  | row (cell : CellId) (row : Int)
deriving DecidableEq

/-- A name bound to cells of a store. -/
structure Binding where
  name : String
  typeName : String
  /-- Whether the cells belong to another binding. -/
  isAlias : Bool := false
  shape : Option Shape := none
  base : CellId
  scope : ScopeId := {}
  /-- Whether the binding has been initialized as a whole. -/
  whole : Bool := false
  /-- The initialized rows. -/
  rows : Std.ExtTreeSet RowId := ∅
  flags : Flags := {}

namespace Binding

/-- The names that a flag cannot take. -/
def reservedNames : List String :=
  ["name", "type", "is_reference", "array", "shape", "locator", "scope_id", "store", "instance",
    "initialized", "const"]

/-- Attaches a flag, whose name must be neither reserved nor attached already. -/
def withFlag (b : Binding) (name : String) (value : Bool) : Except Fault Binding :=
  if reservedNames.contains name || (b.flags.named.lookup name).isSome then
    .error (.propertyCollision name b.name)
  else
    .ok { b with flags := { b.flags with named := b.flags.named ++ [(name, value)] } }

def isConstant (b : Binding) : Bool :=
  b.flags.constant

/-- How many cells the binding spans. -/
def size (b : Binding) : Nat :=
  match b.shape with
  | some shape => shape.size
  | none => 1

def notAnArray (b : Binding) : Fault :=
  .notAnArray b.name

/-- Whether a tuple addresses the binding or a region or a cell of it. -/
def accepts (b : Binding) (indexes : List Int) : Bool :=
  match indexes, b.shape with
  | [], _ => true
  | _ :: _, some shape => shape.accepts indexes
  | _ :: _, none => false

/-- The first cell that a tuple addresses. -/
def cell (b : Binding) (indexes : List Int) : Except Fault CellId :=
  match b.shape, indexes with
  | some shape, _ => shape.locate b.base indexes
  | none, [] => .ok b.base
  | none, _ :: _ => .error b.notAnArray

/-- What a tuple addresses when the store has no rows, or none is selected. -/
def cellTarget (b : Binding) (indexes : List Int) : Except Fault Target := do
  let cell ← b.cell indexes
  return if b.shape.isSome then .indexed cell else .scalar cell

/-- What a tuple addresses; `hasRows` tells whether the store packs rows.  On such a store the
single index of a scalar selects a row, and so does the index after the last dimension of an
array. -/
def target (b : Binding) (hasRows : Bool) (indexes : List Int) : Except Fault Target :=
  if !hasRows || indexes.isEmpty then b.cellTarget indexes
  else
    match b.shape, indexes with
    | none, [row] => .ok (.row b.base row)
    | none, _ => .error b.notAnArray
    | some shape, _ =>
      match indexes.drop shape.dim with
      | [row] => do return .row (← b.cell (indexes.take shape.dim)) row
      | _ => b.cellTarget indexes

/-- The row that a tuple selects, if it selects one. -/
def rowKey? (b : Binding) (hasRows : Bool) (indexes : List Int) : Option RowId :=
  match b.target hasRows indexes with
  | .ok (.row cell row) => some ⟨cell, row⟩
  | _ => none

def doubleInitialization (b : Binding) (indexes : List Int) : Fault :=
  .doubleInitialization b.name indexes

/-- Records that what a tuple addresses has been initialized.  A row or a whole binding can be
recorded only once. -/
def mark (b : Binding) (hasRows : Bool) (indexes : List Int) : Except Fault Binding :=
  match b.rowKey? hasRows indexes with
  | some key =>
    if b.rows.contains key then .error (b.doubleInitialization indexes)
    else .ok { b with rows := b.rows.insert key }
  | none =>
    match b.shape, indexes with
    | some shape, _ :: _ => do return { b with shape := some (← shape.mark indexes) }
    | _, _ =>
      if b.whole then .error (b.doubleInitialization [])
      else .ok { b with whole := true }

/-- Whether what a tuple addresses is recorded as initialized. -/
def isMarked (b : Binding) (hasRows : Bool) (indexes : List Int) : Bool :=
  match b.rowKey? hasRows indexes with
  | some key => b.rows.contains key
  | none =>
    match b.shape, indexes with
    | some shape, _ :: _ => shape.isMarked indexes
    | _, _ => b.whole

end Binding

end ArrayCells
