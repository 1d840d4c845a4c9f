import ArrayCells.Binding.Read

/-!
Writing through a binding.  A write changes the store and the record of the binding; one that fails
midway keeps what it did before, so writes are actions on a `Bound`, the binding together with its
store.  A tuple that addresses one cell or row writes it; a tuple that leaves dimensions open
assigns the cells below it, in row-major order.
-/

namespace ArrayCells

/-- The right side of a write. -/
inductive RightSide where
  /-- One value, for one cell. -/
  | single (content : Content)
  /-- Values in row-major order. -/
  | sequence (contents : List Content)
  /-- An operand whose elements are read with the tuple of each cell within the region. -/
  | indexable (source : Operand)

namespace RightSide

/-- The value for a single cell of the named binding. -/
def asSingle (name : String) : RightSide → Except Fault Content
  | single content => .ok content
  | indexable source => .ok (.ofOperand source)
  | sequence contents => .error (.typeMismatch (.sequenceForCell contents.length name))

end RightSide

/-- A binding together with the store that holds its cells. -/
structure Bound (σ : Type) where
  binding : Binding
  store : σ

/-- Actions that write through a binding. -/
abbrev Writing (σ : Type) := EStateM Fault (Bound σ)

namespace Writing

/-- What a calculation without effects gives. -/
def ofExcept {σ α : Type} : Except Fault α → Writing σ α
  | .ok a => pure a
  | .error e => throw e

end Writing

namespace Bound

variable {σ : Type} [CellStore σ]

/-- Puts contents where a tuple leads to, without regard to the record. -/
def put (content : Content) (indexes : List Int) : Writing σ Unit := do
  let ⟨b, store⟩ ← get
  match ← Writing.ofExcept (b.target (CellStore.hasRows store) indexes) with
  | .row cell row =>
    let store ← Writing.ofExcept (CellStore.writeRow store cell row content)
    set (Bound.mk b store)
  | .scalar cell | .indexed cell =>
    set (Bound.mk b (CellStore.write store cell content))

/-- Records that what a tuple addresses has been initialized. -/
def mark (indexes : List Int) : Writing σ Unit := do
  let ⟨b, store⟩ ← get
  let b ← Writing.ofExcept (b.mark (CellStore.hasRows store) indexes)
  set (Bound.mk b store)

/-- Writes one cell or row.  The first write is recorded; a later one is refused if it was to be
the first, or if the binding is a constant. -/
def assignOne (content : Content) (indexes : List Int) (ctx : Context) : Writing σ Unit := do
  let ⟨b, store⟩ ← get
  if !b.isMarked (CellStore.hasRows store) indexes then
    put content indexes
    mark indexes
  else if ctx.forceInit then
    throw (b.doubleInitialization indexes)
  else if b.isConstant then
    throw (.constViolation b.name indexes)
  else
    put content indexes

/-- The lengths that a tuple leaves open; `none` if it addresses a single cell or row. -/
def openLengths (indexes : List Int) : Writing σ (Option (List Nat)) := do
  let ⟨b, store⟩ ← get
  match b.shape with
  | none => return none
  | some shape =>
    if (b.rowKey? (CellStore.hasRows store) indexes).isSome || shape.isFull indexes then
      return none
    else
      let _ ← Writing.ofExcept (shape.offset indexes)
      return some (shape.lengths.drop indexes.length)

/-- The value for the cell at a position of a region, of which `relative` is the tuple within the
region. -/
def valueAt (value : RightSide) (indexes : List Int) (lengths : List Nat) (position : Nat)
    (relative : List Int) : Writing σ Content := do
  let ⟨b, store⟩ ← get
  match value with
  | .sequence contents =>
    match contents[position]? with
    | some content => return content
    | none => throw (.outOfBounds position contents.length)
  | .indexable source => return .ofOperand (← Writing.ofExcept (source.item store relative))
  | .single _ => throw (.typeMismatch (.singleForRegion b.name indexes lengths))

/-- Assigns the cells of a region one after the other. -/
def assignRegion (value : RightSide) (indexes : List Int) (lengths : List Nat) (ctx : Context) :
    Writing σ Unit := do
  if let .sequence contents := value then
    if volume lengths < contents.length then
      throw (.typeMismatch
        (.sequenceTooLong contents.length (← get).binding.name indexes lengths))
  (tuples lengths).zipIdx.forM fun (relative, position) => do
    let content ← valueAt value indexes lengths position relative
    assignOne content (indexes ++ relative) ctx

/-- Writes a right side to what a tuple addresses. -/
def assign (value : RightSide) (indexes : List Int) (ctx : Context) : Writing σ Unit := do
  match ← openLengths indexes with
  | some lengths => assignRegion value indexes lengths ctx
  | none =>
    let content ← Writing.ofExcept (value.asSingle (← get).binding.name)
    assignOne content indexes ctx

/-- A write that has to be the first one to every cell. -/
def assignFirst (value : RightSide) (indexes : List Int) (ctx : Context) : Writing σ Unit :=
  assign value indexes { ctx with forceInit := true }

end Bound

end ArrayCells
