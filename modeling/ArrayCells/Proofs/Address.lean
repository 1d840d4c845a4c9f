import ArrayCells.Binding
import ArrayCells.Store.Memory

/-!
# Addresses of a store

An `Address` is a cell or a row, the two places where a store holds contents.  Cells and rows are
read and written through one pair of operations, `readAt` and `writeAt`, so that whatever holds of
both is stated once.  For the store in memory:

* `Memory.readAt_writeAt`: a write changes its own address and no other;
* `Memory.readAt_release`: releasing a region empties exactly the addresses in it;
* `Memory.ext_of_readAt`: two stores that hold the same everywhere are the same.
-/

namespace ArrayCells

/-- Where a store holds contents. -/
inductive Address where
  | cell (cell : CellId)
  | row (id : RowId)
deriving DecidableEq

/-- The cell itself, or the one that the row is packed under. -/
def Address.cellId : Address → CellId
  | cell c => c
  | row id => id.cell

/-- The place that a target leads to; scalars and array elements are both held by cells. -/
def Target.address : Target → Address
  | scalar c | indexed c => .cell c
  | row c n => .row ⟨c, n⟩

namespace CellStore

variable {σ : Type} [CellStore σ]

/-- The contents of a cell or a row. -/
def readAt (store : σ) : Address → Option Content
  | .cell c => read store c
  | .row id => readRow store id.cell id.row

/-- Writes a cell, which cannot fail, or a row. -/
def writeAt (store : σ) (content : Content) : Address → Except Fault σ
  | .cell c => .ok (write store c content)
  | .row id => writeRow store id.cell id.row content

/-- Stores that do not change their mind about rows when they are written. -/
class SteadyRows (σ : Type) [CellStore σ] : Prop where
  hasRows_write (store : σ) (c : CellId) (content : Content) :
    hasRows (write store c content) = hasRows store
  hasRows_writeRow {store after : σ} {c : CellId} {row : Int} {content : Content} :
    writeRow store c row content = .ok after → hasRows after = hasRows store

theorem hasRows_writeAt [SteadyRows σ] {store after : σ} {content : Content} {a : Address}
    (h : writeAt store content a = .ok after) : hasRows after = hasRows store := by
  cases a with
  | cell c =>
    cases h
    exact SteadyRows.hasRows_write store c content
  | row id => exact SteadyRows.hasRows_writeRow h

end CellStore

/-! ### The store in memory -/

namespace Memory

open CellStore

theorem writeRow_of_packsRows {memory : Memory} (h : memory.packsRows = true) (c : CellId)
    (row : Int) (content : Content) :
    memory.writeRow c row content =
      .ok { memory with rows := memory.rows.insert ⟨c, row⟩ content } := by
  rw [writeRow, if_pos h]

theorem packsRows_of_writeRow {memory after : Memory} {c : CellId} {row : Int} {content : Content}
    (h : memory.writeRow c row content = .ok after) : memory.packsRows = true := by
  rw [writeRow] at h
  split at h
  · assumption
  · cases h

/-- A new store holds nothing. -/
theorem readAt_new (packsRows : Bool) (next : Nat) (a : Address) :
    readAt ({ packsRows, next } : Memory) a = none := by
  cases a with
  | cell c => exact Std.ExtTreeMap.getElem?_empty
  | row id => exact Std.ExtTreeMap.getElem?_empty

/-- A store is known by what it holds, whether it packs rows, and which cell it reserves next. -/
theorem ext_of_readAt {memory memory' : Memory} (held : ∀ a, readAt memory a = readAt memory' a)
    (packsRows : memory.packsRows = memory'.packsRows) (next : memory.next = memory'.next) :
    memory = memory' := by
  rcases memory with ⟨cells, rows, _, _⟩
  rcases memory' with ⟨cells', rows', _, _⟩
  have sameCells : cells = cells' := Std.ExtTreeMap.ext_getElem? fun c => held (.cell c)
  have sameRows : rows = rows' := Std.ExtTreeMap.ext_getElem? fun id => held (.row id)
  cases packsRows
  cases next
  rw [sameCells, sameRows]

/-- What a write leaves is the old store with one more entry. -/
theorem eq_of_writeAt {memory after : Memory} {content : Content} {a : Address}
    (h : writeAt memory content a = .ok after) :
    after = match a with
      | .cell c => { memory with cells := memory.cells.insert c content }
      | .row id => { memory with rows := memory.rows.insert id content } := by
  cases a with
  | cell c =>
    cases h
    rfl
  | row id =>
    have rows := packsRows_of_writeRow h
    have written := writeRow_of_packsRows rows id.cell id.row content
    exact (Except.ok.inj (written.symm.trans h)).symm

/-- Whether a store takes contents depends on nothing but the address and whether it packs rows. -/
theorem writeAt_alike {memory memory' : Memory} (rows : memory.packsRows = memory'.packsRows)
    (content content' : Content) (a : Address) :
    (∃ after after', writeAt memory content a = .ok after ∧
      writeAt memory' content' a = .ok after') ∨
    ∃ fault, writeAt memory content a = .error fault ∧
      writeAt memory' content' a = .error fault := by
  cases a with
  | cell c => exact .inl ⟨_, _, rfl, rfl⟩
  | row id =>
    cases packs : memory.packsRows with
    | true =>
      exact .inl ⟨_, _, writeRow_of_packsRows packs id.cell id.row content,
        writeRow_of_packsRows (rows.symm.trans packs) id.cell id.row content'⟩
    | false =>
      have refused {m : Memory} (none : m.packsRows = false) (content : Content) :
          m.writeRow id.cell id.row content =
            .error (.notAnArray ("row " ++ toString id.row ++ " of " ++ id.cell.text)) := by
        rw [writeRow, none, if_neg Bool.false_ne_true]
      exact .inr ⟨_, refused packs content, refused (rows.symm.trans packs) content'⟩

instance : SteadyRows Memory where
  hasRows_write _ _ _ := rfl
  hasRows_writeRow {memory _ c row content} h := by
    rw [eq_of_writeAt (a := .row ⟨c, row⟩) h]
    rfl

/-- **A write changes its own address and no other.** -/
theorem readAt_writeAt {memory after : Memory} {content : Content} {a : Address}
    (h : writeAt memory content a = .ok after) (b : Address) :
    readAt after b = if b = a then some content else readAt memory b := by
  rw [eq_of_writeAt h]
  cases a with
  | cell c =>
    cases b with
    | cell d =>
      show (memory.cells.insert c content)[d]? = _
      rw [Std.ExtTreeMap.getElem?_insert]
      simp only [Std.LawfulEqCmp.compare_eq_iff_eq, Address.cell.injEq, eq_comm (a := c)]
      rfl
    | row id => rfl
  | row id =>
    cases b with
    | cell d => rfl
    | row id' =>
      show (memory.rows.insert id content)[id']? = _
      rw [Std.ExtTreeMap.getElem?_insert]
      simp only [Std.LawfulEqCmp.compare_eq_iff_eq, Address.row.injEq, eq_comm (a := id)]
      rfl

theorem next_writeAt {memory after : Memory} {content : Content} {a : Address}
    (h : writeAt memory content a = .ok after) : after.next = memory.next := by
  rw [eq_of_writeAt h]
  cases a <;> rfl

/-- **Releasing a region empties exactly the addresses in it.** -/
theorem readAt_release (memory : Memory) (first : CellId) (count : Nat) (a : Address) :
    readAt (memory.release first count) a =
      if inRegion first count a.cellId = true then none else readAt memory a := by
  cases a with
  | cell c =>
    show (memory.cells.filter fun cell _ => !inRegion first count cell)[c]? = _
    rw [Std.ExtTreeMap.getElem?_filter']
    show _ = if inRegion first count c = true then none else memory.cells[c]?
    cases memory.cells[c]? <;> cases inRegion first count c <;> rfl
  | row id =>
    show (memory.rows.filter fun id _ => !inRegion first count id.cell)[id]? = _
    rw [Std.ExtTreeMap.getElem?_filter']
    show _ = if inRegion first count id.cell = true then none else memory.rows[id]?
    cases memory.rows[id]? <;> cases inRegion first count id.cell <;> rfl

end Memory

end ArrayCells
