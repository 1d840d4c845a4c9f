import ArrayCells.Proofs.Journal
import ArrayCells.Store.Plain

/-!
# Writes to one cell or row

A tuple that does not stop short of the last dimension addresses one cell or row, or nothing.  A
write through it is done as a whole or not at all, although the contents and the record change one
after the other: what can be written can also be recorded, and what cannot be written is not
recorded.

* `FramedWrites`: the stores in which a write changes its own address and no other; all stores of
  this library are of this kind, also the one that announces rows and refuses to write them;
* `Entry`, `Binding.holds`: the record of a binding, entry by entry;
* `Selects.holds_mark`: marking a tuple adds its own entry and no other;
* `Trail.holds`: a trail adds the entries of the addresses that it writes, `Binding.entryOf`;
* `Binding.ext_of_holds`: the entries are all that bindings of one making differ in;
* `Assignment.act_single`: the outcome of every write through such a tuple, and the state it leaves.
-/

namespace ArrayCells

open CellStore ArrayCells.Bound

/-! ### Stores -/

/-- Stores in which a write that succeeds changes its own address and no other. -/
class FramedWrites (σ : Type) [CellStore σ] : Prop extends SteadyRows σ where
  readAt_writeAt {store after : σ} {content : Content} {a : Address}
    (h : writeAt store content a = .ok after) (b : Address) :
    readAt after b = if b = a then some content else readAt store b

instance : FramedWrites Memory where
  readAt_writeAt := Memory.readAt_writeAt

/-- A cell of a store in memory after one of its cells was written. -/
theorem Memory.read_write (memory : Memory) (c : CellId) (content : Content) (d : CellId) :
    (memory.write c content).cells[d]? = if d = c then some content else memory.cells[d]? := by
  have written : writeAt memory content (.cell c) = .ok (memory.write c content) := rfl
  have held := readAt_writeAt written (.cell d)
  simp only [Address.cell.injEq] at held
  exact held

section

variable {σ : Type} [CellStore σ]

/-- Where no row is ever held or written, the cells decide. -/
theorem framedWrites_of_cells [SteadyRows σ]
    (noRow : ∀ (store : σ) (c : CellId) (row : Int), readRow store c row = none)
    (refused : ∀ (store : σ) (c : CellId) (row : Int) (content : Content),
      ∃ fault, writeRow store c row content = .error fault)
    (cells : ∀ (store : σ) (c : CellId) (content : Content) (d : CellId),
      read (write store c content) d = if d = c then some content else read store d) :
    FramedWrites σ where
  readAt_writeAt {store after content a} h b := by
    cases a with
    | row id =>
      obtain ⟨fault, failed⟩ := refused store id.cell id.row content
      rw [writeAt, failed] at h
      cases h
    | cell c =>
      cases h
      cases b with
      | cell d => simpa only [readAt, Address.cell.injEq] using cells store c content d
      | row id => simp only [readAt, noRow, reduceCtorEq, if_false]

end

instance : FramedWrites PlainCells :=
  have : SteadyRows PlainCells := ⟨fun _ _ _ => rfl, fun _ => rfl⟩
  framedWrites_of_cells (fun _ _ _ => rfl) (fun _ _ _ _ => ⟨_, rfl⟩) fun store c content d =>
    Memory.read_write store.memory c content d

instance : FramedWrites RowsAnnounced :=
  have : SteadyRows RowsAnnounced := ⟨fun _ _ _ => rfl, fun _ => rfl⟩
  framedWrites_of_cells (fun _ _ _ => rfl) (fun _ _ _ _ => ⟨_, rfl⟩) fun store c content d =>
    Memory.read_write store.memory c content d

instance : FramedWrites NegatedConstants :=
  have : SteadyRows NegatedConstants := ⟨fun _ _ _ => rfl, fun _ => rfl⟩
  framedWrites_of_cells (fun _ _ _ => rfl) (fun _ _ _ _ => ⟨_, rfl⟩) fun store c content d =>
    Memory.read_write store.memory c content d

/-! ### The record, entry by entry -/

/-- An entry of the record of a binding: the flag for the whole, the mark of the cell with a number,
or a row. -/
inductive Entry where
  | whole
  | mark (number : Nat)
  | row (id : RowId)
deriving DecidableEq

namespace Binding

/-- Whether the entry is set. -/
def holds (b : Binding) : Entry → Bool
  | .whole => b.whole
  | .mark k =>
    match b.shape with
    | some shape => shape.bit k
    | none => false
  | .row id => b.rows.contains id

/-- The entry for what a tuple selects: without indexes, or on a scalar, it is the flag. -/
def entry (b : Binding) (hasRows : Bool) (t : List Int) : Entry :=
  match b.rowKey? hasRows t with
  | some id => .row id
  | none =>
    match b.shape, t with
    | some shape, _ :: _ => .mark (rank shape.lengths t)
    | _, _ => .whole

variable {b b' : Binding} {hasRows : Bool} {t : List Int} {a : Address}

/-- `isMarked` asks whether the entry of the tuple is set. -/
theorem Selects.isMarked_eq_holds (h : b.Selects hasRows t a) :
    b.isMarked hasRows t = b.holds (b.entry hasRows t) := by
  have key := h.rowKey
  unfold isMarked entry
  cases h with
  | scalar scalar =>
    simp only [key, scalar]
    rfl
  | scalarRow | elementRow =>
    simp only [key]
    rfl
  | @element shape t array fit full =>
    simp only [key, array]
    cases t with
    | nil => rfl
    | cons i t =>
      simp only [holds, array]
      exact Shape.isMarked_of_full fit full

/-- **Marking a tuple sets its own entry and no other.** -/
theorem Selects.holds_mark (h : b.Selects hasRows t a) (marked : b.mark hasRows t = .ok b')
    (e : Entry) : b'.holds e = (b.holds e || decide (e = b.entry hasRows t)) := by
  have key := h.rowKey
  rcases mark_ok marked with ⟨id, isRow, rfl⟩ | ⟨shape, after, noRow, nonempty, array, hm, rfl⟩ |
    ⟨noRow, single, rfl⟩
  · -- a row: the set of rows has one more member
    simp only [entry, isRow]
    cases e with
    | row id' =>
      show (b.rows.insert id).contains id' = (b.rows.contains id' || _)
      rw [Std.ExtTreeSet.contains_insert, Bool.or_comm]
      congr 1
      rw [Bool.eq_iff_iff, beq_iff_eq, Std.LawfulEqCmp.compare_eq_iff_eq, decide_eq_true_eq,
        Entry.row.injEq, eq_comm]
    | _ => simp only [holds, reduceCtorEq, decide_false, Bool.or_false]
  · -- an element: its bit is the only one in its region
    rw [noRow] at key
    cases h with
    | scalar scalar => exact (nonempty rfl).elim
    | scalarRow => cases key
    | elementRow => cases key
    | element array' fit full =>
      rw [array] at array'
      cases array'
      obtain ⟨after', hm', lengths, bits⟩ := Shape.mark_of_accepts fit
      cases hm.symm.trans hm'
      obtain ⟨i, rest, rfl⟩ := List.exists_cons_of_ne_nil nonempty
      simp only [entry, noRow, array]
      cases e with
      | mark k =>
        simp only [holds, array, bits, Shape.regionSize_of_full full, Entry.mark.injEq]
        congr 1
        rw [Bool.eq_iff_iff]
        simp only [Bool.and_eq_true, decide_eq_true_eq]
        omega
      | _ => simp only [holds, reduceCtorEq, decide_false, Bool.or_false]
  · -- the flag
    have flag : b.entry hasRows t = .whole := by
      simp only [entry, noRow]
      rcases single with rfl | scalar
      · cases b.shape <;> rfl
      · rw [scalar]
    rw [flag]
    cases e with
    | whole => simp only [holds, decide_true, Bool.or_true]
    | _ => simp only [holds, reduceCtorEq, decide_false, Bool.or_false]

end Binding

/-- A write to one cell or row leaves its entry set, and all others as they were. -/
theorem Bound.WriteStep.holds {σ : Type} [CellStore σ] {forced : Bool} {s s' : Bound σ}
    {t : List Int} {a : Address} {content : Content} (h : WriteStep forced s t a content s')
    (e : Entry) :
    s'.binding.holds e =
      (s.binding.holds e || decide (e = s.binding.entry (CellStore.hasRows s.store) t)) := by
  have marked := h.marked
  split at marked
  · rename_i was
    rw [h.selects.isMarked_eq_holds] at was
    rw [← Except.ok.inj marked]
    by_cases same : e = s.binding.entry (CellStore.hasRows s.store) t
    · rw [same, was, Bool.true_or]
    · rw [decide_eq_false same, Bool.or_false]
  · exact h.selects.holds_mark marked e

namespace Binding

/-- The entry for a cell or row that a tuple selects. -/
def entryOf (b : Binding) : Address → Entry
  | .row id => .row id
  | .cell c =>
    match b.shape with
    | none => .whole
    | some shape => if shape.dim = 0 then .whole else .mark (c.number - b.base.number)

theorem Selects.entry_eq {b : Binding} {hasRows : Bool} {t : List Int} {a : Address}
    (h : b.Selects hasRows t a) : b.entry hasRows t = b.entryOf a := by
  have key := h.rowKey
  unfold entry
  cases h with
  | scalar scalar => simp only [key, scalar, entryOf]
  | scalarRow | elementRow => simp only [key, entryOf]
  | @element shape t array fit full =>
    cases t with
    | nil =>
      have dim : shape.dim = 0 := full.symm
      simp only [key, array, entryOf, if_pos dim]
    | cons i t =>
      have dim : shape.dim ≠ 0 := by rw [← full]; exact Nat.succ_ne_zero _
      simp only [key, array, entryOf, if_neg dim, CellId.number_advance, Nat.add_sub_cancel_left]

theorem entryOf_congr {b b' : Binding} (same : b'.cleared = b.cleared) (a : Address) :
    b'.entryOf a = b.entryOf a := by
  cases a with
  | row id => rfl
  | cell c =>
    cases kind : b.shape with
    | none => simp only [entryOf, kind, scalar_congr same kind]
    | some shape =>
      obtain ⟨shape', array', lengths⟩ := shape_congr same kind
      have dims : shape'.dim = shape.dim := congrArg List.length lengths
      simp only [entryOf, kind, array', base_congr same]
      rw [dims]

/-- **A binding is known by its record** and by what it is without it. -/
theorem ext_of_holds {b b' : Binding} (same : b.cleared = b'.cleared)
    (entries : ∀ e, b.holds e = b'.holds e) : b = b' := by
  rcases b with ⟨name, typeName, isAlias, shape, base, scope, whole, rows, flags⟩
  rcases b' with ⟨name', typeName', isAlias', shape', base', scope', whole', rows', flags'⟩
  have sameWhole : whole = whole' := entries .whole
  have sameRows : rows = rows' := Std.ExtTreeSet.ext_contains fun id => entries (.row id)
  have made := congrArg Binding.shape same
  have sameShape : shape = shape' := by
    cases shape with
    | none =>
      cases shape' with
      | none => rfl
      | some shape' => cases made
    | some shape =>
      cases shape' with
      | none => cases made
      | some shape' =>
        have fresh : Shape.fresh shape.lengths = .fresh shape'.lengths := Option.some.inj made
        have ofFresh := congrArg Shape.lengths fresh
        have lengths : shape.lengths = shape'.lengths := ofFresh
        have bits (k : Nat) : shape.bit k = shape'.bit k := entries (.mark k)
        rw [Shape.ext_of_bit lengths bits]
  cases sameWhole
  cases sameRows
  cases sameShape
  simp only [cleared, mk.injEq] at same
  simp only [mk.injEq]
  exact same

end Binding

/-- **A trail sets the entries of what it writes** and no others. -/
theorem Bound.Trail.holds {σ : Type} [CellStore σ] {forced : Bool} {s s' : Bound σ}
    {writes : List (Address × Content)} (h : Trail forced s writes s') (e : Entry) :
    s'.binding.holds e =
      (s.binding.holds e || writes.any fun w => decide (e = s.binding.entryOf w.1)) := by
  induction h with
  | nil s => rw [List.any_nil, Bool.or_false]
  | cons first rest ih =>
    simp only [ih, first.holds, first.selects.entry_eq, Binding.entryOf_congr first.cleared,
      List.any_cons, Bool.or_assoc]

/-! ### Calls -/

/-- **A write through a tuple that does not stop short of the last dimension is done as a whole or
not at all.**  Where the call fails, contents and record are as before, whatever it failed for.
Where it succeeds, the value is in the cell or row that the tuple selects, the entry of the tuple is
set, and every other cell, row and entry is as before. -/
theorem Assignment.act_single {σ : Type} [CellStore σ] [FramedWrites σ] (call : Assignment)
    (s : Bound σ)
    (single : ∀ shape, s.binding.shape = some shape → call.indexes.length < shape.dim →
      shape.accepts call.indexes = false) :
    match call.act s with
    | .error _ s' => s' = s
    | .ok _ s' => ∃ content a,
        call.value.asSingle s.binding.name = .ok content ∧
        s.binding.Selects (hasRows s.store) call.indexes a ∧
        (∀ a', readAt s'.store a' = if a' = a then some content else readAt s.store a') ∧
        s'.binding.isMarked (hasRows s'.store) call.indexes = true ∧
        s'.binding.cleared = s.binding.cleared ∧
        ∀ e, s'.binding.holds e =
          (s.binding.holds e || decide (e = s.binding.entry (hasRows s.store) call.indexes)) := by
  rw [call.act_eq, assign_eq]
  cases opened : s.binding.opened (hasRows s.store) call.indexes with
  | error fault => rfl
  | ok answer =>
    cases answer with
    | some lengths =>
      -- A tuple that opens a region stops short of the last dimension.
      obtain ⟨shape, array, fit, short, -⟩ := opened_some opened
      rw [single shape array short] at fit
      cases fit
    | none =>
      cases given : call.value.asSingle s.binding.name with
      | error fault => rfl
      | ok content =>
        rcases assignOne_cases content { call.ctx with forceInit := call.forced }
          (closed_of_opened opened) with ⟨fault, failed⟩ | ⟨a, s', written, step⟩
        · simp only [failed]
        · have selects := step.selects.congr step.cleared
          simp only [written]
          refine ⟨content, a, rfl, step.selects, FramedWrites.readAt_writeAt step.stored, ?_,
            step.cleared, step.holds⟩
          rw [step.hasRows, selects.isMarked_eq, step.recorded, decide_eq_true rfl, Bool.or_true]

/-- Row 3 of a scalar is written in two stores.  The one that announces rows and takes none stays as
it was, with the binding; the other one has the value in this row and nowhere else. -/
theorem Assignment.act_single_row :
    let b : Binding := { name := "x", typeName := "int", base := ⟨0⟩ }
    let call : Assignment := { value := .single (.number 7), indexes := [3] }
    let announced : Bound RowsAnnounced := ⟨b, {}⟩
    let packed : Bound Memory := ⟨b, { packsRows := true }⟩
    call.after announced = announced ∧
      (∀ a, readAt (call.after packed).store a =
        if a = .row ⟨⟨0⟩, 3⟩ then some (.number 7) else none) ∧
      ∀ e, (call.after packed).binding.holds e = decide (e = .row ⟨⟨0⟩, 3⟩) := by
  intro b call announced packed
  have refused := act_single call announced (fun _ array => nomatch array)
  have done := act_single call packed (fun _ array => nomatch array)
  have fails : ∃ fault s', call.act announced = .error fault s' := ⟨_, _, rfl⟩
  have succeeds : ∃ s', call.act packed = .ok () s' := ⟨_, rfl⟩
  obtain ⟨fault, s, failed⟩ := fails
  obtain ⟨s', written⟩ := succeeds
  rw [failed] at refused
  rw [written] at done
  obtain ⟨content, a, given, selects, held, -, -, entries⟩ := done
  obtain ⟨target, leads, rfl⟩ := selects.target
  have row : b.target true [3] = .ok (.row ⟨0⟩ 3) := rfl
  cases row.symm.trans leads
  cases given
  have nothing (a : Address) : readAt packed.store a = none := by
    cases a with
    | cell c => exact Std.ExtTreeMap.getElem?_empty
    | row id => exact Std.ExtTreeMap.getElem?_empty
  have fresh (e : Entry) : b.holds e = false := by
    cases e with
    | row id => exact Std.ExtTreeSet.contains_empty
    | _ => rfl
  simp only [after, Writing.after, failed, written]
  refine ⟨refused, fun a => ?_, fun e => ?_⟩
  · rw [held, nothing]
    rfl
  · rw [entries, fresh, Bool.false_or]
    rfl

end ArrayCells
