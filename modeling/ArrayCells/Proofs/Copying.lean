import Mathlib.Data.List.Forall2
import ArrayCells.Proofs.RegionAssignment
import ArrayCells.Proofs.Views
import ArrayCells.Proofs.WriteOnce

/-!
# Copying from a view

An assignment from a view reads cells of the store that it writes.  The cells are read one at a
time, each right before its value is written, so the view may show cells of the region itself.  If
no cell is read after it has been written, every value is the one from before the call, as if all
had been read at once.

* `View.item_tupleAt`: which cell a view reads for a position;
* `Assignment.Copies`: a call with a view that is at least as large as the region;
* `Assignment.Copies.steady`: in the right order, the view does not notice the writes;
* `Assignment.act_copy`: what the call leaves in every cell and row.
-/

namespace ArrayCells

open CellStore ArrayCells.Bound

/-! ### Views that are large enough -/

/-- Larger lengths take the tuples of smaller ones. -/
theorem fits_of_le {t : List Int} {lengths larger : List Nat}
    (le : List.Forall₂ (· ≤ ·) lengths larger) (fit : Shape.fits t lengths = true) :
    Shape.fits t larger = true := by
  induction le generalizing t with
  | nil => exact fit
  | @cons m n lengths larger le rest ih =>
    cases t with
    | nil => exact fits_nil _
    | cons i t =>
      obtain ⟨⟨nonneg, below⟩, inner⟩ := (fits_cons i t m lengths).mp fit
      exact (fits_cons i t n larger).mpr ⟨⟨nonneg, by omega⟩, ih inner⟩

namespace View

/-- The cell of the view that belongs to a position among the tuples of the lengths. -/
def cellAt (view : View) (lengths : List Nat) (k : Nat) : CellId :=
  view.base.advance (rank view.shape.lengths (tupleAt lengths k))

variable {view : View} {lengths : List Nat} {k : Nat}

theorem locate_tupleAt (large : List.Forall₂ (· ≤ ·) lengths view.shape.lengths)
    (below : k < volume lengths) :
    view.shape.locate view.base (tupleAt lengths k) = .ok (view.cellAt lengths k) :=
  Shape.locate_of_accepts view.base (fits_of_le large (tupleAt_fits below))

/-- **For a position, a view reads the cell that belongs to it.** -/
theorem item_tupleAt {σ : Type} [CellStore σ] (store : σ)
    (large : List.Forall₂ (· ≤ ·) lengths view.shape.lengths) (below : k < volume lengths) :
    view.item store (tupleAt lengths k) = readItem store (view.cellAt lengths k) {} := by
  have full : view.shape.isFull (tupleAt lengths k) = true := by
    rw [Shape.isFull_iff, length_tupleAt, large.length_eq]
    rfl
  rw [View.item, if_pos full, locate_tupleAt large below]
  rfl

end View

/-! ### Copies -/

namespace Assignment

/-- The call copies a view to the region below its tuple: the view has as many dimensions as the
region, and is at least as large in each of them. -/
structure Copies (call : Assignment) (b : Binding) (shape : Shape) (view : View) : Prop where
  array : b.shape = some shape
  fit : shape.accepts call.indexes = true
  short : call.indexes.length < shape.dim
  value : ∃ label, call.value = .indexable (.view view label)
  large : List.Forall₂ (· ≤ ·) (shape.lengths.drop call.indexes.length) view.shape.lengths

/-- The cell at a position below the tuple of the call. -/
def cellBelow (call : Assignment) (b : Binding) (shape : Shape) (k : Nat) : CellId :=
  b.base.advance (rank shape.lengths call.indexes + k)

/-- No cell is read after it was written: what the view reads for a position is none of the cells at
the positions before it. -/
def InOrder (call : Assignment) (b : Binding) (shape : Shape) (view : View) : Prop :=
  ∀ k < volume (shape.lengths.drop call.indexes.length), ∀ j < k,
    view.cellAt (shape.lengths.drop call.indexes.length) k ≠ call.cellBelow b shape j

namespace Copies

variable {call : Assignment} {b : Binding} {shape : Shape} {view : View} {k : Nat}

/-- The cell at a position is the one that the tuple with the position behind it leads to. -/
theorem cell_cellBelow (h : call.Copies b shape view)
    (below : k < volume (shape.lengths.drop call.indexes.length)) :
    b.cell (call.indexes ++ tupleAt (shape.lengths.drop call.indexes.length) k) =
      .ok (call.cellBelow b shape k) := by
  have fit : shape.accepts (call.indexes ++ tupleAt (shape.lengths.drop call.indexes.length) k) =
      true := by
    rw [Shape.accepts, fits_append, Bool.and_eq_true]
    exact ⟨h.fit, tupleAt_fits below⟩
  rw [Binding.cell_of_array h.array, Shape.locate_of_accepts b.base fit, rank_append,
    rank_tupleAt below]
  rfl

/-- **The value for a position** is what the store holds for the view, in any state. -/
theorem source_eq (h : call.Copies b shape view) (s : Bound Memory)
    (below : k < volume (shape.lengths.drop call.indexes.length)) :
    call.source s (shape.lengths.drop call.indexes.length) k =
      (readItem s.store (view.cellAt (shape.lengths.drop call.indexes.length) k) {}).map
        Content.ofOperand := by
  obtain ⟨label, value⟩ := h.value
  have indexed : tupleAt (shape.lengths.drop call.indexes.length) k ≠ [] := by
    obtain ⟨n, inner, rest⟩ := drop_of_short h.short
    rw [rest, tupleAt]
    exact List.cons_ne_nil _ _
  rw [source, value, RightSide.element, Operand.item_view s.store view label indexed,
    View.item_tupleAt s.store h.large below]

theorem source_of_read (h : call.Copies b shape view) {s : Bound Memory} {content : Content}
    (below : k < volume (shape.lengths.drop call.indexes.length))
    (held : read s.store (view.cellAt (shape.lengths.drop call.indexes.length) k) = some content) :
    call.source s (shape.lengths.drop call.indexes.length) k =
      .ok (.ofOperand content.toOperand) := by
  rw [h.source_eq s below, Memory.readsByDefault, held]
  rfl

/-- **In the right order, the view does not notice the writes.**  When it is the turn of a position,
only cells at earlier positions have been written. -/
theorem steady {s : Bound Memory} (h : call.Copies s.binding shape view)
    (inOrder : call.InOrder s.binding shape view) :
    call.Steady s (shape.lengths.drop call.indexes.length) (rank shape.lengths call.indexes) := by
  intro n below s₁ filled
  -- the cell that the view reads now is none of those that were filled
  have unwritten := (filled.kept (.cell (view.cellAt _ n)) fun j earlier same =>
    inOrder n below j earlier (Address.cell.inj same)).1
  have read : read s₁.store (view.cellAt _ n) = read s.store (view.cellAt _ n) := unwritten
  rw [h.source_eq s₁ below, h.source_eq s below, Memory.readsByDefault, Memory.readsByDefault, read]

end Copies

/-- **Copying is simultaneous if it is in order.**  If the view shows no cell after it was written,
all that it shows is held by the store, and no cell of the region is guarded and marked, then the
call succeeds.  Every cell of the region then holds, as a stored operand, what the cell of the view
held before the call, and is marked.  All other cells and all rows hold what they held. -/
theorem act_copy (call : Assignment) {s : Bound Memory} {shape : Shape} {view : View}
    (copies : call.Copies s.binding shape view) (inOrder : call.InOrder s.binding shape view)
    (held : ∀ k < volume (shape.lengths.drop call.indexes.length),
      (read s.store (view.cellAt (shape.lengths.drop call.indexes.length) k)).isSome = true)
    (free : ∀ k < volume (shape.lengths.drop call.indexes.length),
      s.binding.isMarked (hasRows s.store)
          (call.indexes ++ tupleAt (shape.lengths.drop call.indexes.length) k) = true →
        ¬ Guarded call.forced s.binding) :
    let lengths := shape.lengths.drop call.indexes.length
    ∃ s', call.act s = .ok () s' ∧
      (∀ k < volume lengths,
        s.binding.cell (call.indexes ++ tupleAt lengths k) =
            .ok (call.cellBelow s.binding shape k) ∧
          read s'.store (call.cellBelow s.binding shape k) =
            (read s.store (view.cellAt lengths k)).map (.ofOperand ·.toOperand) ∧
          s'.binding.isMarked (hasRows s'.store) (call.indexes ++ tupleAt lengths k) = true) ∧
      ∀ a, (∀ k < volume lengths, a ≠ .cell (call.cellBelow s.binding shape k)) →
        readAt s'.store a = readAt s.store a := by
  intro lengths
  have unobstructed {k : Nat} (below : k < volume lengths) :
      call.obstacle? s lengths k = none := by
    obtain ⟨content, there⟩ := Option.isSome_iff_exists.mp (held k below)
    rw [obstacle?, copies.source_of_read below there]
    exact Binding.refusal?_eq_none_iff.mpr fun marked => not_guarded_iff.mp (free k below marked)
  have noExcess : call.value.excess? lengths = none := by
    obtain ⟨label, value⟩ := copies.value
    rw [value]
    rfl
  obtain ⟨n, s', -, -, filled, ⟨rfl, done⟩ | ⟨below, fault, obstacle, -⟩⟩ :=
    call.act_fills copies.array copies.fit copies.short (copies.steady inOrder) noExcess
  · refine ⟨s', done, fun k below => ?_, fun a outside => (filled.kept a outside).1⟩
    obtain ⟨content, there⟩ := Option.isSome_iff_exists.mp (held k below)
    obtain ⟨content', given, stored, -⟩ := filled.written k below
    obtain ⟨-, -, -, marked⟩ := filled.read copies.array copies.fit rfl (Nat.le_refl _) below
    rw [copies.source_of_read below there] at given
    cases given
    rw [there]
    exact ⟨copies.cell_cellBelow below, stored, marked⟩
  · rw [unobstructed below] at obstacle
    cases obstacle

/-- A table with two rows of three is packed in place into one with rows of two, which begins at the
same cell.  The view shows the cells 0, 1, 3 and 4, and the cells 0, 1, 2 and 3 are written. -/
theorem act_copy_packed :
    let packed : Binding :=
      { name := "p", typeName := "int", isAlias := true, base := ⟨0⟩,
        shape := some (.fresh [2, 2]) }
    let store : Memory :=
      [1, 2, 3, 4, 5, 6].zipIdx.foldl (fun store p => store.write ⟨p.2⟩ (.number p.1)) { next := 6 }
    let s : Bound Memory := ⟨packed, store⟩
    let call : Assignment :=
      { value := .indexable (.view ⟨"int", .fresh [2, 3], ⟨0⟩⟩ none), indexes := [], first := true }
    ∃ s', call.act s = .ok () s' ∧
      read s'.store ⟨2⟩ = some (.number 4) ∧ read s'.store ⟨3⟩ = some (.number 5) ∧
      read s'.store ⟨5⟩ = some (.number 6) := by
  intro packed store s call
  have copies : call.Copies s.binding (.fresh [2, 2]) ⟨"int", .fresh [2, 3], ⟨0⟩⟩ :=
    ⟨rfl, rfl, by decide, ⟨none, rfl⟩, .cons (by decide) (.cons (by decide) .nil)⟩
  have inOrder : call.InOrder s.binding (.fresh [2, 2]) ⟨"int", .fresh [2, 3], ⟨0⟩⟩ := by
    unfold InOrder
    decide
  have held : ∀ k < 4, (read s.store (View.cellAt ⟨"int", .fresh [2, 3], ⟨0⟩⟩ [2, 2] k)).isSome =
      true := by decide
  have unmarked : ∀ k < 4, ¬ s.binding.isMarked false (tupleAt [2, 2] k) = true := by decide
  obtain ⟨s', done, copied, kept⟩ :=
    act_copy call copies inOrder held fun k below marked => absurd marked (unmarked k below)
  have outside : ∀ k < 4,
      Address.cell ⟨5⟩ ≠ .cell (call.cellBelow s.binding (.fresh [2, 2]) k) := by
    unfold cellBelow
    decide
  exact ⟨s', done, (copied 2 (by decide)).2.1, (copied 3 (by decide)).2.1, kept (.cell ⟨5⟩) outside⟩

end Assignment

end ArrayCells
