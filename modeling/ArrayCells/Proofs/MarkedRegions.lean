import ArrayCells.Proofs.Initialization
import ArrayCells.Proofs.RegionAssignment
import ArrayCells.Proofs.RegionMarks
import ArrayCells.Proofs.SingleWrites

/-!
# Regions that are marked

A tuple that leaves dimensions of an array open addresses a region, and the marks of its cells
answer for it.  The empty tuple is not looked up in the marks: an array answers it with its flag,
which is for the binding as a whole, and which no write through an array with dimensions sets.

* `Binding.isMarked_iff_cells`: a tuple with indexes is marked if all cells below it are;
* `Assignment.run_whole`: the flag of an array with dimensions stays as it was;
* `Assignment.isMarked_region`: both for the state after any run of calls, and
  `Assignment.array_unmarked`: the array that is not marked although all its cells are.
-/

namespace ArrayCells

open CellStore

/-! ### The record of a binding -/

namespace Binding

variable {b : Binding} {shape : Shape} (array : b.shape = some shape) (hasRows : Bool)

include array

/-- A tuple with indexes that fit is looked up in the marks. -/
theorem isMarked_of_accepts {t : List Int} (fit : shape.accepts t = true) (indexed : t ≠ []) :
    b.isMarked hasRows t = shape.isMarked t := by
  have noRow : b.rowKey? hasRows t = none := by
    rw [rowKey?, target_of_accepts array fit]
  obtain ⟨i, rest, rfl⟩ := List.exists_cons_of_ne_nil indexed
  simp only [isMarked, noRow, array]

/-- A tuple with indexes is marked if all cells below it are. -/
theorem isMarked_iff_cells {p : List Int} (fit : shape.accepts p = true) (indexed : p ≠ []) :
    b.isMarked hasRows p = true ↔
      ∀ t, shape.CellBelow p t → b.isMarked hasRows t = true := by
  rw [isMarked_of_accepts array hasRows fit indexed, Shape.isMarked_iff_cells fit]
  refine forall_congr' fun t => imp_congr_right fun cell => ?_
  rw [isMarked_of_accepts array hasRows cell.fit (cell.ne_nil indexed)]

/-- The empty tuple is answered by the flag. -/
theorem isMarked_nil : b.isMarked hasRows [] = b.whole := by
  have noRow : b.rowKey? hasRows [] = none := by
    rw [rowKey?, target_of_accepts array (fits_nil _)]
  simp only [isMarked, noRow, array]

end Binding

/-! ### Runs -/

namespace Assignment

variable {σ : Type} [CellStore σ] [SteadyRows σ]

/-- A call through an array with dimensions can set marks and rows, but not the flag. -/
theorem after_whole (call : Assignment) {s : Bound σ} {shape : Shape}
    (array : s.binding.shape = some shape) (dims : shape.dim ≠ 0) :
    (call.after s).binding.whole = s.binding.whole := by
  have noFlag (a : Address) : Entry.whole ≠ s.binding.entryOf a := by
    intro same
    cases a with
    | row id => cases same
    | cell c =>
      simp only [Binding.entryOf, array, if_neg dims] at same
      cases same
  have entry := (call.trail s).holds .whole
  rw [List.any_eq_false.mpr fun w _ => by rw [decide_eq_true_eq]; exact noFlag w.1,
    Bool.or_false] at entry
  exact entry

/-- **The flag of an array with dimensions stays as it was**, whatever calls are made. -/
theorem run_whole (calls : List Assignment) {s : Bound σ} {shape : Shape}
    (array : s.binding.shape = some shape) (dims : shape.dim ≠ 0) :
    (run calls s).binding.whole = s.binding.whole := by
  induction calls generalizing s shape with
  | nil => rfl
  | cons call calls ih =>
    obtain ⟨shape', array', lengths⟩ := Binding.shape_congr (call.trail s).cleared array
    have dims' : shape'.dim ≠ 0 := by rwa [Shape.dim, lengths]
    exact (ih array' dims').trans (call.after_whole array dims)

/-- **Regions after any run of calls.**  A tuple with indexes is marked exactly if all cells below
it are, which is to say that each of them was marked at the start or has been written by one of the
calls.  The empty tuple tells of an array with dimensions what it told at the start. -/
theorem isMarked_region (calls : List Assignment) (start : Bound σ) {shape : Shape}
    (array : start.binding.shape = some shape) (dims : shape.dim ≠ 0) :
    let s := run calls start
    let marked := s.binding.isMarked (hasRows s.store)
    (∀ p, shape.accepts p = true → p ≠ [] →
      (marked p = true ↔ ∀ t, shape.CellBelow p t → marked t = true) ∧
        (marked p = true ↔ ∀ t, shape.CellBelow p t →
          start.binding.isMarked (hasRows start.store) t = true ∨
            WrittenBy calls start
              (.cell (start.binding.base.advance (rank shape.lengths t))))) ∧
      marked [] = start.binding.whole := by
  intro s marked
  have cleared : s.binding.cleared = start.binding.cleared := by
    rw [show s = _ from run_eq calls start, Action.run_cleared]
  obtain ⟨shape', array', lengths⟩ := Binding.shape_congr cleared array
  refine ⟨fun p fit indexed => ?_, ?_⟩
  · have fit' : shape'.accepts p = true := by rwa [Shape.accepts, lengths]
    have cells := Binding.isMarked_iff_cells array' (hasRows s.store) fit' indexed
    simp only [Shape.cellBelow_congr lengths] at cells
    refine ⟨cells, cells.trans (forall_congr' fun t => imp_congr_right fun cell => ?_)⟩
    have selects : start.binding.Selects (hasRows start.store) t _ :=
      .element array cell.fit cell.full
    have now := Action.run_selects (calls.map .assign) selects
    rw [← run_eq] at now
    show s.binding.isMarked _ t = true ↔ _
    rw [now.isMarked_eq, selects.isMarked_eq]
    exact run_recorded_iff calls start _
  · exact (Binding.isMarked_nil array' _).trans (run_whole calls array dims)

/-- The upper row of a grid and a cell of the lower one are filled before the values run out.  The
upper row is marked and the lower one is not; a row packed under the last cell does not count for
it. -/
theorem isMarked_region_short :
    let grid : Binding :=
      { name := "m", typeName := "int", shape := some (.fresh [2, 2]), base := ⟨3⟩ }
    let start : Bound Memory := ⟨grid, { packsRows := true, next := 7 }⟩
    let calls : List Assignment :=
      [{ value := .sequence [.number 5, .number 6, .number 7], indexes := [] },
        { value := .single (.number 8), indexes := [1, 1, 4] }]
    let s := run calls start
    (∀ t, (Shape.fresh [2, 2]).CellBelow [0] t →
        WrittenBy calls start (.cell (grid.base.advance (rank [2, 2] t)))) ∧
      (¬ ∀ t, (Shape.fresh [2, 2]).CellBelow [1] t →
        s.binding.isMarked (hasRows s.store) t = true) ∧
      s.binding.isMarked (hasRows s.store) [] = false := by
  intro grid start calls s
  have dims : (Shape.fresh [2, 2]).dim ≠ 0 := by decide
  obtain ⟨regions, whole⟩ := isMarked_region calls start (rfl : grid.shape = _) dims
  have upper := regions [0] (by decide) (by decide)
  have lower := regions [1] (by decide) (by decide)
  refine ⟨fun t cell => (upper.2.mp (by decide) t cell).resolve_left ?_, ?_, whole⟩
  · rw [show start.binding.isMarked (hasRows start.store) t = _ from
      Binding.isMarked_of_accepts (rfl : grid.shape = _) _ cell.fit (cell.ne_nil (by decide))]
    rw [Shape.isMarked_of_full cell.fit cell.full, Shape.bit_fresh]
    exact Bool.false_ne_true
  · rw [← lower.1]
    decide

/-- **All cells of an array are marked, but the empty tuple is not.** -/
theorem array_unmarked :
    let A : Binding := { name := "A", typeName := "int", shape := some (.fresh [2]), base := ⟨0⟩ }
    let s := run [{ value := .sequence [.number 5, .number 7], indexes := [] }]
      (⟨A, { next := 2 }⟩ : Bound Memory)
    (∀ t, (Shape.fresh [2]).CellBelow [] t → s.binding.isMarked (hasRows s.store) t = true) ∧
      s.binding.isMarked (hasRows s.store) [] = false := by
  intro A s
  let filled : Shape := ⟨[2], [true, true], rfl⟩
  have array : s.binding.shape = some filled := rfl
  have lengths : filled.lengths = (Shape.fresh [2]).lengths := rfl
  have all : ∀ t, filled.CellBelow [] t → filled.isMarked t = true :=
    (Shape.isMarked_iff_cells rfl).mp rfl
  refine ⟨fun t cell => ?_, rfl⟩
  have cell' := (Shape.cellBelow_congr lengths).mpr cell
  have indexed : t ≠ [] := by
    rintro rfl
    cases cell.full
  rw [Binding.isMarked_of_accepts array _ cell'.fit indexed]
  exact all t cell'

end Assignment

end ArrayCells
