import ArrayCells.Proofs.WriteOnce

/-!
# Writes that lead nowhere

A tuple with an index that does not fit, or with too many indexes, leads nowhere.  A write through
it fails and changes nothing.  What it fails with depends on an order: the record is asked before
the tuple is resolved.  An array has no record of such a tuple, so the write fails as the tuple
itself does.  A scalar answers for every tuple with its flag, and once it has been written, a write
through the tuple can be refused as if it were a second one.

* `Binding.unaddressed_of_target`: why a tuple leads nowhere;
* `Assignment.act_of_target_error`: what a write through it fails with, in any state;
* `Assignment.act_unaddressed`: the same after any run of calls, and
  `Assignment.unaddressed_refused`: the scalar that refuses what it does not have.
-/

namespace ArrayCells

open CellStore ArrayCells.Bound

/-! ### Tuples that lead nowhere -/

namespace Binding

variable {b : Binding} {hasRows : Bool} {t : List Int} {fault : Fault}

/-- The faults of addressing: a scalar has no indexes, and an array has none out of its shape. -/
def Unaddressed (b : Binding) (fault : Fault) : Prop :=
  (b.shape = none ∧ fault = b.notAnArray) ∨
    ∃ shape t, b.shape = some shape ∧ fault = shape.outOfShape t

theorem unaddressed_of_cell (failed : b.cell t = .error fault) : b.Unaddressed fault := by
  cases kind : b.shape with
  | none =>
    cases t with
    | nil =>
      simp only [cell, kind] at failed
      cases failed
    | cons i t =>
      simp only [cell, kind] at failed
      cases failed
      exact .inl ⟨kind, rfl⟩
  | some shape =>
    rw [cell_of_array kind] at failed
    by_cases fit : shape.accepts t = true
    · rw [Shape.locate_of_accepts b.base fit] at failed
      cases failed
    · rw [Shape.locate_of_not_accepts b.base fit] at failed
      cases failed
      exact .inr ⟨shape, t, kind, rfl⟩

/-- **A tuple leads nowhere** for one of the two faults of addressing. -/
theorem unaddressed_of_target (nowhere : b.target hasRows t = .error fault) :
    b.Unaddressed fault := by
  have cells {t : List Int} (failed : b.cellTarget t = .error fault) : b.Unaddressed fault := by
    cases given : b.cell t <;> rw [cellTarget, given] at failed <;> cases failed
    exact unaddressed_of_cell given
  cases kind : b.shape with
  | none =>
    rw [target_of_scalar kind] at nowhere
    split at nowhere
    · exact cells nowhere
    · split at nowhere
      · cases nowhere
      · cases nowhere
        exact .inl ⟨kind, rfl⟩
  | some shape =>
    rw [target_of_array kind] at nowhere
    split at nowhere
    · exact cells nowhere
    · split at nowhere
      · cases given : b.cell (t.take shape.dim) <;> rw [given] at nowhere <;> cases nowhere
        exact unaddressed_of_cell given
      · exact cells nowhere

end Binding

/-! ### Writes -/

variable {σ : Type} [CellStore σ]

/-- A write through a tuple that leads nowhere is refused, or it fails as the tuple does. -/
theorem Bound.assignOne_of_target_error (content : Content) {t : List Int} (ctx : Context)
    {s : Bound σ} {fault : Fault}
    (nowhere : s.binding.target (hasRows s.store) t = .error fault) :
    assignOne content t ctx s =
      .error ((s.binding.refusal? (hasRows s.store) t ctx.forceInit).getD fault) s := by
  cases refusal : s.binding.refusal? (hasRows s.store) t ctx.forceInit with
  | some refused => exact assignOne_of_refused refusal
  | none =>
    have failed : put content t s = .error fault s := by simp only [put_eq, nowhere]
    exact assignOne_of_put_error refusal failed

namespace Assignment

/-- **A single value fails to be written nowhere**, in any state, and changes nothing.  An array is
asked for the region of the tuple first and blames the whole tuple, so the fault may tell of other
indexes than the one of the tuple; it is of the same kind. -/
theorem act_of_target_error (call : Assignment) {s : Bound σ} {content : Content} {fault : Fault}
    (single : call.value = .single content)
    (nowhere : s.binding.target (hasRows s.store) call.indexes = .error fault) :
    ∃ fault', fault'.kind = fault.kind ∧
      call.act s =
        .error ((s.binding.refusal? (hasRows s.store) call.indexes call.forced).getD fault') s := by
  have written : assignOne content call.indexes { call.ctx with forceInit := call.forced } s =
      .error ((s.binding.refusal? (hasRows s.store) call.indexes call.forced).getD fault) s :=
    assignOne_of_target_error content _ nowhere
  have noRow := Binding.rowKey?_of_target_error nowhere
  rw [act_eq, assign_eq, single, Binding.opened]
  rcases Binding.unaddressed_of_target nowhere with ⟨scalar, -⟩ | ⟨shape, t, array, outside⟩
  · rw [scalar]
    exact ⟨fault, rfl, written⟩
  · have allowed : s.binding.refusal? (hasRows s.store) call.indexes call.forced = none := by
      rw [Binding.refusal?, Binding.isMarked_of_target_error nowhere, array]
      rfl
    have unfit := Binding.not_accepts_of_target_error array nowhere
    rw [array]
    by_cases full : shape.isFull call.indexes = true
    · simp only [full, noRow, Bool.or_true, if_true]
      exact ⟨fault, rfl, written⟩
    · refine ⟨shape.outOfShape call.indexes, ?_, ?_⟩
      · rw [outside]
        rfl
      · simp only [noRow, full, if_neg unfit, allowed]
        rfl

/-- After a run, the flag of a scalar is set if it was, or if a call of the run wrote the scalar. -/
theorem run_whole_iff {calls : List Assignment} {start : Bound Memory}
    (scalar : (run calls start).binding.shape = none) :
    (run calls start).binding.whole = true ↔
      start.binding.whole = true ∨ WrittenBy calls start (.cell start.binding.base) := by
  have cleared : (run calls start).binding.cleared = start.binding.cleared := by
    rw [run_eq, Action.run_cleared]
  have scalar' : start.binding.shape = none := Binding.scalar_congr cleared.symm scalar
  have recorded := run_recorded_iff calls start (.cell start.binding.base)
  simp only [Binding.recorded, scalar, scalar', Binding.base_congr cleared, decide_true,
    Bool.and_true] at recorded
  exact recorded

/-- **Writes that lead nowhere, after any run of calls.**  The tuple leads nowhere, since a scalar
has no such indexes or an array no such place, and a single value that is written to it fails
without changing anything.  It fails as the tuple does, except on a scalar that has been written:
there a call that has to be the first one, or any call if the scalar is a constant, is refused for
what was written before. -/
theorem act_unaddressed (calls : List Assignment) (start : Bound Memory) (call : Assignment)
    {content : Content} {fault : Fault} (single : call.value = .single content)
    (nowhere : (run calls start).binding.target (hasRows (run calls start).store) call.indexes =
      .error fault) :
    let s := run calls start
    let barred := s.binding.shape = none ∧ Guarded call.forced s.binding ∧
      (start.binding.whole = true ∨ WrittenBy calls start (.cell start.binding.base))
    s.binding.Unaddressed fault ∧
      (¬ barred → ∃ fault', call.act s = .error fault' s ∧ fault'.kind = fault.kind) ∧
      (barred → call.act s =
        .error
          (if call.forced = true then .doubleInitialization s.binding.name call.indexes
            else .constViolation s.binding.name call.indexes) s) := by
  intro s barred
  obtain ⟨fault', kind, failed⟩ := call.act_of_target_error single nowhere
  refine ⟨Binding.unaddressed_of_target nowhere, fun free => ⟨fault', ?_, kind⟩, ?_⟩
  · have allowed : s.binding.refusal? (hasRows s.store) call.indexes call.forced = none := by
      rw [Binding.refusal?_eq_none_iff, Binding.isMarked_of_target_error nowhere, Bool.and_eq_true,
        Option.isNone_iff_eq_none]
      rintro ⟨scalar, whole⟩
      refine not_guarded_iff.mp fun guarded => free ⟨scalar, guarded, ?_⟩
      exact (run_whole_iff scalar).mp whole
    rw [allowed] at failed
    exact failed
  · rintro ⟨scalar, guarded, written⟩
    have marked : s.binding.isMarked (hasRows s.store) call.indexes = true := by
      rw [Binding.isMarked_of_target_error nowhere, scalar, (run_whole_iff scalar).mpr written]
      rfl
    rw [Binding.refusal?_of_guarded marked guarded] at failed
    exact failed

/-- A constant without a shape, over a store with rows, has rows but no rows of rows.  A write to
one fails as its tuple does when a row has been written, and as a second write when the constant
has. -/
theorem act_unaddressed_constant :
    let x : Binding :=
      { name := "x", typeName := "int", base := ⟨0⟩, flags := { constant := true } }
    let start : Bound Memory := ⟨x, { packsRows := true, next := 1 }⟩
    let row : Assignment := { value := .single (.number 4), indexes := [3] }
    let whole : Assignment := { value := .single (.number 5), indexes := [] }
    let call : Assignment := { value := .single (.number 6), indexes := [3, 2] }
    let s := run [row] start
    let s' := run [row, whole] start
    (∃ fault, call.act s = .error fault s ∧ fault.kind = .notAnArray) ∧
      call.act s' = .error (.constViolation "x" [3, 2]) s' := by
  intro x start row whole call s s'
  have nowhere : s.binding.target (hasRows s.store) call.indexes = .error (.notAnArray "x") := rfl
  have nowhere' : s'.binding.target (hasRows s'.store) call.indexes =
    .error (.notAnArray "x") := rfl
  refine ⟨(act_unaddressed [row] start call rfl nowhere).2.1 ?_,
    (act_unaddressed [row, whole] start call rfl nowhere').2.2 ⟨rfl, .inr rfl, ?_⟩⟩
  · rintro ⟨scalar, -, written⟩
    have flagged : s.binding.whole = true := (run_whole_iff scalar).mpr written
    cases flagged
  · have scalar : s'.binding.shape = none := rfl
    have flagged : s'.binding.whole = true := rfl
    exact (run_whole_iff scalar).mp flagged

/-- **A scalar refuses an index that it does not have** for its own sake.  The scalar has been
written, and the value is to be the first one at an index.  There is no such index, but the fault
tells of a second write. -/
theorem unaddressed_refused :
    let x : Binding := { name := "x", typeName := "int", base := ⟨0⟩ }
    let whole : Assignment := { value := .single (.number 5), indexes := [] }
    let s := run [whole] (⟨x, { next := 1 }⟩ : Bound Memory)
    let call : Assignment := { value := .single (.number 7), indexes := [0], first := true }
    s.binding.target (hasRows s.store) call.indexes = .error (.notAnArray "x") ∧
      call.act s = .error (.doubleInitialization "x" [0]) s :=
  ⟨rfl, rfl⟩

end Assignment

end ArrayCells
