import ArrayCells.Proofs.Initialization

/-!
# What is written only once

A cell or row that is recorded is never written again by a call that has to be the first to write
it, and never by any call if the binding is a constant.  The record only grows, whatever is done to
the binding, so both hold from the first write on.

* `Trail.not_mem_of_recorded`: a trail leaves recorded addresses alone if it is forced or the
  binding is a constant;
* `Action.run_recorded`, `Action.run_readAt`: in a run, the record stays, and so do the recorded
  contents of a constant;
* `Assignment.refused`: a call with a single value for a recorded tuple fails, and says why;
* `Assignment.written_once`: all of this from the moment of the first write.
-/

namespace ArrayCells

open CellStore ArrayCells.Bound

/-! ### Trails -/

namespace Bound

variable {σ : Type} [CellStore σ]

/-- Calls that cannot write what is recorded: those that are forced to be the first, and all calls
on constants. -/
def Guarded (forced : Bool) (b : Binding) : Prop :=
  forced = true ∨ b.isConstant = true

theorem not_guarded_iff {forced : Bool} {b : Binding} :
    ¬ Guarded forced b ↔ forced = false ∧ b.isConstant = false := by
  rw [Guarded, not_or, Bool.not_eq_true, Bool.not_eq_true]

namespace Trail

variable {forced : Bool} {s s' : Bound σ} {writes : List (Address × Content)} {a : Address}

theorem recorded_mono (h : Trail forced s writes s') (was : s.binding.recorded a = true) :
    s'.binding.recorded a = true :=
  (h.recorded_iff a).mpr (.inl was)

/-- **Recorded addresses are not written again** by a guarded call. -/
theorem not_mem_of_recorded (h : Trail forced s writes s') (guarded : Guarded forced s.binding)
    (was : s.binding.recorded a = true) : a ∉ writes.map Prod.fst := by
  induction h with
  | nil s => exact List.not_mem_nil
  | @cons s s₁ s₂ t a' content writes first rest ih =>
    have other : a ≠ a' := by
      intro same
      have marked := first.selects.isMarked_eq
      rw [← same, was] at marked
      obtain ⟨unforced, changeable⟩ := first.allowed marked
      rcases guarded with isForced | constant
      · rw [isForced] at unforced
        cases unforced
      · rw [constant] at changeable
        cases changeable
    have one : Trail forced s [(a', content)] s₁ := .cons first (.nil s₁)
    have guarded' : Guarded forced s₁.binding := by
      rw [Guarded, Binding.isConstant_congr one.cleared]
      exact guarded
    rw [List.map_cons, List.mem_cons, not_or]
    exact ⟨other, ih guarded' (one.recorded_mono was)⟩

end Trail

/-- What a trail does not write keeps its contents. -/
theorem Trail.readAt_of_not_mem {forced : Bool} {s s' : Bound Memory}
    {writes : List (Address × Content)} {a : Address} (h : Trail forced s writes s')
    (unwritten : a ∉ writes.map Prod.fst) : readAt s'.store a = readAt s.store a := by
  induction h with
  | nil s => rfl
  | cons first rest ih =>
    rw [List.map_cons, List.mem_cons, not_or] at unwritten
    rw [ih unwritten.2, Memory.readAt_writeAt first.stored, if_neg unwritten.1]

end Bound

/-! ### Runs -/

namespace Action

section

variable {σ : Type} [CellStore σ] [SteadyRows σ]

theorem after_recorded (action : Action) {s : Bound σ} {a : Address}
    (was : s.binding.recorded a = true) : (action.after s).binding.recorded a = true := by
  cases action with
  | assign call => exact (call.trail s).recorded_mono was
  | mark t =>
    rcases mark_after t s with same | ⟨b, hb, changed⟩
    · rw [same]
      exact was
    · rw [changed]
      exact Binding.recorded_of_mark hb was

/-- **What is recorded stays recorded**, whatever is done. -/
theorem run_recorded (actions : List Action) {s : Bound σ} {a : Address}
    (was : s.binding.recorded a = true) : (run actions s).binding.recorded a = true := by
  induction actions generalizing s with
  | nil => exact was
  | cons action actions ih => exact ih (action.after_recorded was)

end

theorem after_readAt (action : Action) {s : Bound Memory} {a : Address}
    (constant : s.binding.isConstant = true) (was : s.binding.recorded a = true) :
    readAt (action.after s).store a = readAt s.store a := by
  cases action with
  | assign call =>
    have unwritten := (call.trail s).not_mem_of_recorded (.inr constant) was
    exact (call.trail s).readAt_of_not_mem unwritten
  | mark t =>
    rcases mark_after t s with same | ⟨b, hb, changed⟩
    · rw [same]
    · rw [changed]

/-- **What is recorded of a constant keeps its contents**, whatever is done. -/
theorem run_readAt (actions : List Action) {s : Bound Memory} {a : Address}
    (constant : s.binding.isConstant = true) (was : s.binding.recorded a = true) :
    readAt (run actions s).store a = readAt s.store a := by
  induction actions generalizing s with
  | nil => rfl
  | cons action actions ih =>
    have constant' : (action.after s).binding.isConstant = true := by
      rw [Binding.isConstant_congr (action.after_cleared s), constant]
    exact (ih constant' (action.after_recorded was)).trans (action.after_readAt constant was)

/-- **A recorded tuple of a constant reads the same for good.** -/
theorem run_read (actions : List Action) {s : Bound Memory} {t : List Int} {a : Address}
    (selects : s.binding.Selects (hasRows s.store) t a)
    (constant : s.binding.isConstant = true) (was : s.binding.recorded a = true) :
    (run actions s).binding.read (run actions s).store t = s.binding.read s.store t := by
  have name := Binding.name_congr (run_cleared actions s)
  rw [(run_selects actions selects).read, selects.read, run_readAt actions constant was]
  cases a <;> simp only [Binding.unread, name]

end Action

/-! ### Refused calls -/

theorem Binding.refusal?_of_guarded {b : Binding} {hasRows forced : Bool} {t : List Int}
    (marked : b.isMarked hasRows t = true) (guarded : Guarded forced b) :
    b.refusal? hasRows t forced =
      some (if forced = true then .doubleInitialization b.name t
        else .constViolation b.name t) := by
  rw [refusal?, if_pos marked]
  rcases guarded with isForced | constant
  · rw [if_pos isForced, if_pos isForced]
    rfl
  · rw [if_pos constant]
    split <;> rfl

theorem Binding.Selects.opened {b : Binding} {hasRows : Bool} {t : List Int} {a : Address}
    (h : b.Selects hasRows t a) : b.opened hasRows t = .ok none := by
  have closed := h.closed
  unfold Binding.opened
  cases hs : b.shape with
  | none => rfl
  | some shape =>
    have single : ((b.rowKey? hasRows t).isSome || shape.isFull t) = true := by
      rw [Bool.or_eq_true, Shape.isFull_iff]
      exact (closed shape hs).symm
    simp only [if_pos single]

namespace Assignment

/-- **A recorded tuple refuses a single value** if the call is forced to be the first or the binding
is a constant.  Nothing changes. -/
theorem refused {σ : Type} [CellStore σ] (call : Assignment) {s : Bound σ} {a : Address}
    {content : Content} (selects : s.binding.Selects (hasRows s.store) call.indexes a)
    (was : s.binding.recorded a = true) (guarded : Guarded call.forced s.binding)
    (single : call.value.asSingle s.binding.name = .ok content) :
    call.act s =
      .error
        (if call.forced = true then .doubleInitialization s.binding.name call.indexes
          else .constViolation s.binding.name call.indexes) s := by
  have marked : s.binding.isMarked (hasRows s.store) call.indexes = true := by
    rw [selects.isMarked_eq, was]
  have refusal := Binding.refusal?_of_guarded marked guarded
  rw [act_eq, assign_eq, selects.opened]
  simp only [single]
  exact assignOne_of_refused refusal

/-- **From the first write on.**  In a run of calls that write or mark through a binding, let one of
them write the cell or row that a tuple selects.  From then on no call that has to be the first
writes there.  If the binding is a constant, the tuple reads the same in all later states, and all
later calls that give it a single value are refused. -/
theorem written_once (s : Bound Memory) (earlier later : List Action) (call : Assignment)
    {t : List Int} {a : Address} (selects : s.binding.Selects (hasRows s.store) t a)
    (written : call.Writes (Action.run earlier s) a) :
    let s₁ := call.after (Action.run earlier s)
    let s₂ := Action.run later s₁
    (s.binding.isConstant = true →
      s₂.binding.read s₂.store t = s₁.binding.read s₁.store t ∧
        ∀ (call' : Assignment) (content : Content), call'.indexes = t →
          call'.value.asSingle s.binding.name = .ok content →
            call'.act s₂ =
              .error
                (if call'.forced = true then .doubleInitialization s.binding.name t
                  else .constViolation s.binding.name t) s₂) ∧
      ∀ call' : Assignment, call'.forced = true → ¬ call'.Writes s₂ a := by
  intro s₁ s₂
  have asRun : s₁ = Action.run (earlier ++ [.assign call]) s := by
    rw [Action.run, List.foldl_append]
    rfl
  have selects₁ : s₁.binding.Selects (hasRows s₁.store) t a := by
    rw [asRun]
    exact Action.run_selects _ selects
  have cleared₁ : s₁.binding.cleared = s.binding.cleared := by
    rw [asRun, Action.run_cleared]
  have cleared₂ : s₂.binding.cleared = s.binding.cleared :=
    (Action.run_cleared later s₁).trans cleared₁
  have recorded₁ : s₁.binding.recorded a = true :=
    ((call.trail _).recorded_iff a).mpr (.inr written)
  have recorded₂ : s₂.binding.recorded a = true := Action.run_recorded later recorded₁
  refine ⟨fun constant => ⟨?_, ?_⟩, ?_⟩
  · have constant₁ : s₁.binding.isConstant = true := by
      rw [Binding.isConstant_congr cleared₁, constant]
    exact Action.run_read later selects₁ constant₁ recorded₁
  · intro call' content aimed single
    subst aimed
    have constant₂ : s₂.binding.isConstant = true := by
      rw [Binding.isConstant_congr cleared₂, constant]
    rw [← Binding.name_congr cleared₂] at single ⊢
    exact call'.refused (Action.run_selects later selects₁) recorded₂ (.inr constant₂) single
  · intro call' forced
    exact (call'.trail s₂).not_mem_of_recorded (.inl forced) recorded₂

/-- Two of three cells of a constant are marked or written one by one, then a sequence for the whole
array stops at the first of them.  The cell that it wrote before keeps its value. -/
theorem written_once_constant :
    let row : Binding :=
      { name := "k", typeName := "int", shape := some (.fresh [3]), base := ⟨2⟩,
        flags := { constant := true } }
    let s : Bound Memory := ⟨row, { next := 5 }⟩
    let earlier : List Action :=
      [.mark [2], .assign { value := .single (.number 4), indexes := [1] }]
    let call : Assignment := { value := .sequence [.number 7, .number 8, .number 9], indexes := [] }
    let ones : RightSide := .sequence [.number 1, .number 1, .number 1]
    let later : List Action := [.assign { value := ones, indexes := [], first := true }, .mark [0]]
    let s₁ := call.after (Action.run earlier s)
    let s₂ := Action.run later s₁
    s.binding.Selects (hasRows s.store) [0] (.cell ⟨2⟩) ∧
      call.Writes (Action.run earlier s) (.cell ⟨2⟩) ∧
      s₂.binding.read s₂.store [0] = s₁.binding.read s₁.store [0] := by
  intro row s earlier call ones later s₁ s₂
  have selects : s.binding.Selects (hasRows s.store) [0] (.cell ⟨2⟩) :=
    have array : row.shape = some (.fresh [3]) := rfl
    .element array (by decide) rfl
  have written : call.Writes (Action.run earlier s) (.cell ⟨2⟩) := by
    rw [Writes]
    decide
  have once := written_once s earlier later call selects written
  exact ⟨selects, written, (once.1 rfl).1⟩

end Assignment

end ArrayCells
