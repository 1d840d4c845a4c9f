import ArrayCells.Proofs.Journal
import ArrayCells.Proofs.Reading

/-!
# The record tells exactly what was written

A binding over cells that hold nothing yet starts with an empty record.  Whatever calls are made
through it, and wherever they fail, the record and the store stay in step with what was written.

* `Trail.recorded_iff`, `Trail.isSome_readAt_iff`: a trail adds what it writes to the record and to
  the store, and nothing else;
* `run_recorded_iff`, `run_isSome_readAt_iff`: so does a run of calls;
* `isMarked_iff_writtenBy`: a cell or a row is marked exactly if an earlier call wrote it, and
  exactly if it can be read.
-/

namespace ArrayCells

open CellStore ArrayCells.Bound

/-! ### Trails -/

namespace Bound.Trail

/-- **A trail records what it writes.** -/
theorem recorded_iff {σ : Type} [CellStore σ] {forced : Bool} {s s' : Bound σ}
    {writes : List (Address × Content)} (h : Trail forced s writes s') (a : Address) :
    s'.binding.recorded a = true ↔ s.binding.recorded a = true ∨ a ∈ writes.map Prod.fst := by
  induction h with
  | nil s => simp only [List.map_nil, List.not_mem_nil, or_false]
  | cons first rest ih =>
    rw [ih, first.recorded, Bool.or_eq_true, decide_eq_true_eq, List.map_cons, List.mem_cons,
      or_assoc]

/-- **A trail stores what it writes.** -/
theorem isSome_readAt_iff {forced : Bool} {s s' : Bound Memory}
    {writes : List (Address × Content)} (h : Trail forced s writes s') (a : Address) :
    (readAt s'.store a).isSome = true ↔
      (readAt s.store a).isSome = true ∨ a ∈ writes.map Prod.fst := by
  induction h with
  | nil s => simp only [List.map_nil, List.not_mem_nil, or_false]
  | @cons s s₁ s₂ t a' content writes first rest ih =>
    rw [ih, Memory.readAt_writeAt first.stored, List.map_cons, List.mem_cons, ← or_assoc]
    by_cases same : a = a'
    · simp only [same, ↓reduceIte, Option.isSome_some, or_true, true_or]
    · simp only [same, ↓reduceIte, or_false]

end Bound.Trail

/-! ### Runs -/

namespace Assignment

section

variable {σ : Type} [CellStore σ]

/-- One of the calls of a run writes the cell or row at the address. -/
def WrittenBy (calls : List Assignment) (s : Bound σ) (a : Address) : Prop :=
  ∃ earlier call later, calls = earlier ++ call :: later ∧ call.Writes (run earlier s) a

theorem not_writtenBy_nil (s : Bound σ) (a : Address) : ¬ WrittenBy [] s a := by
  rintro ⟨earlier, call, later, split, -⟩
  cases earlier <;> cases split

theorem writtenBy_cons (call : Assignment) (calls : List Assignment) (s : Bound σ)
    (a : Address) :
    WrittenBy (call :: calls) s a ↔ call.Writes s a ∨ WrittenBy calls (call.after s) a := by
  constructor
  · rintro ⟨earlier, call', later, split, written⟩
    cases earlier with
    | nil =>
      cases split
      exact .inl written
    | cons first earlier =>
      cases split
      exact .inr ⟨earlier, call', later, rfl, written⟩
  · rintro (written | ⟨earlier, call', later, rfl, written⟩)
    · exact ⟨[], call, calls, rfl, written⟩
    · exact ⟨call :: earlier, call', later, rfl, written⟩

variable [SteadyRows σ]

/-- What is recorded after a run was recorded before it or written in it. -/
theorem run_recorded_iff (calls : List Assignment) (s : Bound σ) (a : Address) :
    (run calls s).binding.recorded a = true ↔
      s.binding.recorded a = true ∨ WrittenBy calls s a := by
  induction calls generalizing s with
  | nil => simp only [run, List.foldl_nil, not_writtenBy_nil, or_false]
  | cons call calls ih =>
    have rest := ih (call.after s)
    rw [(call.trail s).recorded_iff, or_assoc] at rest
    rw [writtenBy_cons]
    exact rest

end

/-- What is held after a run was held before it or written in it. -/
theorem run_isSome_readAt_iff (calls : List Assignment) (s : Bound Memory) (a : Address) :
    (readAt (run calls s).store a).isSome = true ↔
      (readAt s.store a).isSome = true ∨ WrittenBy calls s a := by
  induction calls generalizing s with
  | nil => simp only [run, List.foldl_nil, not_writtenBy_nil, or_false]
  | cons call calls ih =>
    have rest := ih (call.after s)
    rw [(call.trail s).isSome_readAt_iff, or_assoc] at rest
    rw [writtenBy_cons]
    exact rest

/-- **The record tells exactly what was written.**  A binding starts with an empty record over cells
and rows that hold nothing.  After any calls through it, a tuple that selects a cell or a row is
marked exactly if one of the calls wrote there, which no other tuple can bring about, and exactly if
it can be read. -/
theorem isMarked_iff_writtenBy (b : Binding) (memory : Memory) (calls : List Assignment)
    {t : List Int} {a : Address}
    (empty : ∀ t a, b.Selects memory.packsRows t a → readAt memory a = none)
    (selects : b.Selects memory.packsRows t a) :
    let start : Bound Memory := ⟨b.cleared, memory⟩
    let s := run calls start
    (s.binding.isMarked (hasRows s.store) t = true ↔ WrittenBy calls start a) ∧
      (s.binding.isMarked (hasRows s.store) t = true ↔
        ∃ content, s.binding.read s.store t = .ok content) ∧
      ∀ t', s.binding.Selects (hasRows s.store) t' a → t' = t := by
  intro start s
  have now : s.binding.Selects (hasRows s.store) t a := by
    rw [show s = _ from run_eq calls start]
    exact Action.run_selects _ selects.cleared
  have recorded := run_recorded_iff calls start a
  rw [show start.binding.recorded a = false from Binding.recorded_cleared b a] at recorded
  have held := run_isSome_readAt_iff calls start a
  rw [show readAt start.store a = none from empty t a selects] at held
  simp only [Option.isSome_none, Bool.false_eq_true, false_or] at recorded held
  refine ⟨?_, ?_, ?_⟩
  · rw [now.isMarked_eq]
    exact recorded
  · rw [now.isMarked_eq, now.read_ok_iff]
    exact recorded.trans held.symm
  · intro t' other
    exact other.injective now

/-- A sequence that is one value short fails after three of four cells, a row is written, and a cell
is refused its second first write: the third cell is marked, hence written. -/
theorem isMarked_iff_writtenBy_short :
    let grid : Binding :=
      { name := "m", typeName := "int", shape := some (.fresh [2, 2]), base := ⟨3⟩ }
    let memory : Memory := { packsRows := true, next := 7 }
    let calls : List Assignment :=
      [{ value := .sequence [.number 5, .number 6, .number 7], indexes := [] },
        { value := .single (.number 8), indexes := [1, 1, 4] },
        { value := .single (.number 9), indexes := [0, 1], first := true }]
    (∀ t a, grid.Selects memory.packsRows t a → readAt memory a = none) ∧
      grid.Selects memory.packsRows [1, 0] (.cell ⟨5⟩) ∧
      WrittenBy calls ⟨grid.cleared, memory⟩ (.cell ⟨5⟩) := by
  intro grid memory calls
  have empty : ∀ t a, grid.Selects memory.packsRows t a → readAt memory a = none :=
    fun _ a _ => Memory.readAt_new true 7 a
  have selects : grid.Selects memory.packsRows [1, 0] (.cell ⟨5⟩) :=
    have array : grid.shape = some (.fresh [2, 2]) := rfl
    .element array (by decide) rfl
  have exact := isMarked_iff_writtenBy grid memory calls empty selects
  exact ⟨empty, selects, exact.1.mp (by decide)⟩

end Assignment

end ArrayCells
