import ArrayCells.Proofs.Writing

/-!
# Marking a tuple

A binding can be told that what a tuple addresses has been initialized, without a write.  Where the
record is a flag or a set of rows, this can be done once.  The marks of a shape are different: an
array takes a mark for one of its cells any number of times.

* `Selects.mark_of_isMarked`: what a second mark does, for each part of the record;
* `Selects.isMarked_mark`: a first mark changes the answer for its own tuple and for no other;
* `Bound.mark_selected`: both, for every binding and every store, and
  `Bound.element_marked_twice`: the array that takes a mark twice.
-/

namespace ArrayCells

open CellStore

namespace Binding

variable {b b' : Binding} {hasRows : Bool} {t : List Int} {a : Address}

/-- What the tuple selects is recorded in the marks of a shape: it is a cell, reached through
indexes. -/
def InShape (t : List Int) (a : Address) : Prop :=
  t ≠ [] ∧ ∃ c, a = .cell c

theorem not_inShape_nil : ¬ InShape [] a :=
  fun inShape => inShape.1 rfl

theorem not_inShape_row {id : RowId} : ¬ InShape t (.row id) := by
  rintro ⟨-, c, cell⟩
  cases cell

/-- **A second mark**.  What is recorded in the shape is marked there again; the flag and the rows
refuse it. -/
theorem Selects.mark_of_isMarked (selects : b.Selects hasRows t a)
    (marked : b.isMarked hasRows t = true) :
    (InShape t a → b.mark hasRows t = .ok b) ∧
      (¬ InShape t a → b.mark hasRows t = .error (b.doubleInitialization t)) := by
  have key := selects.rowKey
  unfold isMarked at marked
  unfold mark
  cases selects with
  | scalar scalar =>
    simp only [key, scalar] at marked ⊢
    rw [if_pos marked]
    exact ⟨fun inShape => absurd inShape not_inShape_nil, fun _ => rfl⟩
  | scalarRow scalar rows =>
    simp only [key] at marked ⊢
    rw [if_pos marked]
    exact ⟨fun inShape => absurd inShape not_inShape_row, fun _ => rfl⟩
  | @element shape t array fit full =>
    cases t with
    | nil =>
      simp only [key, array] at marked ⊢
      rw [if_pos marked]
      exact ⟨fun inShape => absurd inShape not_inShape_nil, fun _ => rfl⟩
    | cons i t =>
      simp only [key, array] at marked ⊢
      rw [Shape.mark_of_isMarked marked]
      refine ⟨fun _ => ?_, fun outside => absurd ⟨List.cons_ne_nil i t, _, rfl⟩ outside⟩
      show Except.ok { b with shape := some shape } = .ok b
      rw [← array]
  | elementRow array fit full rows =>
    simp only [key] at marked ⊢
    rw [if_pos marked]
    exact ⟨fun inShape => absurd inShape not_inShape_row, fun _ => rfl⟩

/-- **A first mark** changes the answer for its own tuple and for no other that selects a cell or a
row. -/
theorem Selects.isMarked_mark (selects : b.Selects hasRows t a)
    (given : b.mark hasRows t = .ok b') {t' : List Int} {a' : Address}
    (other : b.Selects hasRows t' a') :
    b'.isMarked hasRows t' = (b.isMarked hasRows t' || decide (t' = t)) := by
  have after := other.congr (cleared_mark given)
  rw [after.isMarked_eq, other.isMarked_eq, selects.recorded_mark given]
  congr 1
  rw [Bool.eq_iff_iff, decide_eq_true_eq, decide_eq_true_eq]
  constructor
  · rintro rfl
    exact other.injective selects
  · rintro rfl
    exact other.functional selects

end Binding

namespace Bound

open Binding

variable {σ : Type} [CellStore σ]

/-- **Marking what a tuple selects.**  If the tuple is not marked yet, it is marked: the store stays
as it is, and the answer for every other tuple that selects a cell or a row.  If it is marked, the
state does not change.  The mark then fails as a double initialization, except for a cell of an
array that is reached through indexes, for which it succeeds again. -/
theorem mark_selected (s : Bound σ) {t : List Int} {a : Address}
    (selects : s.binding.Selects (hasRows s.store) t a) :
    (s.binding.isMarked (hasRows s.store) t = true →
      (InShape t a → mark t s = .ok () s) ∧
        (¬ InShape t a → mark t s = .error (s.binding.doubleInitialization t) s)) ∧
      (s.binding.isMarked (hasRows s.store) t = false →
        ∃ s', mark t s = .ok () s' ∧ s'.store = s.store ∧
          s'.binding.isMarked (hasRows s'.store) t = true ∧
          ∀ t' a', s.binding.Selects (hasRows s.store) t' a' → t' ≠ t →
            s'.binding.isMarked (hasRows s'.store) t' =
              s.binding.isMarked (hasRows s.store) t') := by
  constructor
  · intro marked
    obtain ⟨again, refused⟩ := selects.mark_of_isMarked marked
    rw [mark_eq]
    exact ⟨fun inShape => by rw [again inShape], fun outside => by rw [refused outside]⟩
  · intro unmarked
    obtain ⟨target, leads, -⟩ := selects.target
    obtain ⟨b, given⟩ := Binding.exists_mark leads unmarked
    have answers {t' : List Int} {a' : Address}
        (other : s.binding.Selects (hasRows s.store) t' a') := selects.isMarked_mark given other
    refine ⟨⟨b, s.store⟩, ?_, rfl, ?_, fun t' a' other different => ?_⟩
    · rw [mark_eq, given]
    · show b.isMarked (hasRows s.store) t = true
      rw [answers selects, decide_eq_true rfl, Bool.or_true]
    · show b.isMarked (hasRows s.store) t' = _
      rw [answers other, decide_eq_false different, Bool.or_false]

/-- Marking a row of a cell leaves the cell and its other rows as they are.  The row cannot be
marked again. -/
theorem mark_selected_row :
    let A : Binding := { name := "A", typeName := "int", base := ⟨0⟩, shape := some (.fresh [2]) }
    let s : Bound Memory := ⟨A, { packsRows := true, next := 2 }⟩
    ∃ s', mark [1, 4] s = .ok () s' ∧ s'.binding.isMarked true [1] = false ∧
      s'.binding.isMarked true [1, 5] = false ∧
      mark [1, 4] s' = .error (.doubleInitialization "A" [1, 4]) s' := by
  intro A s
  have fit : (Shape.fresh [2]).accepts [1] = true := rfl
  have cell : A.Selects true [1] (.cell ⟨1⟩) := .element rfl fit rfl
  have row (rows : Std.ExtTreeSet RowId) (i : Int) :
      Selects { A with rows } true [1, i] (.row ⟨⟨1⟩, i⟩) := .elementRow rfl fit rfl rfl
  obtain ⟨s', given, -, marked, others⟩ := (mark_selected s (row ∅ 4)).2 rfl
  cases given
  exact ⟨_, rfl, others [1] _ cell (by decide), others [1, 5] _ (row ∅ 5) (by decide),
    ((mark_selected _ (row _ 4)).1 marked).2 not_inShape_row⟩

/-- **An array takes the mark of a cell twice.** -/
theorem element_marked_twice :
    let A : Binding := { name := "A", typeName := "int", base := ⟨0⟩, shape := some (.fresh [2]) }
    let s : Bound Memory := ⟨A, { next := 2 }⟩
    A.Selects (hasRows s.store) [0] (.cell ⟨0⟩) ∧
      ∃ s', mark [0] s = .ok () s' ∧ s'.binding.isMarked (hasRows s'.store) [0] = true ∧
        mark [0] s' = .ok () s' := by
  intro A s
  have fit : (Shape.fresh [2]).accepts [0] = true := rfl
  have element : A.Selects false [0] (.cell ⟨0⟩) := .element rfl fit rfl
  exact ⟨element, _, rfl, rfl, rfl⟩

end Bound

end ArrayCells
