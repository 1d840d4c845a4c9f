import Mathlib.Data.List.Forall2
import ArrayCells.Binding.Read
import ArrayCells.Proofs.Evaluation

/-!
# Indexes that are prepared before an access

An access works out its index operands by itself: the last one can be a range, all others have to be
integers.  It does not matter whether they have been evaluated or instantiated before.  The access is
the same then, or it is refused for a cause of the same kind, and so is what is read.

* `Operand.Prepared`: what an operand becomes by evaluation or instantiation;
* `Operand.IndexedAlike`: operands that an access takes alike, as `Prepared.indexedAlike` says of
  prepared ones;
* `Access.ofOperands_agree`: accesses by such operands agree;
* `Binding.item_of_prepared`: reads with prepared indexes agree with reads as they are written.
-/

namespace ArrayCells

namespace Operand

/-- What the operand becomes when it is evaluated, or instantiated with or without unrolling. -/
inductive Prepared {τ : Type} [CellStore τ] (given : τ) (x : Operand) : Operand → Prop
  | evaluated {y : Operand} (h : x.evaluate = .ok y) : Prepared given x y
  | instantiated {y : Operand} (unroll : Bool) (h : x.instantiate given unroll = .ok y) :
      Prepared given x y

/-- As indexes, the operands are taken alike: as integers and as ranges. -/
structure IndexedAlike (x y : Operand) : Prop where
  value : AgreeOnKind Eq x.toInt y.toInt
  range : x.SameRange y

theorem Prepared.indexedAlike {τ : Type} [CellStore τ] {given : τ} {x y : Operand}
    (h : Prepared given x y) : IndexedAlike x y := by
  cases h with
  | evaluated h => exact ⟨toInt_agree_of_evaluate h, sameRange_of_evaluate h⟩
  | instantiated unroll h => exact ⟨toInt_agree_of_instantiate h, sameRange_of_instantiate h⟩

end Operand

namespace Access

/-- Both lists of operands are gone through in step: what is a range in one is a range at the same
place of the other. -/
theorem ofOperandsFrom_agree (position count : Nat) {indexes indexes' : List Operand}
    (h : List.Forall₂ Operand.IndexedAlike indexes indexes') :
    AgreeOnKind Eq (ofOperandsFrom position count indexes)
      (ofOperandsFrom position count indexes') := by
  induction h generalizing position with
  | nil => exact .ok rfl
  | @cons x y rest rest' head tail ih =>
    have ranges : Option.Rel _ x.range? y.range? := head.range
    rw [ofOperandsFrom, ofOperandsFrom]
    generalize x.range? = bounds at ranges ⊢
    generalize y.range? = bounds' at ranges ⊢
    cases ranges with
    | none =>
      refine head.value.bind fun i j same => (ih (position + 1)).bind fun access access' rest => ?_
      rw [same, rest]
      exact .ok rfl
    | some agree =>
      -- Both ranges come last, or both are misplaced.
      cases tail with
      | nil =>
        refine agree.bind fun values values' same => ?_
        rw [same]
        exact .ok rfl
      | cons => exact .error rfl

theorem ofOperands_agree {indexes indexes' : List Operand}
    (h : List.Forall₂ Operand.IndexedAlike indexes indexes') :
    AgreeOnKind Eq (ofOperands indexes) (ofOperands indexes') := by
  rw [ofOperands, ofOperands, h.length_eq]
  exact ofOperandsFrom_agree 0 _ h

end Access

namespace Binding

variable {σ τ : Type} [CellStore σ] [CellStore τ]

/-- **Preparing the indexes never changes a read.**  If every index can be evaluated, or
instantiated with or without unrolling and over whatever store, then a read with the prepared
indexes gives the same operand under the same label as a read with the indexes as they are, or both
fail with faults of one kind. -/
theorem item_of_prepared (store : σ) (given : τ) (b : Binding) {indexes prepared : List Operand}
    (h : List.Forall₂ (Operand.Prepared given) indexes prepared) (ctx : Context) :
    AgreeOnKind Eq (b.item store prepared ctx) (b.item store indexes ctx) := by
  have alike : List.Forall₂ Operand.IndexedAlike indexes prepared :=
    h.imp fun _ _ => Operand.Prepared.indexedAlike
  have access := Access.ofOperands_agree alike
  rw [item, item]
  generalize Access.ofOperands indexes = written at access ⊢
  generalize Access.ofOperands prepared = ready at access ⊢
  cases access with
  | ok same =>
    rw [same]
    exact .refl _
  | error kind => exact .error kind.symm

/-- The slice `m[2 - 1][(-(-1)..)]`, with the first index evaluated and the second instantiated; and
a spread, which is no index, and neither is the list that it becomes. -/
theorem item_of_prepared_slice :
    let grid : Binding :=
      { name := "m", typeName := "int", shape := some (.fresh [2, 3]), base := ⟨4⟩ }
    let row : Operand := .arith .sub (.int 2) (.int 1)
    let columns : Operand := .group (.range (some (.neg (.int (-1)))) none)
    (∃ view, grid.item ({} : Memory) [row, columns] {} = .ok view ∧
      grid.item ({} : Memory) [.int 1, columns] {} = .ok view) ∧
    ∃ fault, grid.item ({} : Memory) [.list [.int 1]] {} = .error fault ∧
      fault.kind = .typeMismatch := by
  intro grid row columns
  have evaluated : Operand.Prepared ({} : Memory) row (.int 1) := .evaluated rfl
  have instantiated : Operand.Prepared ({} : Memory) columns columns := .instantiated true rfl
  have unrolled : Operand.Prepared ({} : Memory) (.spread (.list [.int 1])) (.list [.int 1]) :=
    .instantiated true rfl
  have slice := item_of_prepared ({} : Memory) ({} : Memory) grid
    (.cons evaluated (.cons instantiated .nil)) {}
  have refused := item_of_prepared ({} : Memory) ({} : Memory) grid (.cons unrolled .nil) {}
  refine ⟨⟨_, rfl, (slice.ok_iff _).mpr rfl⟩, ?_⟩
  generalize grid.item ({} : Memory) [.list [.int 1]] {} = read at refused ⊢
  cases refused with
  | error kind => exact ⟨_, rfl, kind⟩

end Binding

end ArrayCells
