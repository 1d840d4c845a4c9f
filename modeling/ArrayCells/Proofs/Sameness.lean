import ArrayCells.Fault
import ArrayCells.Operand

/-!
# Operands that are the same

`same` compares operands apart from labels.  Reads that agree in this sense, or fail for causes of
one kind, have the same outcome.
-/

namespace ArrayCells

theorem View.same_iff (v w : View) :
    v.same w = true ↔
      v.typeName = w.typeName ∧ v.shape.lengths = w.shape.lengths ∧ v.base = w.base := by
  simp only [View.same, Bool.and_eq_true, beq_iff_eq, and_assoc]

namespace Operand

mutual

theorem same_refl : ∀ x : Operand, x.same x = true
  | int n _ => by simp only [same, beq_self_eq_true]
  | range lo hi _ => by simp only [same, sameBound_refl lo, sameBound_refl hi, Bool.and_self]
  | view v _ => by
    rw [same, View.same_iff]
    exact ⟨rfl, rfl, rfl⟩
  | list xs _ _ => by simp only [same, sameItems_refl xs]
  | spread x _ => by simp only [same, same_refl x]
  | group x _ => by simp only [same, same_refl x]
  | neg x _ => by simp only [same, same_refl x]
  | arith op a b _ => by
    simp only [same, same_refl a, same_refl b, beq_self_eq_true, Bool.and_self]

theorem sameBound_refl : ∀ bound : Option Operand, sameBound bound bound = true
  | none => by simp only [sameBound]
  | some x => by simp only [sameBound, same_refl x]

theorem sameItems_refl : ∀ items : List Operand, sameItems items items = true
  | [] => by simp only [sameItems]
  | x :: xs => by simp only [sameItems, same_refl x, sameItems_refl xs, Bool.and_self]

end

/-- Labels are not compared. -/
theorem same_withLabel? (x y : Operand) (l m : Option String) :
    (x.withLabel? l).same (y.withLabel? m) = x.same y := by
  cases x <;> cases y <;> simp only [withLabel?, same]

end Operand

/-- Both reads succeed with operands that are the same, or both fail with faults of one kind. -/
def SameOutcome : Except Fault Operand → Except Fault Operand → Prop
  | .ok x, .ok y => x.same y = true
  | .error e, .error e' => e.kind = e'.kind
  | _, _ => False

end ArrayCells
