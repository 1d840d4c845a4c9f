import ArrayCells.Proofs.Writing

/-!
# Faults without a place

The library raises its faults without a place, which is attached by those who know it.  A calculation
`FailsBare` if it raises no fault that has a place; there is one lemma for each function that reads
and writes are made of.
-/

namespace ArrayCells

/-! ### Faults without a place -/

namespace Fault

/-- The fault has no place. -/
def Bare (fault : Fault) : Prop :=
  fault.source? = none

theorem within_none (fault : Fault) : fault.within none = fault := by
  cases fault <;> rfl

theorem Bare.within {fault : Fault} (h : fault.Bare) (place : Place) :
    fault.within (some place) = .located place fault := by
  cases fault with
  | located => cases h
  | _ => rfl

end Fault

/-- The calculation fails with no fault that has a place. -/
def FailsBare {α : Type} (x : Except Fault α) : Prop :=
  ∀ fault, x = .error fault → fault.Bare

namespace FailsBare

variable {α β : Type}

theorem ok (a : α) : FailsBare (.ok a) := by
  rintro _ ⟨⟩

theorem error {fault : Fault} (h : fault.Bare) : FailsBare (α := α) (.error fault) := by
  rintro fault' ⟨⟩
  exact h

theorem bind {x : Except Fault α} {next : α → Except Fault β} (h : FailsBare x)
    (h' : ∀ a, FailsBare (next a)) : FailsBare (x >>= next) := by
  cases x with
  | ok a => exact h' a
  | error fault => exact error (h fault rfl)

theorem map {x : Except Fault α} (h : FailsBare x) (f : α → β) : FailsBare (x.map f) := by
  cases x with
  | ok a => exact ok (f a)
  | error fault => exact error (h fault rfl)

end FailsBare

/-! ### Operands and shapes -/

theorem ArithOp.failsBare_apply (op : ArithOp) (m n : Int) : FailsBare (op.apply m n) := by
  unfold apply
  split
  · exact .ok _
  · exact .error rfl

theorem failsBare_negate (n : Int) : FailsBare (negate n) := by
  unfold negate
  split
  · exact .ok _
  · exact .error rfl

namespace Operand

theorem failsBare_toInt (x : Operand) : FailsBare x.toInt := by
  fun_induction toInt x with
  | case1 n => exact .ok n
  | case2 x _ inner => exact inner
  | case3 x _ inner => exact inner.bind failsBare_negate
  | case4 op a b _ left right => exact left.bind fun m => right.bind fun n => op.failsBare_apply m n
  | case5 => exact .error rfl

theorem failsBare_boundValue (bound : Option Operand) : FailsBare (boundValue bound) := by
  cases bound with
  | none => exact .ok none
  | some x => exact x.failsBare_toInt.map some

theorem failsBare_boundValues (bounds : Option Operand × Option Operand) :
    FailsBare (boundValues bounds) :=
  (failsBare_boundValue bounds.1).bind fun _ => (failsBare_boundValue bounds.2).bind fun _ => .ok _

end Operand

theorem Access.failsBare_ofOperandsFrom (position count : Nat) (indexes : List Operand) :
    FailsBare (ofOperandsFrom position count indexes) := by
  induction indexes generalizing position with
  | nil => exact .ok _
  | cons x rest ih =>
    unfold ofOperandsFrom
    split
    · split
      · exact (Operand.failsBare_boundValues _).bind fun _ => .ok _
      · exact .error rfl
    · exact x.failsBare_toInt.bind fun _ => (ih (position + 1)).bind fun _ => .ok _

namespace Shape

variable (shape : Shape) (t : List Int) (base : CellId)

theorem failsBare_offset : FailsBare (shape.offset t) := by
  unfold offset
  split
  · exact .ok _
  · exact .error rfl

theorem failsBare_locate : FailsBare (shape.locate base t) :=
  (shape.failsBare_offset t).bind fun _ => .ok _

theorem failsBare_mark : FailsBare (shape.mark t) :=
  (shape.failsBare_offset t).bind fun _ => .ok _

end Shape

/-! ### Bindings -/

namespace Binding

variable (b : Binding)

theorem failsBare_cell (t : List Int) : FailsBare (b.cell t) := by
  unfold cell
  split
  · exact Shape.failsBare_locate _ _ b.base
  · exact .ok _
  · exact .error rfl

theorem failsBare_target (hasRows : Bool) (t : List Int) : FailsBare (b.target hasRows t) := by
  have cells (t : List Int) : FailsBare (b.cellTarget t) :=
    (b.failsBare_cell t).bind fun _ => .ok _
  unfold target
  split
  · exact cells t
  · split
    · exact .ok _
    · exact .error rfl
    · split
      · exact (b.failsBare_cell _).bind fun _ => .ok _
      · exact cells _

theorem failsBare_mark (hasRows : Bool) (t : List Int) : FailsBare (b.mark hasRows t) := by
  unfold mark
  split
  · split
    · exact .error rfl
    · exact .ok _
  · split
    · exact (Shape.failsBare_mark _ _).bind fun _ => .ok _
    · split
      · exact .error rfl
      · exact .ok _

theorem failsBare_opened (hasRows : Bool) (t : List Int) : FailsBare (b.opened hasRows t) := by
  unfold opened
  split
  · exact .ok _
  · split
    · exact .ok _
    · split
      · exact .ok _
      · exact .error rfl

end Binding

theorem RightSide.failsBare_asSingle (value : RightSide) (name : String) :
    FailsBare (value.asSingle name) := by
  cases value with
  | sequence => exact .error rfl
  | _ => exact .ok _

end ArrayCells
