import ArrayCells.Proofs.SameOperands

/-!
# Raw reads and reads of an evaluator

A raw read finds the target of a tuple and fetches what is held there.  An evaluator decides by the
length of the tuple what to look for, and only then for where it lies.  As long as no dimension is
left open, it arrives at the same target, in every store.

* `Binding.itemOfScalar_eq_target`, `Binding.itemOfArray_eq_target`: the evaluator's rules, for
  scalars and for arrays;
* `Binding.item_eq_target`: an access reads the target of its tuple;
* `Binding.readTarget_agree`: what is read from one target, both ways;
* `Binding.read_agrees_item`: both reads agree.
-/

namespace ArrayCells

open CellStore

namespace Binding

variable {σ : Type} [CellStore σ] {b : Binding} {t : List Int} {xs : List Operand}

/-- What an evaluator reads from a target. -/
def readTarget (store : σ) (b : Binding) (label : String) (ctx : Context) :
    Target → Except Fault Operand
  | .row c row => readRow store label c row
  | .scalar c | .indexed c => b.readCell store c ctx

/-! ### Accesses and targets -/

theorem itemOfScalar_eq_target (scalar : b.shape = none) (store : σ) (t : List Int) (label : String)
    (ctx : Context) :
    b.itemOfScalar store ⟨t, none⟩ label ctx =
      (b.target (hasRows store) t).bind (b.readTarget store label ctx) := by
  rcases t with _ | ⟨row, _ | ⟨next, t⟩⟩ <;> cases packed : hasRows store <;>
    simp only [itemOfScalar, target, cellTarget, cell, scalar, packed] <;> rfl

/-- **An array is read at the target of the tuple**, unless the tuple is too short.  The cases are
the evaluator's: what the tuple has beyond the indexes of a cell. -/
theorem itemOfArray_eq_target {shape : Shape} (array : b.shape = some shape) (store : σ)
    (reaches : shape.dim ≤ t.length) (label : String) (ctx : Context) :
    b.itemOfArray store shape ⟨t, none⟩ label ctx =
      (b.target (hasRows store) t).bind (b.readTarget store label ctx) := by
  have cell : b.cellTarget t = (shape.locate b.base t).map .indexed := by
    rw [cellTarget, cell_of_array array, array]
    cases shape.locate b.base t <;> rfl
  rw [target_of_array array, cell_of_array array]
  cases beyond : t.drop shape.dim with
  | nil =>
    have full : shape.isFull t = true := by
      rw [Shape.isFull_iff]
      exact Nat.le_antisymm (List.drop_eq_nil_iff.mp beyond) reaches
    simp only [itemOfArray, beyond, full, if_true, ite_self, cell]
    cases shape.locate b.base t <;> rfl
  | cons row rest =>
    have longer : shape.dim < t.length := by
      have length := congrArg List.length beyond
      rw [List.length_drop, List.length_cons] at length
      omega
    have outside : ¬ shape.accepts t = true := fun fit =>
      Nat.not_lt.mpr (length_le_of_fits fit) longer
    have something : t.isEmpty = false := by
      cases t with
      | nil => cases longer
      | cons i t => rfl
    rw [Shape.locate_of_not_accepts b.base outside] at cell
    have region := Shape.narrow_of_not_accepts b.base none none outside
    cases rest with
    | nil =>
      cases packed : hasRows store with
      | true =>
        simp only [itemOfArray, beyond, packed, something]
        cases shape.locate b.base (t.take shape.dim) <;> rfl
      | false =>
        simp only [itemOfArray, beyond, packed, cell, Option.getD_none, region]
        rfl
    | cons next rest =>
      simp only [itemOfArray, beyond, cell, Option.getD_none, region, ite_self]
      rfl

/-- **An access reads the target of its tuple**, whatever the store, if it leaves no dimension
open. -/
theorem item_eq_target (evaluated : Access.ofOperands xs = .ok ⟨t, none⟩) (store : σ)
    (reaches : ∀ shape, b.shape = some shape → shape.dim ≤ t.length) (ctx : Context) :
    b.item store xs ctx =
      ((b.target (hasRows store) t).bind
        (b.readTarget store (Access.label ⟨t, none⟩ ctx.label) ctx)).map
          (·.withLabel (Access.label ⟨t, none⟩ ctx.label)) := by
  cases kind : b.shape with
  | none => rw [item_of_scalar kind evaluated, itemOfScalar_eq_target kind]
  | some shape =>
    rw [item_of_array kind evaluated, itemOfArray_eq_target kind store (reaches shape kind)]

/-! ### What is read -/

theorem readTarget_agree (default : ReadsByDefault σ)
    (constants : b.isConstant = false ∨ ConstantsByDefault σ) (store : σ) (t : List Int)
    (target : Target) (label : String) (ctx : Context) :
    AgreeOnKind (fun content x => x = content.toOperand.withLabel label)
      (match readAt store target.address with
        | some content => .ok content
        | none => .error (b.unread t target.address))
      ((b.readTarget store label ctx target).map (·.withLabel label)) := by
  have cells (c : CellId) : b.readCell store c ctx =
      match CellStore.read store c with
      | some content => .ok content.toOperand
      | none => .error (.uninitializedRead (ctx.label.getD c.text) (.cell c)) :=
    (readCell_eq_readItem constants store c ctx).trans (default store c ctx)
  cases target with
  | row c row =>
    simp only [readTarget, readRow, Target.address, readAt]
    cases CellStore.readRow store c row with
    | none => exact .error rfl
    | some content => exact .ok rfl
  | scalar c | indexed c =>
    simp only [readTarget, cells, Target.address, readAt]
    cases CellStore.read store c with
    | none => exact .error rfl
    | some content => exact .ok rfl

/-- **The raw read and the evaluator's read agree.**  In a store that reads all cells in the way
given for all stores, a tuple that leaves no dimension open gives the same contents both ways, or
fails both ways with faults of one kind.  The evaluator's operand is the contents under the label of
the access. -/
theorem read_agrees_item (default : ReadsByDefault σ)
    (constants : b.isConstant = false ∨ ConstantsByDefault σ) (store : σ)
    (evaluated : Access.ofOperands xs = .ok ⟨t, none⟩)
    (reaches : ∀ shape, b.shape = some shape → shape.dim ≤ t.length) (ctx : Context) :
    AgreeOnKind
      (fun content x => x = content.toOperand.withLabel (Access.label ⟨t, none⟩ ctx.label))
      (b.read store t) (b.item store xs ctx) := by
  rw [item_eq_target evaluated store reaches]
  cases leads : b.target (hasRows store) t with
  | error fault =>
    rw [read, leads]
    exact .error rfl
  | ok target =>
    rw [read_of_target leads]
    exact readTarget_agree default constants store t target _ ctx

/-- A row of a constant's cell, read both ways; and a row that no cell has. -/
theorem read_agrees_item_row :
    let k : Binding :=
      { name := "k", typeName := "int", shape := some (.fresh [2]), base := ⟨4⟩,
        flags := { constant := true } }
    let store : Memory :=
      { rows := (∅ : Std.ExtTreeMap RowId Content).insert ⟨⟨5⟩, 7⟩ (.number 3), packsRows := true }
    k.read store [1, 7] = .ok (.number 3) ∧
      k.item store [.int 1, .int 7] {} = .ok (.int 3 (some "___")) ∧
      ∃ fault, k.item store [.int 2, .int 7] {} = .error fault ∧ fault.kind = .indexOutOfShape := by
  intro k store
  have array : k.shape = some (.fresh [2]) := rfl
  have reaches : ∀ shape, k.shape = some shape → shape.dim ≤ 2 := by
    intro shape same
    rw [array] at same
    cases same
    decide
  have held : store.rows[(⟨⟨5⟩, 7⟩ : RowId)]? = some (.number 3) :=
    Std.ExtTreeMap.getElem?_insert_self
  have raw : k.read store [1, 7] = .ok (.number 3) := by
    have selects : k.Selects (hasRows store) ([1] ++ [7]) (.row ⟨⟨5⟩, 7⟩) :=
      .elementRow array (by decide) rfl rfl
    refine selects.read.trans ?_
    simp only [readAt, CellStore.readRow, held]
  have default : ReadsByDefault Memory := fun _ _ _ => rfl
  have constants : ConstantsByDefault Memory := fun _ _ _ => rfl
  have element : Access.ofOperands [.int 1, .int 7] = .ok ⟨[1, 7], none⟩ :=
    Access.ofOperands_int [1, 7]
  have missing : Access.ofOperands [.int 2, .int 7] = .ok ⟨[2, 7], none⟩ :=
    Access.ofOperands_int [2, 7]
  have inside := read_agrees_item default (.inr constants) store element reaches {}
  have outside := read_agrees_item default (.inr constants) store missing reaches {}
  have refused : k.read store [2, 7] = .error (.indexOutOfShape [2] [2]) := rfl
  rw [raw] at inside
  rw [refused] at outside
  refine ⟨raw, ?_, ?_⟩
  · generalize k.item store [.int 1, .int 7] {} = read at inside ⊢
    cases inside with
    | ok same =>
      rw [same]
      rfl
  · generalize k.item store [.int 2, .int 7] {} = read at outside ⊢
    cases outside with
    | error same => exact ⟨_, rfl, same.symm⟩

end Binding

end ArrayCells
