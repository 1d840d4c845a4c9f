import ArrayCells.Proofs.Address
import ArrayCells.Proofs.Marks

/-!
# Which tuples select a cell or a row

A tuple selects one cell if it is empty on a scalar or has all the indexes of an array, and one row
if it has one index more and the store packs rows.  `Selects` says so in these words, apart from the
way in which `target` finds out.

* `Selects.target` and `selects_of_target`: the two agree, for all tuples that leave no dimension
  open (`Closed`);
* `Selects.injective`: different tuples of one binding select different addresses;
* `Selects.spanned`: what is selected lies between the base of the binding and its end.

None of this depends on what the binding has recorded: bindings that are the same once `cleared`
select the same.
-/

namespace ArrayCells.Binding

/-- The binding as it was made, before anything was recorded. -/
def cleared (b : Binding) : Binding :=
  { b with shape := b.shape.map fun shape => .fresh shape.lengths, whole := false, rows := ∅ }

/-- The tuple selects the one cell or row at the address. -/
inductive Selects (b : Binding) (hasRows : Bool) : List Int → Address → Prop
  | scalar (scalar : b.shape = none) : Selects b hasRows [] (.cell b.base)
  | scalarRow {row : Int} (scalar : b.shape = none) (rows : hasRows = true) :
      Selects b hasRows [row] (.row ⟨b.base, row⟩)
  | element {shape : Shape} {t : List Int} (array : b.shape = some shape)
      (fit : shape.accepts t = true) (full : t.length = shape.dim) :
      Selects b hasRows t (.cell (b.base.advance (rank shape.lengths t)))
  | elementRow {shape : Shape} {t : List Int} {row : Int} (array : b.shape = some shape)
      (fit : shape.accepts t = true) (full : t.length = shape.dim) (rows : hasRows = true) :
      Selects b hasRows (t ++ [row]) (.row ⟨b.base.advance (rank shape.lengths t), row⟩)

/-- The tuple leaves no dimension of an array open: it has all indexes, or it selects a row. -/
def Closed (b : Binding) (hasRows : Bool) (t : List Int) : Prop :=
  ∀ shape, b.shape = some shape → t.length = shape.dim ∨ (b.rowKey? hasRows t).isSome = true

/-! ### What does not depend on the record -/

@[simp]
theorem cleared_base (b : Binding) : b.cleared.base = b.base := rfl

@[simp]
theorem cleared_isConstant (b : Binding) : b.cleared.isConstant = b.isConstant := rfl

theorem target_cleared (b : Binding) (hasRows : Bool) (t : List Int) :
    b.cleared.target hasRows t = b.target hasRows t := by
  rcases b with ⟨name, typeName, isAlias, shape, base, scope, whole, rows, flags⟩
  cases shape <;> rfl

theorem size_cleared (b : Binding) : b.cleared.size = b.size := by
  rcases b with ⟨name, typeName, isAlias, shape, base, scope, whole, rows, flags⟩
  cases shape with
  | none => rfl
  | some shape =>
    show (List.replicate (volume shape.lengths) false).length = shape.marks.length
    rw [List.length_replicate, shape.length_marks]

theorem Selects.cleared {b : Binding} {hasRows : Bool} {t : List Int} {a : Address}
    (h : b.Selects hasRows t a) : b.cleared.Selects hasRows t a := by
  cases h with
  | scalar scalar => exact .scalar (b := b.cleared) (by rw [Binding.cleared, scalar]; rfl)
  | scalarRow scalar rows =>
    exact .scalarRow (b := b.cleared) (by rw [Binding.cleared, scalar]; rfl) rows
  | @element shape t array fit full =>
    have fresh : b.cleared.shape = some (.fresh shape.lengths) := by
      rw [Binding.cleared, array]; rfl
    have chosen : b.cleared.Selects hasRows t _ := .element fresh fit full
    exact chosen
  | @elementRow shape t row array fit full rows =>
    have fresh : b.cleared.shape = some (.fresh shape.lengths) := by
      rw [Binding.cleared, array]; rfl
    have chosen : b.cleared.Selects hasRows (t ++ [row]) _ := .elementRow fresh fit full rows
    exact chosen

theorem selects_of_cleared {b : Binding} {hasRows : Bool} {t : List Int} {a : Address}
    (h : b.cleared.Selects hasRows t a) : b.Selects hasRows t a := by
  have lengths : ∀ {shape}, b.cleared.shape = some shape →
      ∃ kept, b.shape = some kept ∧ kept.lengths = shape.lengths := by
    intro shape hs
    obtain ⟨kept, hk, rfl⟩ := Option.map_eq_some_iff.mp hs
    exact ⟨kept, hk, rfl⟩
  cases h with
  | scalar scalar => exact .scalar (Option.map_eq_none_iff.mp scalar)
  | scalarRow scalar rows => exact .scalarRow (Option.map_eq_none_iff.mp scalar) rows
  | element array fit full =>
    obtain ⟨kept, hk, same⟩ := lengths array
    rw [Shape.accepts, ← same] at fit
    rw [Shape.dim, ← same] at full
    rw [← same]
    exact .element hk fit full
  | elementRow array fit full rows =>
    obtain ⟨kept, hk, same⟩ := lengths array
    rw [Shape.accepts, ← same] at fit
    rw [Shape.dim, ← same] at full
    rw [← same]
    exact .elementRow hk fit full rows

theorem name_congr {b b' : Binding} (same : b'.cleared = b.cleared) : b'.name = b.name := by
  have names := congrArg Binding.name same
  exact names

theorem shape_congr {b b' : Binding} (same : b'.cleared = b.cleared) {shape : Shape}
    (array : b.shape = some shape) :
    ∃ shape', b'.shape = some shape' ∧ shape'.lengths = shape.lengths := by
  have shapes := congrArg Binding.shape same
  simp only [cleared, array, Option.map_some] at shapes
  obtain ⟨shape', array', fresh⟩ := Option.map_eq_some_iff.mp shapes
  have lengths := congrArg Shape.lengths fresh
  exact ⟨shape', array', lengths⟩

theorem scalar_congr {b b' : Binding} (same : b'.cleared = b.cleared) (scalar : b.shape = none) :
    b'.shape = none := by
  have shapes := congrArg Binding.shape same
  simp only [cleared, scalar, Option.map_none] at shapes
  exact Option.map_eq_none_iff.mp shapes

theorem base_congr {b b' : Binding} (same : b'.cleared = b.cleared) : b'.base = b.base := by
  rw [← cleared_base, same, cleared_base]

theorem isAlias_congr {b b' : Binding} (same : b'.cleared = b.cleared) :
    b'.isAlias = b.isAlias := by
  have aliases := congrArg Binding.isAlias same
  exact aliases

theorem size_congr {b b' : Binding} (same : b'.cleared = b.cleared) : b'.size = b.size := by
  rw [← size_cleared, same, size_cleared]

theorem isConstant_congr {b b' : Binding} (same : b'.cleared = b.cleared) :
    b'.isConstant = b.isConstant := by
  rw [← cleared_isConstant, same, cleared_isConstant]

/-- Bindings that differ only in what they have recorded select the same addresses. -/
theorem Selects.congr {b b' : Binding} {hasRows : Bool} {t : List Int} {a : Address}
    (h : b.Selects hasRows t a) (same : b'.cleared = b.cleared) : b'.Selects hasRows t a :=
  selects_of_cleared (same ▸ h.cleared)

theorem rowKey?_congr {b b' : Binding} (same : b'.cleared = b.cleared) (hasRows : Bool)
    (t : List Int) : b'.rowKey? hasRows t = b.rowKey? hasRows t := by
  rw [rowKey?, ← target_cleared b', same, target_cleared, rowKey?]

theorem Closed.congr {b b' : Binding} {hasRows : Bool} {t : List Int}
    (closed : b.Closed hasRows t) (same : b'.cleared = b.cleared) : b'.Closed hasRows t := by
  intro shape' array'
  obtain ⟨shape, array, lengths⟩ := shape_congr same.symm array'
  have dims : shape.dim = shape'.dim := congrArg List.length lengths
  rw [rowKey?_congr same, ← dims]
  exact closed shape array

/-! ### Selection and targets -/

theorem cell_of_array {b : Binding} {shape : Shape} (array : b.shape = some shape)
    (t : List Int) : b.cell t = shape.locate b.base t := by
  simp only [cell, array]

theorem target_of_scalar {b : Binding} (scalar : b.shape = none) (hasRows : Bool) (t : List Int) :
    b.target hasRows t =
      if (!hasRows || t.isEmpty) = true then b.cellTarget t
      else match t with
        | [row] => .ok (.row b.base row)
        | _ => .error b.notAnArray := by
  rcases b with ⟨name, typeName, isAlias, shape', base, scope, whole, rows, flags⟩
  cases scalar
  rcases t with _ | ⟨row, _ | ⟨next, t⟩⟩ <;> rfl

/-- A scalar takes one index, for its rows, if the store packs rows, and none otherwise. -/
theorem target_error_iff_of_scalar {b : Binding} (scalar : b.shape = none) {hasRows : Bool}
    {t : List Int} {fault : Fault} :
    b.target hasRows t = .error fault ↔ hasRows.toNat < t.length ∧ fault = b.notAnArray := by
  rcases t with _ | ⟨row, _ | ⟨next, t⟩⟩ <;> cases hasRows <;>
    simp [target, cellTarget, cell, scalar, bind, Except.bind, pure, Except.pure, eq_comm]

theorem target_of_array {b : Binding} {shape : Shape} (array : b.shape = some shape)
    (hasRows : Bool) (t : List Int) :
    b.target hasRows t =
      if (!hasRows || t.isEmpty) = true then b.cellTarget t
      else match t.drop shape.dim with
        | [row] => do return .row (← b.cell (t.take shape.dim)) row
        | _ => b.cellTarget t := by
  rcases b with ⟨name, typeName, isAlias, shape', base, scope, whole, rows, flags⟩
  cases array
  rfl

/-- A tuple that fits an array leads to the first cell of its region, whether there are rows or
not. -/
theorem target_of_accepts {b : Binding} {shape : Shape} (array : b.shape = some shape)
    {t : List Int} (fit : shape.accepts t = true) (hasRows : Bool) :
    b.target hasRows t = .ok (.indexed (b.base.advance (rank shape.lengths t))) := by
  have direct : b.cellTarget t = .ok (.indexed (b.base.advance (rank shape.lengths t))) := by
    rw [cellTarget, cell_of_array array, Shape.locate_of_accepts b.base fit, array]
    rfl
  have noRow : t.drop shape.dim = [] := List.drop_eq_nil_of_le (length_le_of_fits fit)
  simp only [target_of_array array, noRow, direct, ite_self]

/-- A selecting tuple leads to the address that it selects. -/
theorem Selects.target {b : Binding} {hasRows : Bool} {t : List Int} {a : Address}
    (h : b.Selects hasRows t a) :
    ∃ target, b.target hasRows t = .ok target ∧ target.address = a := by
  cases h with
  | scalar scalar =>
    refine ⟨.scalar b.base, ?_, rfl⟩
    rcases b with ⟨name, typeName, isAlias, shape, base, scope, whole, rows, flags⟩
    cases scalar
    cases hasRows <;> rfl
  | @scalarRow row scalar rows =>
    refine ⟨.row b.base row, ?_, rfl⟩
    rcases b with ⟨name, typeName, isAlias, shape, base, scope, whole, marked, flags⟩
    cases scalar
    cases rows
    rfl
  | @element shape t array fit full =>
    exact ⟨_, target_of_accepts array fit hasRows, rfl⟩
  | @elementRow shape t row array fit full rows =>
    refine ⟨.row (b.base.advance (rank shape.lengths t)) row, ?_, rfl⟩
    have column : (t ++ [row]).take shape.dim = t := by rw [← full, List.take_left]
    have last : (t ++ [row]).drop shape.dim = [row] := by rw [← full, List.drop_left]
    have cell := (cell_of_array array t).trans (Shape.locate_of_accepts b.base fit)
    have indexed : ¬ (!hasRows || (t ++ [row]).isEmpty) = true := by simp [rows]
    rw [target_of_array array, if_neg indexed, last, column]
    show (do return Target.row (← b.cell t) row) = _
    rw [cell]
    rfl

theorem Selects.functional {b : Binding} {hasRows : Bool} {t : List Int} {a a' : Address}
    (h : b.Selects hasRows t a) (h' : b.Selects hasRows t a') : a = a' := by
  obtain ⟨target, ht, rfl⟩ := h.target
  obtain ⟨target', ht', rfl⟩ := h'.target
  rw [Except.ok.inj (ht.symm.trans ht')]

theorem Selects.rowKey {b : Binding} {hasRows : Bool} {t : List Int} {a : Address}
    (h : b.Selects hasRows t a) :
    b.rowKey? hasRows t = match a with | .row id => some id | .cell _ => none := by
  obtain ⟨target, ht, rfl⟩ := h.target
  rw [rowKey?, ht]
  cases target <;> rfl

/-- A selecting tuple leaves nothing open. -/
theorem Selects.closed {b : Binding} {hasRows : Bool} {t : List Int} {a : Address}
    (h : b.Selects hasRows t a) : b.Closed hasRows t := by
  intro shape hs
  have key := h.rowKey
  cases h with
  | scalar scalar => rw [scalar] at hs; cases hs
  | scalarRow scalar rows => rw [scalar] at hs; cases hs
  | element array fit full =>
    rw [array] at hs
    cases hs
    exact .inl full
  | elementRow array fit full rows => exact .inr (by rw [key]; rfl)

/-- What a tuple leads to when it is read as a tuple of indexes alone. -/
theorem cellTarget_ok {b : Binding} {t : List Int} {target : Target}
    (h : b.cellTarget t = .ok target) :
    (b.shape = none ∧ t = [] ∧ target = .scalar b.base) ∨
      ∃ shape, b.shape = some shape ∧ shape.accepts t = true ∧
        target = .indexed (b.base.advance (rank shape.lengths t)) := by
  cases hs : b.shape with
  | none =>
    cases t with
    | nil =>
      simp only [cellTarget, cell, hs] at h
      exact .inl ⟨rfl, rfl, (Except.ok.inj h).symm⟩
    | cons i t => simp only [cellTarget, cell, hs] at h; cases h
  | some shape =>
    refine .inr ⟨shape, rfl, ?_⟩
    by_cases fit : shape.accepts t = true
    · simp only [cellTarget, cell, hs, Shape.locate_of_accepts b.base fit] at h
      exact ⟨fit, (Except.ok.inj h).symm⟩
    · simp only [cellTarget, cell, hs, Shape.locate_of_not_accepts b.base fit] at h
      cases h

/-- The targets of a store that packs rows: those of plain indexes, and rows. -/
theorem target_ok {b : Binding} {hasRows : Bool} {t : List Int} {target : Target}
    (h : b.target hasRows t = .ok target) :
    b.cellTarget t = .ok target ∨
      ∃ c row, target = .row c row ∧ b.Selects hasRows t (.row ⟨c, row⟩) := by
  cases hs : b.shape with
  | none =>
    rw [target_of_scalar hs] at h
    split at h
    · exact .inl h
    · rename_i rows
      rw [Bool.not_eq_true, Bool.or_eq_false_iff, Bool.not_eq_false'] at rows
      split at h
      · rename_i row
        cases h
        exact .inr ⟨b.base, row, rfl, .scalarRow hs rows.1⟩
      · cases h
  | some shape =>
    rw [target_of_array hs] at h
    split at h
    · exact .inl h
    · rename_i rows
      rw [Bool.not_eq_true, Bool.or_eq_false_iff, Bool.not_eq_false'] at rows
      split at h
      · rename_i row last
        -- the tuple is a column of full length followed by the row
        have parts : t.take shape.dim ++ [row] = t := by
          rw [← last, List.take_append_drop]
        have full : (t.take shape.dim).length = shape.dim := by
          have len := congrArg List.length last
          simp only [List.length_drop, List.length_singleton] at len
          rw [List.length_take]
          omega
        by_cases fit : shape.accepts (t.take shape.dim) = true
        · rw [cell_of_array hs, Shape.locate_of_accepts b.base fit] at h
          have chosen : b.Selects hasRows (t.take shape.dim ++ [row]) _ :=
            .elementRow hs fit full rows.1
          rw [parts] at chosen
          exact .inr ⟨_, row, (Except.ok.inj h).symm, chosen⟩
        · rw [cell_of_array hs, Shape.locate_of_not_accepts b.base fit] at h
          cases h
      · exact .inl h

/-- **Closed tuples select what they lead to.**  A tuple that leaves no dimension open is refused
or selects the address of its target. -/
theorem selects_of_target {b : Binding} {hasRows : Bool} {t : List Int} {target : Target}
    (closed : b.Closed hasRows t) (h : b.target hasRows t = .ok target) :
    b.Selects hasRows t target.address := by
  rcases target_ok h with plain | ⟨c, row, rfl, chosen⟩
  · rcases cellTarget_ok plain with ⟨scalar, rfl, rfl⟩ | ⟨shape, array, fit, rfl⟩
    · exact .scalar scalar
    · have full : t.length = shape.dim := by
        rcases closed shape array with full | isRow
        · exact full
        · rw [rowKey?, h] at isRow
          cases isRow
      exact .element array fit full
  · exact chosen

/-! ### Different tuples, different addresses -/

theorem advance_zero (base : CellId) : base.advance 0 = base := rfl

theorem advance_injective {base : CellId} {m n : Nat} (h : base.advance m = base.advance n) :
    m = n := by
  have numbers := congrArg CellId.number h
  simp only [CellId.number_advance] at numbers
  omega

theorem eq_of_advance_rank {shape : Shape} {base : CellId} {t t' : List Int}
    (fit : shape.accepts t = true) (full : t.length = shape.dim)
    (fit' : shape.accepts t' = true) (full' : t'.length = shape.dim)
    (same : base.advance (rank shape.lengths t) = base.advance (rank shape.lengths t')) :
    t = t' :=
  rank_injective fit fit' full full' (advance_injective same)

/-- **Tuples of one binding that select the same address are the same tuple.** -/
theorem Selects.injective {b : Binding} {hasRows : Bool} {t t' : List Int} {a : Address}
    (h : b.Selects hasRows t a) (h' : b.Selects hasRows t' a) : t = t' := by
  generalize ha : a = a' at h'
  cases h with
  | scalar scalar =>
    cases h' with
    | scalar => rfl
    | element array => rw [scalar] at array; cases array
    | scalarRow => cases ha
    | elementRow => cases ha
  | scalarRow scalar rows =>
    cases h' with
    | scalarRow => cases ha; rfl
    | elementRow array => rw [scalar] at array; cases array
    | scalar => cases ha
    | element => cases ha
  | element array fit full =>
    cases h' with
    | scalar scalar => rw [scalar] at array; cases array
    | element array' fit' full' =>
      rw [array] at array'
      cases array'
      exact eq_of_advance_rank fit full fit' full' (Address.cell.inj ha)
    | scalarRow => cases ha
    | elementRow => cases ha
  | elementRow array fit full rows =>
    cases h' with
    | scalarRow scalar => rw [scalar] at array; cases array
    | elementRow array' fit' full' =>
      rw [array] at array'
      cases array'
      obtain ⟨hc, rfl⟩ := RowId.mk.inj (Address.row.inj ha)
      rw [eq_of_advance_rank fit full fit' full' hc]
    | scalar => cases ha
    | element => cases ha

/-- **What is selected lies within the binding**: at its base or behind it, and before its end. -/
theorem Selects.spanned {b : Binding} {hasRows : Bool} {t : List Int} {a : Address}
    (h : b.Selects hasRows t a) : Memory.inRegion b.base b.size a.cellId = true := by
  have inside : ∀ {shape : Shape} {t : List Int}, b.shape = some shape →
      shape.accepts t = true → t.length = shape.dim →
      Memory.inRegion b.base b.size (b.base.advance (rank shape.lengths t)) = true := by
    intro shape t array fit full
    have below := rank_lt_volume fit full
    have size : b.size = volume shape.lengths := by
      rw [Binding.size, array]
      exact shape.length_marks
    rw [Memory.inRegion, size, CellId.number_advance, Bool.and_eq_true, decide_eq_true_eq,
      decide_eq_true_eq]
    omega
  have only : b.shape = none → Memory.inRegion b.base b.size b.base = true := by
    intro scalar
    rw [Memory.inRegion, Binding.size, scalar]
    simp
  cases h with
  | scalar scalar => exact only scalar
  | scalarRow scalar rows => exact only scalar
  | element array fit full => exact inside array fit full
  | elementRow array fit full rows => exact inside array fit full

end ArrayCells.Binding
