import ArrayCells.Proofs.Selection

/-!
# What a binding has recorded

A binding keeps its record in three places: a flag, the marks of its shape, and a set of rows.  All
three together are one set of addresses, `recorded`, and reads and changes of the record are reads
and changes of this set:

* `Selects.isMarked_eq`: `isMarked` asks whether the selected address is recorded;
* `isMarked_of_target_error`, `isMarked_cleared_iff`: what `isMarked` answers where nothing is
  selected or nothing has been recorded;
* `exists_mark`: what leads somewhere and is not marked yet can be marked;
* `Selects.recorded_mark`: `mark` adds the selected address and no other;
* `recorded_of_mark`: `mark` never takes an address away, whatever the tuple;
* `cleared_mark`: all else about the binding stays as it was made.
-/

namespace ArrayCells.Binding

/-- The addresses that are recorded as initialized.  The flag stands for the only cell of a scalar,
or of an array without dimensions. -/
def recorded (b : Binding) : Address → Bool
  | .row id => b.rows.contains id
  | .cell c =>
    match b.shape with
    | none => b.whole && decide (c = b.base)
    | some shape =>
      if shape.dim = 0 then b.whole && decide (c = b.base)
      else decide (b.base.number ≤ c.number) && shape.bit (c.number - b.base.number)

theorem recorded_cleared (b : Binding) (a : Address) : b.cleared.recorded a = false := by
  rcases b with ⟨name, typeName, isAlias, shape, base, scope, whole, rows, flags⟩
  cases a with
  | row id => rfl
  | cell c =>
    cases shape with
    | none => rfl
    | some shape =>
      show (if shape.dim = 0 then false && _ else _ && (Shape.fresh shape.lengths).bit _) = false
      rw [Shape.bit_fresh, Bool.false_and, Bool.and_false, ite_self]

theorem number_inj {c d : CellId} : c.number = d.number ↔ c = d := by
  constructor
  · cases c
    cases d
    exact congrArg CellId.mk
  · exact congrArg CellId.number

/-! ### Reading the record -/

/-- **`isMarked` asks whether the selected address is recorded.** -/
theorem Selects.isMarked_eq {b : Binding} {hasRows : Bool} {t : List Int} {a : Address}
    (h : b.Selects hasRows t a) : b.isMarked hasRows t = b.recorded a := by
  have key := h.rowKey
  unfold isMarked
  cases h with
  | scalar scalar => simp only [key, scalar, recorded, decide_true, Bool.and_true]
  | scalarRow scalar rows => simp only [key, recorded]
  | @element shape t array fit full =>
    simp only [key, array, recorded]
    cases t with
    | nil =>
      have dim : shape.dim = 0 := full.symm
      rw [if_pos dim, rank_nil_right, advance_zero, decide_eq_true rfl, Bool.and_true]
    | cons i t =>
      have dim : shape.dim ≠ 0 := by rw [← full]; exact Nat.succ_ne_zero _
      simp only [if_neg dim, Shape.isMarked_of_full fit full, CellId.number_advance,
        Nat.le_add_right, decide_true, Bool.true_and, Nat.add_sub_cancel_left]
  | elementRow array fit full rows => simp only [key, recorded]

/-! ### Tuples that lead nowhere -/

section Nowhere

variable {b : Binding} {hasRows : Bool} {t : List Int} {fault : Fault}

/-- What leads nowhere does not fit the shape, with or without a row behind it. -/
theorem not_accepts_of_target_error {shape : Shape} (array : b.shape = some shape)
    (nowhere : b.target hasRows t = .error fault) : ¬ shape.accepts t = true := by
  intro fit
  rw [target_of_accepts array fit] at nowhere
  cases nowhere

/-- Without indexes, a tuple always leads somewhere. -/
theorem ne_nil_of_target_error (nowhere : b.target hasRows t = .error fault) : t ≠ [] := by
  rintro rfl
  cases kind : b.shape with
  | none =>
    have scalar : b.Selects hasRows [] (.cell b.base) := .scalar kind
    obtain ⟨target, leads, -⟩ := scalar.target
    rw [leads] at nowhere
    cases nowhere
  | some shape => exact not_accepts_of_target_error kind nowhere (fits_nil _)

theorem rowKey?_of_target_error (nowhere : b.target hasRows t = .error fault) :
    b.rowKey? hasRows t = none := by
  rw [rowKey?, nowhere]

/-- **The record of what leads nowhere**: an array has none, and a scalar answers with its flag. -/
theorem isMarked_of_target_error (nowhere : b.target hasRows t = .error fault) :
    b.isMarked hasRows t = (b.shape.isNone && b.whole) := by
  obtain ⟨i, rest, rfl⟩ := List.exists_cons_of_ne_nil (ne_nil_of_target_error nowhere)
  simp only [isMarked, rowKey?_of_target_error nowhere]
  cases kind : b.shape with
  | none => rfl
  | some shape =>
    have outside := Bool.eq_false_iff.mpr (not_accepts_of_target_error kind nowhere)
    simp only [Shape.isMarked, outside, Bool.false_and, Option.isNone_some]

end Nowhere

/-- **With an empty record** nothing is answered for but regions of an array that have no cells. -/
theorem isMarked_cleared_iff {b : Binding} {hasRows : Bool} {t : List Int} :
    b.cleared.isMarked hasRows t = true ↔
      t ≠ [] ∧ ∃ shape, b.shape = some shape ∧ shape.accepts t = true ∧
        shape.regionSize t.length = 0 := by
  have sameKey : b.cleared.rowKey? hasRows t = b.rowKey? hasRows t := by
    rw [rowKey?, target_cleared, rowKey?]
  unfold isMarked
  rw [sameKey]
  cases key : b.rowKey? hasRows t with
  | some id =>
    refine iff_of_false Bool.false_ne_true ?_
    rintro ⟨-, shape, array, fit, -⟩
    rw [rowKey?, target_of_accepts array fit] at key
    cases key
  | none =>
    rcases b with ⟨name, typeName, isAlias, kind, base, scope, whole, rows, flags⟩
    cases kind with
    | none =>
      refine iff_of_false Bool.false_ne_true ?_
      rintro ⟨-, shape, array, -⟩
      cases array
    | some shape =>
      cases t with
      | nil => exact iff_of_false Bool.false_ne_true fun region => region.1 rfl
      | cons i t =>
        show (Shape.fresh shape.lengths).isMarked (i :: t) = true ↔ _
        rw [Shape.isMarked_fresh_iff]
        constructor
        · intro empty
          exact ⟨List.cons_ne_nil i t, shape, rfl, empty⟩
        · rintro ⟨-, kept, array, empty⟩
          cases array
          exact empty

/-! ### Changing the record -/

/-- What leads somewhere and is not marked yet can be marked. -/
theorem exists_mark {b : Binding} {hasRows : Bool} {t : List Int} {target : Target}
    (h : b.target hasRows t = .ok target) (fresh : b.isMarked hasRows t = false) :
    ∃ b', b.mark hasRows t = .ok b' := by
  unfold isMarked at fresh
  unfold mark
  cases key : b.rowKey? hasRows t with
  | some id =>
    simp only [key] at fresh ⊢
    exact ⟨_, if_neg (by rw [fresh]; exact Bool.false_ne_true)⟩
  | none =>
    simp only [key] at fresh ⊢
    split at fresh
    · rename_i shape i t array
      have fit : shape.accepts (i :: t) = true := by
        rcases target_ok h with plain | ⟨c, row, rfl, -⟩
        · rcases cellTarget_ok plain with ⟨-, nothing, -⟩ | ⟨shape', array', fit, -⟩
          · cases nothing
          · rw [array] at array'
            cases array'
            exact fit
        · rw [rowKey?, h] at key
          cases key
      obtain ⟨marked, hm, -⟩ := Shape.mark_of_accepts fit
      simp only [hm]
      exact ⟨_, rfl⟩
    · simp only [fresh]
      exact ⟨_, rfl⟩

/-- The three ways in which a mark succeeds: a row, a region of a shape, or the flag. -/
theorem mark_ok {b b' : Binding} {hasRows : Bool} {t : List Int}
    (h : b.mark hasRows t = .ok b') :
    (∃ id, b.rowKey? hasRows t = some id ∧ b' = { b with rows := b.rows.insert id }) ∨
    (∃ shape marked, b.rowKey? hasRows t = none ∧ t ≠ [] ∧ b.shape = some shape ∧
      shape.mark t = .ok marked ∧ b' = { b with shape := some marked }) ∨
    (b.rowKey? hasRows t = none ∧ (t = [] ∨ b.shape = none) ∧ b' = { b with whole := true }) := by
  unfold mark at h
  cases key : b.rowKey? hasRows t with
  | some id =>
    simp only [key] at h
    split at h
    · cases h
    · exact .inl ⟨id, rfl, (Except.ok.inj h).symm⟩
  | none =>
    simp only [key] at h
    cases hs : b.shape with
    | none =>
      simp only [hs] at h
      split at h
      · cases h
      · exact .inr (.inr ⟨rfl, .inr rfl, (Except.ok.inj h).symm⟩)
    | some shape =>
      cases t with
      | nil =>
        simp only [hs] at h
        split at h
        · cases h
        · exact .inr (.inr ⟨rfl, .inl rfl, (Except.ok.inj h).symm⟩)
      | cons i t =>
        simp only [hs] at h
        cases hm : shape.mark (i :: t) with
        | error e => rw [hm] at h; cases h
        | ok marked =>
          rw [hm] at h
          exact .inr (.inl ⟨shape, marked, rfl, List.cons_ne_nil i t, rfl, hm,
            (Except.ok.inj h).symm⟩)

theorem cleared_mark {b b' : Binding} {hasRows : Bool} {t : List Int}
    (h : b.mark hasRows t = .ok b') : b'.cleared = b.cleared := by
  rcases mark_ok h with ⟨id, -, rfl⟩ | ⟨shape, marked, -, -, array, hm, rfl⟩ | ⟨-, -, rfl⟩
  · rfl
  · have lengths : marked.lengths = shape.lengths := by
      by_cases fit : shape.accepts t = true
      · obtain ⟨marked', hm', lengths, -⟩ := Shape.mark_of_accepts fit
        rw [Except.ok.inj (hm.symm.trans hm')]
        exact lengths
      · rw [Shape.mark_of_not_accepts fit] at hm
        cases hm
    simp only [cleared, array, Option.map_some, lengths]
  · rfl

/-- `mark` never takes an address away, whatever the tuple. -/
theorem recorded_of_mark {b b' : Binding} {hasRows : Bool} {t : List Int}
    (h : b.mark hasRows t = .ok b') {a : Address} (was : b.recorded a = true) :
    b'.recorded a = true := by
  rcases mark_ok h with ⟨id, -, rfl⟩ | ⟨shape, marked, -, -, array, hm, rfl⟩ | ⟨-, -, rfl⟩
  · cases a with
    | cell c => exact was
    | row id' =>
      show (b.rows.insert id).contains id' = true
      rw [Std.ExtTreeSet.contains_insert, Bool.or_eq_true]
      exact .inr was
  · cases a with
    | row id' => exact was
    | cell c =>
      by_cases fit : shape.accepts t = true
      · obtain ⟨marked', hm', lengths, bits⟩ := Shape.mark_of_accepts fit
        cases hm.symm.trans hm'
        have sameDim : marked.dim = shape.dim := congrArg List.length lengths
        simp only [recorded, array, sameDim, bits] at was ⊢
        by_cases dim : shape.dim = 0
        · rwa [if_pos dim] at was ⊢
        · rw [if_neg dim, Bool.and_eq_true] at was
          rw [if_neg dim, was.1, was.2]
          rfl
      · rw [Shape.mark_of_not_accepts fit] at hm
        cases hm
  · cases a with
    | row id' => exact was
    | cell c =>
      simp only [recorded] at was ⊢
      cases hs : b.shape with
      | none =>
        simp only [hs, Bool.and_eq_true, Bool.true_and] at was ⊢
        exact was.2
      | some shape =>
        simp only [hs] at was ⊢
        by_cases dim : shape.dim = 0
        · rw [if_pos dim, Bool.and_eq_true] at was
          rw [if_pos dim, was.2]
          rfl
        · rwa [if_neg dim] at was ⊢

/-- **`mark` adds the selected address and no other.** -/
theorem Selects.recorded_mark {b b' : Binding} {hasRows : Bool} {t : List Int} {a : Address}
    (h : b.Selects hasRows t a) (hb : b.mark hasRows t = .ok b') (a' : Address) :
    b'.recorded a' = (b.recorded a' || decide (a' = a)) := by
  have key := h.rowKey
  rcases mark_ok hb with ⟨id, isRow, rfl⟩ | ⟨shape, marked, noRow, nonempty, array, hm, rfl⟩ |
    ⟨noRow, single, rfl⟩
  · -- a row: the set of rows has one more member
    rw [isRow] at key
    cases a with
    | cell c => cases key
    | row id' =>
      cases key
      cases a' with
      | cell c => exact (Bool.or_false _).symm
      | row id'' =>
        show (b.rows.insert id).contains id'' = _
        rw [Std.ExtTreeSet.contains_insert, Bool.or_comm]
        congr 1
        rw [Bool.eq_iff_iff, beq_iff_eq, Std.LawfulEqCmp.compare_eq_iff_eq, decide_eq_true_eq,
          Address.row.injEq, eq_comm]
  · -- an element: its bit is the only one in its region
    rw [noRow] at key
    cases h with
    | scalar scalar => exact (nonempty rfl).elim
    | scalarRow => cases key
    | elementRow => cases key
    | element array' fit full =>
      rw [array] at array'
      cases array'
      obtain ⟨marked', hm', lengths, bits⟩ := Shape.mark_of_accepts fit
      cases hm.symm.trans hm'
      have sameDim : marked.dim = shape.dim := congrArg List.length lengths
      have dim : shape.dim ≠ 0 := by
        rw [← full]
        exact fun none => nonempty (List.eq_nil_of_length_eq_zero none)
      cases a' with
      | row id => exact (Bool.or_false _).symm
      | cell c =>
        simp only [recorded, array, sameDim, if_neg dim, bits,
          Shape.regionSize_of_full full, Address.cell.injEq, ← number_inj, CellId.number_advance]
        cases shape.bit (c.number - b.base.number) <;>
          simp only [Bool.true_or, Bool.false_or, Bool.and_true, Bool.and_false] <;>
          rw [Bool.eq_iff_iff] <;>
          simp only [Bool.and_eq_true, Bool.or_eq_true, decide_eq_true_eq] <;>
          omega
  · -- the flag, which stands for the only cell there is
    rw [noRow] at key
    cases h with
    | scalarRow => cases key
    | elementRow => cases key
    | scalar scalar =>
      cases a' with
      | row id => exact (Bool.or_false _).symm
      | cell c => cases b.whole <;> simp [recorded, scalar]
    | element array fit full =>
      rename_i shape
      have none : t = [] := by
        rcases single with rfl | scalar
        · rfl
        · rw [array] at scalar
          cases scalar
      subst none
      have dim : shape.dim = 0 := full.symm
      cases a' with
      | row id => exact (Bool.or_false _).symm
      | cell c => cases b.whole <;> simp [recorded, array, dim, CellId.advance]

end ArrayCells.Binding
