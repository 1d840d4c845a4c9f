import ArrayCells.Proofs.Views
import ArrayCells.Store.Plain

/-!
# Constants read through views

A store may read the cells of constants in a way of its own.  Whether it is asked to do so is
decided by the binding, when all dimensions are given at once.  A view does not know what it is a
view of, so a cell that is reached through one is read as any other cell.

* `View.item_of_full`, `View.item_of_short`: what one tuple reads from a view, in every store;
* `Operand.itemChain_of_full`: a chain of tuples reads the cell of the joined tuple, as any cell;
* `Binding.item_of_full`: the full tuple reads the same cell of a constant as that of a constant;
* `Binding.constant_through_view`: both for the same tuple, and when they agree;
* `Binding.constant_read_by_view`: a store in which they do not.
-/

namespace ArrayCells

open CellStore

variable {σ : Type} [CellStore σ]

/-! ### Views in every store -/

namespace View

theorem item_of_full (store : σ) {view : View} {q : List Int}
    (fit : view.shape.accepts q = true) (full : q.length = view.shape.dim) :
    view.item store q = readItem store (view.base.advance (rank view.shape.lengths q)) {} := by
  have isFull : view.shape.isFull q = true := Shape.isFull_iff.mpr full
  rw [item, if_pos isFull, Shape.locate_of_accepts view.base fit]
  rfl

theorem item_of_short (store : σ) {view : View} {q : List Int}
    (fit : view.shape.accepts q = true) (short : q.length < view.shape.dim) :
    ∃ narrowed : View, view.item store q = .ok (.view narrowed) ∧
      narrowed.shape.lengths = view.shape.lengths.drop q.length ∧
      narrowed.base = view.base.advance (rank view.shape.lengths q) := by
  have notFull : view.shape.isFull q = false := by
    rw [Shape.not_isFull_iff]
    exact Nat.ne_of_lt short
  obtain ⟨narrowed, whole, lengths⟩ := Shape.narrow_of_accepts view.base fit
  refine ⟨{ view with shape := narrowed, base := view.base.advance (rank view.shape.lengths q) },
    ?_, lengths, rfl⟩
  rw [item, notFull, if_neg Bool.false_ne_true, whole]
  rfl

end View

namespace Operand

/-- As an operand, a view is itself what the empty tuple leads to. -/
theorem item_view_of_short (store : σ) {view : View} (label : Option String) {q : List Int}
    (fit : view.shape.accepts q = true) (short : q.length < view.shape.dim) :
    ∃ (narrowed : View) (label' : Option String),
      (Operand.view view label).item store q = .ok (.view narrowed label') ∧
        narrowed.shape.lengths = view.shape.lengths.drop q.length ∧
        narrowed.base = view.base.advance (rank view.shape.lengths q) := by
  cases q with
  | nil =>
    refine ⟨view, label, item_nil store _, rfl, ?_⟩
    rw [rank_nil_right, Binding.advance_zero]
  | cons i q =>
    obtain ⟨narrowed, read, lengths, begins⟩ := View.item_of_short store fit short
    rw [item_view store view label (List.cons_ne_nil i q)]
    exact ⟨narrowed, none, read, lengths, begins⟩

/-- **However a full tuple is split, the last part reads its cell as any cell.**  The induction is
on the parts; each of them leaves a view that is numbered by what is left of the tuple. -/
theorem itemChain_of_full (store : σ) (chain : List (List Int)) {last : List Int}
    (something : last ≠ []) (view : View) (label : Option String)
    (fit : view.shape.accepts (chain.flatten ++ last) = true)
    (full : (chain.flatten ++ last).length = view.shape.dim) :
    (Operand.view view label).itemChain store (chain ++ [last]) =
      readItem store (view.base.advance (rank view.shape.lengths (chain.flatten ++ last))) {} := by
  induction chain generalizing view label with
  | nil =>
    have single : (Operand.view view label).itemChain store ([] ++ [last]) =
        (Operand.view view label).item store last := by
      rw [List.nil_append, itemChain_cons]
      cases (Operand.view view label).item store last <;> rfl
    rw [single, item_view store view label something]
    exact View.item_of_full store fit full
  | cons q chain ih =>
    rw [List.flatten_cons, List.append_assoc] at fit full ⊢
    rw [Shape.accepts, fits_append, Bool.and_eq_true] at fit
    rw [List.length_append] at full
    have rest : 0 < (chain.flatten ++ last).length := by
      rw [List.length_append]
      exact Nat.add_pos_right _ (List.length_pos_iff.mpr something)
    have short : q.length < view.shape.dim := by omega
    obtain ⟨narrowed, label', read, lengths, begins⟩ :=
      item_view_of_short store label fit.1 short
    have dim : narrowed.shape.dim = view.shape.dim - q.length := by
      rw [Shape.dim, lengths, List.length_drop, ← Shape.dim]
    have later := ih narrowed label' (by rw [Shape.accepts, lengths]; exact fit.2) (by omega)
    rw [List.cons_append, itemChain_cons, read, rank_append, ← CellId.advance_advance, ← begins,
      ← lengths]
    exact later

end Operand

/-! ### Constants -/

namespace NegatedConstants

/-- The cell that was just written, as any cell and as a cell of a constant. -/
theorem readItem_write (store : NegatedConstants) (c : CellId) (n : Int) (ctx : Context) :
    readItem (write store c (.number n)) c ctx = .ok (.int n) ∧
      readConstItem (write store c (.number n)) c ctx = .ok (.int (-n)) := by
  have held : (store.memory.write c (.number n)).cells[c]? = some (.number n) :=
    Std.ExtTreeMap.getElem?_insert_self
  constructor
  · simp only [readItem, write, held]
    rfl
  · simp only [readConstItem, write, held]
    rfl

end NegatedConstants

namespace Binding

/-- A full tuple reads its cell as the binding says. -/
theorem item_of_full {b : Binding} {shape : Shape} (array : b.shape = some shape) (store : σ)
    {xs : List Operand} {t : List Int} (evaluated : Access.ofOperands xs = .ok ⟨t, none⟩)
    (fit : shape.accepts t = true) (full : t.length = shape.dim) (ctx : Context) :
    b.item store xs ctx =
      (b.readCell store (b.base.advance (rank shape.lengths t)) ctx).map
        (·.withLabel (Access.label ⟨t, none⟩ ctx.label)) := by
  have isFull : shape.isFull t = true := Shape.isFull_iff.mpr full
  have noRow : t.drop shape.dim = [] := List.drop_eq_nil_of_le (Nat.le_of_eq full)
  rw [item_of_array array evaluated]
  simp only [itemOfArray, noRow, isFull, if_true, Shape.locate_of_accepts b.base fit]
  rfl

/-- The label that a read gives to its operand is not looked at. -/
theorem sameOutcome_withLabel (o o' : Except Fault Operand) (l : String) :
    SameOutcome o (o'.map (·.withLabel l)) ↔ SameOutcome o o' := by
  rcases o with e | x <;> rcases o' with e' | y
  · exact Iff.rfl
  · exact Iff.rfl
  · exact Iff.rfl
  · show x.same (y.withLabel? (some l)) = true ↔ x.same y = true
    have unlabelled := Operand.same_withLabel? x y x.label? (some l)
    rw [show x.withLabel? x.label? = x by cases x <;> rfl] at unlabelled
    rw [unlabelled]

/-- **Views forget that their array is a constant.**  An access that leaves a dimension of a constant
open gives a view.  From then on, whatever is written to the store, each cell of the view is read
through it as any cell, at once or in parts, and read directly as the store reads cells of
constants.  So both agree for the stores and the cells for which the store reads a constant as any
cell. -/
theorem constant_through_view {b : Binding} {shape : Shape} (constant : b.isConstant = true)
    (array : b.shape = some shape) (store : σ) {xs : List Operand} {access : Access} {n : Nat}
    {inner : List Nat} (evaluated : Access.ofOperands xs = .ok access)
    (opens : access.Opens shape n inner) (ctx : Context) :
    ∃ view label, b.item store xs ctx = .ok (.view view label) ∧
      view.shape.lengths = (access.stop n - access.start).toNat :: inner ∧
      ∀ (store' : σ) (b' : Binding), b'.cleared = b.cleared →
        ∀ (chain : List (List Int)) (last : List Int), last ≠ [] →
          view.shape.accepts (chain.flatten ++ last) = true →
            (chain.flatten ++ last).length = view.shape.dim →
              ∀ (ys : List Operand) (ctx' : Context),
                Access.ofOperands ys = .ok ⟨access.extend (chain.flatten ++ last), none⟩ →
                  let c := b.base.advance
                    (rank shape.lengths (access.extend (chain.flatten ++ last)))
                  let viewed := (Operand.view view label).itemChain store' (chain ++ [last])
                  let direct := b'.item store' ys ctx'
                  viewed = readItem store' c {} ∧
                    (∃ l, direct = (readConstItem store' c ctx').map (·.withLabel l)) ∧
                    (SameOutcome viewed direct ↔
                      SameOutcome (readItem store' c {}) (readConstItem store' c ctx')) := by
  obtain ⟨view, label, viewed, covers⟩ := item_of_opens store array evaluated opens ctx
  refine ⟨view, label, viewed, covers.lengths, ?_⟩
  intro store' b' same chain last something fit full ys ctx' evaluated'
  dsimp only
  have throughView := Operand.itemChain_of_full store' chain something view label fit full
  -- the same cell in the numbering of the array
  have nonempty : chain.flatten ++ last ≠ [] := by
    rw [Ne, List.append_eq_nil_iff]
    exact fun none => something none.2
  have inside := fit
  rw [Shape.accepts, covers.lengths] at inside
  obtain ⟨accepted, address, open'⟩ := opens.extend nonempty inside
  rw [covers.begins, CellId.advance_advance, covers.lengths, ← address] at throughView
  -- the binding may have recorded what was written meanwhile
  obtain ⟨shape', array', sameLengths⟩ := shape_congr same array
  have accepted' : shape'.accepts (access.extend (chain.flatten ++ last)) = true := by
    rw [Shape.accepts, sameLengths]
    exact accepted
  have full' : (access.extend (chain.flatten ++ last)).length = shape'.dim := by
    have atMost := length_le_of_fits accepted
    have nothing := congrArg List.length open'
    rw [← covers.lengths, List.length_drop, List.length_drop, full, Shape.dim, Nat.sub_self]
      at nothing
    rw [Shape.dim, sameLengths]
    omega
  have direct := item_of_full array' store' evaluated' accepted' full' ctx'
  rw [readCell, isConstant_congr same, constant, if_pos rfl, base_congr same, sameLengths] at direct
  rw [throughView, direct]
  exact ⟨rfl, ⟨_, rfl⟩, sameOutcome_withLabel _ _ _⟩

/-- The cell `k[1][0]` of a constant that holds 5 there, through the view `k[1]` and directly. -/
theorem constant_through_view_row :
    let k : Binding :=
      { name := "k", typeName := "int", shape := some (.fresh [2, 2]), base := ⟨3⟩,
        flags := { constant := true } }
    let store : NegatedConstants := write ({} : NegatedConstants) ⟨5⟩ (.number 5)
    ∃ view label, k.item store [.int 1] {} = .ok (.view view label) ∧
      (Operand.view view label).itemChain store [[0]] = readItem store ⟨5⟩ {} ∧
      ¬ SameOutcome ((Operand.view view label).itemChain store [[0]])
        (k.item store [.int 1, .int 0] {}) := by
  intro k store
  have evaluated : Access.ofOperands [.int 1] = .ok ⟨[1], none⟩ := rfl
  have opens : Access.Opens ⟨[1], none⟩ (.fresh [2, 2]) 2 [] :=
    ⟨by decide, rfl, by decide, by decide, by decide⟩
  obtain ⟨view, label, viewed, lengths, later⟩ :=
    constant_through_view (b := k) rfl rfl store evaluated opens {}
  have fit : view.shape.accepts ([].flatten ++ [0]) = true := by
    rw [Shape.accepts, lengths]
    decide
  have full : ([].flatten ++ [0] : List Int).length = view.shape.dim := by
    rw [Shape.dim, lengths]
    rfl
  obtain ⟨reads, -, agree⟩ := later store k rfl [] [0] (List.cons_ne_nil 0 []) fit full
    [.int 1, .int 0] {} (Access.ofOperands_int [1, 0])
  refine ⟨view, label, viewed, reads, fun same => ?_⟩
  have agreed := agree.mp same
  obtain ⟨asAny, asConstant⟩ := NegatedConstants.readItem_write {} ⟨5⟩ 5 {}
  have signs : SameOutcome (.ok (.int 5)) (.ok (.int (-5))) := asAny ▸ asConstant ▸ agreed
  cases signs

/-- **A store that tells the two reads apart.**  The constant holds 5 in its first cell.  Read
directly, that is -5; read from the view of the whole array, it is 5. -/
theorem constant_read_by_view :
    let k : Binding :=
      { name := "k", typeName := "int", shape := some (.fresh [2]), base := ⟨0⟩,
        flags := { constant := true } }
    let store : NegatedConstants := write ({} : NegatedConstants) ⟨0⟩ (.number 5)
    let whole : Operand := .view ⟨"int", .fresh [2], ⟨0⟩⟩ (some "___")
    k.item store [] {} = .ok whole ∧
      whole.itemChain store [[0]] = .ok (.int 5) ∧
      k.item store [.int 0] {} = .ok (.int (-5) (some "___")) ∧
      ¬ SameOutcome (whole.itemChain store [[0]]) (k.item store [.int 0] {}) := by
  intro k store whole
  obtain ⟨asAny, asConstant⟩ := NegatedConstants.readItem_write {} ⟨0⟩ 5 {}
  have viewed : whole.itemChain store [[0]] = .ok (.int 5) :=
    (Operand.itemChain_of_full store [] (List.cons_ne_nil 0 []) ⟨"int", .fresh [2], ⟨0⟩⟩ _
      (by decide) rfl).trans asAny
  have direct : k.item store [.int 0] {} = .ok (.int (-5) (some "___")) := by
    have array : k.shape = some (.fresh [2]) := rfl
    refine (item_of_full array store (Access.ofOperands_int [0]) (by decide) rfl {}).trans ?_
    show (readConstItem store ⟨0⟩ {}).map _ = _
    rw [asConstant]
    rfl
  refine ⟨rfl, viewed, direct, fun same => ?_⟩
  rw [viewed, direct] at same
  cases same

end Binding

end ArrayCells
