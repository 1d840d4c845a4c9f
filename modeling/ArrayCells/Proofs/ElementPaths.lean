import ArrayCells.Proofs.DerivedShapes
import ArrayCells.Proofs.SameOperands

/-!
# Paths to elements

A tuple of indexes is a path through lists and groups, which can go on into a view.  A path may be
followed in two parts, with whatever the first part leads to in between: an item, a narrower view, or
the operand itself.  Only a cell stops the path.  What is read from it is an operand of its own, and
could be followed further, but a longer path into the view is out of shape.

* `View.below`, `View.item_eq_below`, `View.item_below`: the view that a short tuple leaves, and its
  elements;
* `Operand.EndsInCell`: paths that end on a single cell of a view;
* `Composes`: how reads of the first part and of the whole path go together;
* `Operand.composes_item`: they do so for every operand, by induction on the operand;
* `Operand.item_composes`: the reads along both parts and along the whole path.
-/

namespace ArrayCells

/-! ### Paths into a view -/

/-- A tuple in a region corresponds to the tuple that is continued by it. -/
theorem Shape.corresponds_append {shape : Shape} {p q : List Int}
    (fit : shape.accepts (p ++ q) = true) :
    shape.Corresponds (rank shape.lengths p) (shape.lengths.drop p.length) q (p ++ q) := by
  have parts := fit
  rw [accepts, fits_append, Bool.and_eq_true] at parts
  exact ⟨fit, parts.2, rank_append shape.lengths p q, by rw [List.length_append, List.drop_drop]⟩

section

variable {σ : Type} [CellStore σ] (store : σ)

namespace View

/-- The narrower view of the region of a tuple. -/
def below (view : View) (p : List Int) : View where
  typeName := view.typeName
  shape := view.shape.restrict (rank view.shape.lengths p) (view.shape.lengths.drop p.length)
  base := view.base.advance (rank view.shape.lengths p)

/-- A tuple that leaves a dimension open leads to the view below it. -/
theorem item_eq_below {view : View} {p : List Int} (fit : view.shape.accepts p = true)
    (short : view.shape.isFull p = false) : view.item store p = .ok (.view (view.below p)) := by
  rw [item, short, if_neg Bool.false_ne_true, Shape.narrow_of_stretch view.base fit (.whole _)]
  rfl

theorem accepts_below {view : View} {p : List Int} (fit : view.shape.accepts p = true)
    (q : List Int) : (view.below p).shape.accepts q = view.shape.accepts (p ++ q) := by
  show Shape.fits q (view.shape.lengths.drop p.length) = view.shape.accepts (p ++ q)
  rw [Shape.accepts, fits_append, ← Shape.accepts, fit, Bool.true_and]

theorem isFull_below {view : View} {p : List Int} (fit : view.shape.accepts p = true)
    (q : List Int) : (view.below p).shape.isFull q = view.shape.isFull (p ++ q) := by
  have within : p.length ≤ view.shape.dim := length_le_of_fits fit
  have left : (view.below p).shape.dim = view.shape.dim - p.length := List.length_drop
  rw [Bool.eq_iff_iff, Shape.isFull_iff, Shape.isFull_iff, left, List.length_append]
  omega

/-- **The view below a tuple** has the elements to which the continued tuples lead. -/
theorem item_below {view : View} {p : List Int} (fit : view.shape.accepts p = true)
    (q : List Int) : AgreeOnKind Eq ((view.below p).item store q) (view.item store (p ++ q)) := by
  by_cases whole : view.shape.accepts (p ++ q) = true
  · have same := Shape.corresponds_append whole
    rw [item, item, isFull_below fit]
    -- Both tuples lead to the same cell, or both leave the same region.
    split
    · obtain ⟨c, here, there⟩ := same.locate view.base
      have here : (view.below p).shape.locate (view.below p).base q = .ok c := here
      rw [there, here]
      exact .refl _
    · obtain ⟨narrowed, there, -⟩ := Shape.narrow_of_accepts view.base whole
      have here : (view.below p).shape.narrow q (view.below p).base none none = .ok _ :=
        (same.narrow_ok_iff view.base none none _).mpr there
      rw [there, here]
      exact .ok rfl
  · -- The faults name different tuples and lengths, but are of one kind.
    rw [item_of_not_accepts store view whole]
    rw [← accepts_below fit] at whole
    rw [item_of_not_accepts store (view.below p) whole]
    exact .error rfl

end View

/-! ### Composition -/

/-- How the read along the first part of a path and the read along the whole path go together, where
`q` is the second part and `cell` tells that the first part ends on a single cell. -/
inductive Composes (q : List Int) (cell : Prop) : Except Fault Operand → Except Fault Operand → Prop
  /-- Where the first part fails, so does the whole path. -/
  | fails (e e' : Fault) : Composes q cell (.error e) (.error e')
  /-- The second part goes on from where the first one leads to. -/
  | goesOn {u : Operand} {whole : Except Fault Operand} (h : AgreeOnKind Eq (u.item store q) whole) :
      Composes q cell (.ok u) whole
  /-- No path leads beyond a cell. -/
  | stops (u : Operand) (e : Fault) (h : cell) : Composes q cell (.ok u) (.error e)

variable {store}

theorem Composes.mono {q : List Int} {cell cell' : Prop} {first whole : Except Fault Operand}
    (h : Composes store q cell first whole) (weaker : cell → cell') :
    Composes store q cell' first whole := by
  cases h with
  | fails e e' => exact .fails e e'
  | goesOn agree => exact .goesOn agree
  | stops u e last => exact .stops u e (weaker last)

/-- Nothing is left to be followed. -/
theorem Composes.nil {cell : Prop} (first : Except Fault Operand) :
    Composes store [] cell first first := by
  cases first with
  | error e => exact .fails e e
  | ok u =>
    refine .goesOn ?_
    rw [Operand.item_nil]
    exact .ok rfl

theorem View.composes_item (view : View) (p q : List Int) :
    Composes store q (view.shape.accepts p = true ∧ view.shape.isFull p = true)
      (view.item store p) (view.item store (p ++ q)) := by
  cases q with
  | nil =>
    rw [List.append_nil]
    exact .nil _
  | cons i q =>
    by_cases fit : view.shape.accepts p = true
    · cases full : view.shape.isFull p with
      | false =>
        rw [item_eq_below store fit full]
        refine .goesOn ?_
        rw [Operand.item_view store _ _ (List.cons_ne_nil i q)]
        exact item_below store fit (i :: q)
      | true =>
        have beyond : ¬ view.shape.accepts (p ++ i :: q) = true := by
          intro fits
          have short := length_le_of_fits fits
          rw [Shape.isFull_iff, Shape.dim] at full
          rw [List.length_append, List.length_cons] at short
          omega
        rw [item_of_not_accepts store view beyond]
        cases view.item store p with
        | error e => exact .fails e _
        | ok u => exact .stops u _ ⟨fit, rfl⟩
    · have outside : ¬ view.shape.accepts (p ++ i :: q) = true := by
        rw [Shape.accepts, fits_append, Bool.and_eq_true]
        exact fun both => fit both.1
      rw [item_of_not_accepts store view fit, item_of_not_accepts store view outside]
      exact .fails _ _

namespace Operand

/-- The path leads through lists and groups to a view, and ends there on a single cell. -/
inductive EndsInCell : Operand → List Int → Prop
  | view {v : View} {l : Option String} {t : List Int} (something : t ≠ [])
      (fit : v.shape.accepts t = true) (full : v.shape.isFull t = true) :
      EndsInCell (.view v l) t
  | list {items : List Operand} {title l : Option String} {x : Operand} {k : Nat} {t : List Int}
      (found : items[k]? = some x) (h : EndsInCell x t) :
      EndsInCell (.list items title l) ((k : Int) :: t)
  | group {x : Operand} {l : Option String} {t : List Int} (h : EndsInCell x t) :
      EndsInCell (.group x l) t

theorem endsInCell_view {v : View} {l : Option String} {i : Int} {t : List Int} :
    (view v l).EndsInCell (i :: t) ↔
      v.shape.accepts (i :: t) = true ∧ v.shape.isFull (i :: t) = true := by
  constructor
  · intro last
    cases last with
    | view _ fit full => exact ⟨fit, full⟩
  · rintro ⟨fit, full⟩
    exact .view (List.cons_ne_nil i t) fit full

theorem endsInCell_list {items : List Operand} {title l : Option String} {i : Int} {t : List Int}
    (inside : 0 ≤ i) : (list items title l).EndsInCell (i :: t) ↔
      ∃ x, items[i.toNat]? = some x ∧ x.EndsInCell t := by
  constructor
  · intro last
    generalize path : i :: t = q at last
    cases last with
    | @list _ _ _ x k t found h =>
      obtain ⟨rfl, rfl⟩ := List.cons.inj path
      exact ⟨x, found, h⟩
  · rintro ⟨x, found, h⟩
    rw [← Int.toNat_of_nonneg inside]
    exact .list found h

theorem endsInCell_group {x : Operand} {l : Option String} {t : List Int} :
    (group x l).EndsInCell t ↔ x.EndsInCell t := by
  constructor
  · intro last
    cases last with
    | group h => exact h
  · exact .group

mutual

/-- **Every operand can be followed in two parts.** -/
theorem composes_item : ∀ (x : Operand) (p q : List Int),
    Composes store q (x.EndsInCell p) (x.item store p) (x.item store (p ++ q))
  | x, [], q => by
    rw [item_nil, List.nil_append]
    exact .goesOn (.refl _)
  | .list items title l, i :: p, q => by
    rw [List.cons_append]
    simp only [item]
    split
    · exact .fails _ _
    · have inside : 0 ≤ i := by omega
      exact (composes_itemOf _ items i.toNat p q).mono (endsInCell_list inside).mpr
  | .view v l, i :: p, q => by
    rw [List.cons_append, item_view store v l (List.cons_ne_nil i p),
      item_view store v l (List.cons_ne_nil i (p ++ q))]
    exact (v.composes_item (i :: p) q).mono endsInCell_view.mpr
  | .group x l, i :: p, q => by
    have inner := composes_item x (i :: p) q
    rw [List.cons_append] at inner ⊢
    simp only [item]
    exact inner.mono endsInCell_group.mpr
  | .int .., i :: p, q | .range .., i :: p, q | .spread .., i :: p, q | .neg .., i :: p, q
  | .arith .., i :: p, q => by
    rw [List.cons_append]
    simp only [item]
    exact .fails _ _

theorem composes_itemOf (outside : Fault) : ∀ (items : List Operand) (k : Nat) (p q : List Int),
    Composes store q (∃ x, items[k]? = some x ∧ x.EndsInCell p) (itemOf store outside items k p)
      (itemOf store outside items k (p ++ q))
  | [], _, _, _ => by
    simp only [itemOf]
    exact .fails _ _
  | x :: _, 0, p, q => by
    simp only [itemOf]
    exact (composes_item x p q).mono fun last => ⟨x, rfl, last⟩
  | _ :: xs, k + 1, p, q => by
    simp only [itemOf]
    exact composes_itemOf outside xs k p q

end

/-- **Element paths compose.**  Where the whole path leads to an element, its first part leads to an
operand from which the second part leads to the same element.  Where the first part fails, so does the
whole path.  And unless the first part ends on a single cell of a view, going on from where it leads
to gives the same element as the whole path, or both fail with faults of one kind. -/
theorem item_composes (store : σ) (x : Operand) (p q : List Int) :
    (∀ v, x.item store (p ++ q) = .ok v →
      ∃ u, x.item store p = .ok u ∧ u.item store q = .ok v) ∧
    (∀ e, x.item store p = .error e → ∃ e', x.item store (p ++ q) = .error e') ∧
    ∀ u, x.item store p = .ok u → ¬ x.EndsInCell p →
      AgreeOnKind Eq (u.item store q) (x.item store (p ++ q)) := by
  have parts : Composes store q (x.EndsInCell p) (x.item store p) (x.item store (p ++ q)) :=
    composes_item x p q
  generalize x.item store p = first at parts ⊢
  generalize x.item store (p ++ q) = whole at parts ⊢
  cases parts with
  | fails e e' =>
    refine ⟨?_, fun _ _ => ⟨e', rfl⟩, ?_⟩
    · intro v reached
      cases reached
    · intro u reached
      cases reached
  | @goesOn u _ agree =>
    refine ⟨?_, ?_, ?_⟩
    · rintro v rfl
      refine ⟨u, rfl, ?_⟩
      generalize u.item store q = last at agree ⊢
      cases agree with
      | ok same => rw [same]
    · intro e failed
      cases failed
    · rintro u' ⟨⟩ -
      exact agree
  | stops u e last =>
    refine ⟨?_, ?_, ?_⟩
    · intro v reached
      cases reached
    · intro e failed
      cases failed
    · rintro u' ⟨⟩ elsewhere
      exact (elsewhere last).elim

/-- The matrix in the list `([m])` is followed to its row `m[1]`, and on to the cell `m[1][2]`; there
is no row `m[2]` to be followed. -/
theorem item_composes_row :
    let memory := Memory.write {} ⟨9⟩ (.number 7)
    let listed : Operand :=
      .group (.list [.view { typeName := "int", shape := .fresh [2, 3], base := ⟨4⟩ }])
    (∃ row, listed.item memory [0, 1] = .ok row ∧ row.item memory [2] = .ok (.int 7) ∧
      ¬ listed.EndsInCell [0, 1] ∧
      AgreeOnKind Eq (row.item memory [3]) (listed.item memory [0, 1, 3])) ∧
    ∃ e, listed.item memory [0, 2, 2] = .error e := by
  intro memory listed
  have reached : listed.item memory [0, 1, 2] = .ok (.int 7) := rfl
  have between : ¬ listed.EndsInCell [0, 1] := by
    rw [endsInCell_group, endsInCell_list (Int.le_refl 0)]
    rintro ⟨x, ⟨⟩, last⟩
    exact absurd (endsInCell_view.mp last).2 (by decide)
  obtain ⟨row, first, second⟩ := (item_composes memory listed [0, 1] [2]).1 _ reached
  have agree := (item_composes memory listed [0, 1] [3]).2.2 row first between
  have failing := (item_composes memory listed [0, 2] [2]).2.1 _ rfl
  exact ⟨⟨row, first, second, between, agree⟩, failing⟩

end Operand

end

end ArrayCells
