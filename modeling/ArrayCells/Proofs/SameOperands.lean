import ArrayCells.Operand.Arithmetic
import ArrayCells.Operand.Instantiate
import ArrayCells.Proofs.Agreement
import ArrayCells.Proofs.DerivedShapes
import ArrayCells.Proofs.Elements
import ArrayCells.Proofs.Sameness

/-!
# Operands that are the same lead to the same

Operands that differ in labels, titles and the marks of views alone are evaluated, instantiated and
followed to the same results, or to faults of one kind.  The stores may differ too, as long as what
they hold is the same in this sense.

* `Operand.SameAs`: what `same` decides, as a relation with one rule for each constructor;
* `AgreeOnKind`: calculations that agree, with faults of one kind;
* `SameAs.toInt_eq`, `SameAs.evaluate`: calculations without a store;
* `ReadsAlike`: stores that read every cell alike; `SameAs.item`, `SameAs.elements`,
  `SameAs.instantiate`: calculations with two of them.

The proofs follow the rules of `SameAs`, which are those of operands, bounds and lists at once.
-/

namespace ArrayCells

namespace Operand

/-! ### Sameness as a relation -/

mutual

/-- The operands are the same apart from labels and titles, at any depth. -/
inductive SameAs : Operand → Operand → Prop
  | int (n : Int) (l l' : Option String) : SameAs (.int n l) (.int n l')
  | range {lo lo' hi hi' : Option Operand} (l l' : Option String) (lower : SameBoundAs lo lo')
      (upper : SameBoundAs hi hi') : SameAs (.range lo hi l) (.range lo' hi' l')
  | view {v w : View} (l l' : Option String) (h : v.same w = true) :
      SameAs (.view v l) (.view w l')
  | list {xs ys : List Operand} (title title' l l' : Option String) (h : SameItemsAs xs ys) :
      SameAs (.list xs title l) (.list ys title' l')
  | spread {x y : Operand} (l l' : Option String) (h : SameAs x y) :
      SameAs (.spread x l) (.spread y l')
  | group {x y : Operand} (l l' : Option String) (h : SameAs x y) :
      SameAs (.group x l) (.group y l')
  | neg {x y : Operand} (l l' : Option String) (h : SameAs x y) : SameAs (.neg x l) (.neg y l')
  | arith {a a' b b' : Operand} (op : ArithOp) (l l' : Option String) (left : SameAs a a')
      (right : SameAs b b') : SameAs (.arith op a b l) (.arith op a' b' l')

inductive SameBoundAs : Option Operand → Option Operand → Prop
  | none : SameBoundAs none none
  | some {x y : Operand} (h : SameAs x y) : SameBoundAs (some x) (some y)

inductive SameItemsAs : List Operand → List Operand → Prop
  | nil : SameItemsAs [] []
  | cons {x y : Operand} {xs ys : List Operand} (head : SameAs x y) (tail : SameItemsAs xs ys) :
      SameItemsAs (x :: xs) (y :: ys)

end

mutual

theorem sameAs_of_same {x y : Operand} (h : x.same y = true) : SameAs x y := by
  cases x <;> cases y <;>
    simp only [same, Bool.false_eq_true, Bool.and_eq_true, beq_iff_eq] at h
  -- What is left are two operands of one kind; of different kinds they are not the same.
  case int.int => exact h ▸ .int _ _ _
  case range.range => exact .range _ _ (sameBoundAs_of_same h.1) (sameBoundAs_of_same h.2)
  case view.view => exact .view _ _ h
  case list.list => exact .list _ _ _ _ (sameItemsAs_of_same h)
  case spread.spread => exact .spread _ _ (sameAs_of_same h)
  case group.group => exact .group _ _ (sameAs_of_same h)
  case neg.neg => exact .neg _ _ (sameAs_of_same h)
  case arith.arith =>
    obtain ⟨⟨rfl, left⟩, right⟩ := h
    exact .arith _ _ _ (sameAs_of_same left) (sameAs_of_same right)

theorem sameBoundAs_of_same {lo hi : Option Operand} (h : sameBound lo hi = true) :
    SameBoundAs lo hi := by
  cases lo <;> cases hi <;> simp only [sameBound, Bool.false_eq_true] at h
  case none.none => exact .none
  case some.some => exact .some (sameAs_of_same h)

theorem sameItemsAs_of_same {xs ys : List Operand} (h : sameItems xs ys = true) :
    SameItemsAs xs ys := by
  cases xs <;> cases ys <;> simp only [sameItems, Bool.false_eq_true, Bool.and_eq_true] at h
  case nil.nil => exact .nil
  case cons.cons => exact .cons (sameAs_of_same h.1) (sameItemsAs_of_same h.2)

end

mutual

theorem SameAs.same : ∀ {x y : Operand}, SameAs x y → x.same y = true
  | _, _, .int n _ _ => by simp only [Operand.same, beq_self_eq_true]
  | _, _, .range _ _ lower upper => by
    simp only [Operand.same, lower.same, upper.same, Bool.and_self]
  | _, _, .view _ _ h => by simp only [Operand.same, h]
  | _, _, .list _ _ _ _ h => by simp only [Operand.same, h.same]
  | _, _, .spread _ _ h => by simp only [Operand.same, h.same]
  | _, _, .group _ _ h => by simp only [Operand.same, h.same]
  | _, _, .neg _ _ h => by simp only [Operand.same, h.same]
  | _, _, .arith _ _ _ left right => by
    simp only [Operand.same, left.same, right.same, beq_self_eq_true, Bool.and_self]

theorem SameBoundAs.same : ∀ {lo hi : Option Operand}, SameBoundAs lo hi → sameBound lo hi = true
  | _, _, .none => by simp only [sameBound]
  | _, _, .some h => by simp only [sameBound, h.same]

theorem SameItemsAs.same : ∀ {xs ys : List Operand}, SameItemsAs xs ys → sameItems xs ys = true
  | _, _, .nil => by simp only [sameItems]
  | _, _, .cons head tail => by simp only [sameItems, head.same, tail.same, Bool.and_self]

end

theorem SameAs.refl (x : Operand) : SameAs x x :=
  sameAs_of_same x.same_refl

theorem SameAs.withLabel? {x y : Operand} (h : SameAs x y) (l m : Option String) :
    SameAs (x.withLabel? l) (y.withLabel? m) := by
  have same := same_withLabel? x y l m
  rw [h.same] at same
  exact sameAs_of_same same

theorem SameItemsAs.length_eq : ∀ {xs ys : List Operand}, SameItemsAs xs ys →
    xs.length = ys.length
  | _, _, .nil => rfl
  | _, _, .cons _ tail => congrArg (· + 1) tail.length_eq

theorem SameItemsAs.append : ∀ {xs ys xs' ys' : List Operand}, SameItemsAs xs ys →
    SameItemsAs xs' ys' → SameItemsAs (xs ++ xs') (ys ++ ys')
  | _, _, _, _, .nil, more => more
  | _, _, _, _, .cons head tail, more => .cons head (tail.append more)

end Operand

/-- The faults are of one kind. -/
def Fault.SameKind (e e' : Fault) : Prop :=
  e.kind = e'.kind

theorem Fault.sameKind_refl (e : Fault) : e.SameKind e := rfl

/-- Both calculations give related results, or both fail with faults of one kind. -/
abbrev AgreeOnKind {α β : Type} (R : α → β → Prop) :
    Except Fault α → Except Fault β → Prop :=
  Agree Fault.SameKind R

theorem AgreeOnKind.refl {α : Type} (r : Except Fault α) : AgreeOnKind Eq r r :=
  Agree.refl Fault.sameKind_refl r

namespace Operand

/-! ### Calculations without a store -/

theorem SameAs.toInt_eq : ∀ {x y : Operand}, SameAs x y → x.toInt = y.toInt
  | _, _, .int _ _ _ => rfl
  | _, _, .range _ _ _ _ => rfl
  | _, _, .view _ _ _ => rfl
  | _, _, .list _ _ _ _ _ => rfl
  | _, _, .spread _ _ _ => rfl
  | _, _, .group _ _ h => by simp only [toInt, h.toInt_eq]
  | _, _, .neg _ _ h => by simp only [toInt, h.toInt_eq]
  | _, _, .arith _ _ _ left right => by simp only [toInt, left.toInt_eq, right.toInt_eq]

mutual

/-- **Evaluation** gives operands that are the same. -/
theorem SameAs.evaluate : ∀ {x y : Operand}, SameAs x y → AgreeOnKind SameAs x.evaluate y.evaluate
  | _, _, .int n l l' => .ok (.int n l l')
  | _, _, .view l l' h => .ok (.view l l' h)
  -- Arithmetic ends in one integer, so the sides differ in the label of the result at most.
  | _, _, .neg l l' h => by
    simp only [Operand.evaluate, (SameAs.neg l l' h).toInt_eq]
    exact (AgreeOnKind.refl _).bind fun m n same => same ▸ .ok (.int m l l')
  | _, _, .arith op l l' left right => by
    simp only [Operand.evaluate, (SameAs.arith op l l' left right).toInt_eq]
    exact (AgreeOnKind.refl _).bind fun m n same => same ▸ .ok (.int m l l')
  | _, _, .group _ _ h => by
    simp only [Operand.evaluate]
    exact h.evaluate
  | _, _, .range l l' lower upper => by
    simp only [Operand.evaluate]
    exact lower.evaluate.bind fun _ _ lo => upper.evaluate.bind fun _ _ hi =>
      .ok (.range l l' lo hi)
  | _, _, .list _ _ l l' h => by
    simp only [Operand.evaluate]
    exact h.evaluate.bind fun _ _ items => .ok (.list none none l l' items)
  | _, _, .spread l l' h => by
    simp only [Operand.evaluate]
    exact h.evaluate.bind fun _ _ inner => .ok (.spread l l' inner)

theorem SameBoundAs.evaluate : ∀ {lo hi : Option Operand}, SameBoundAs lo hi →
    AgreeOnKind SameBoundAs (evaluateBound lo) (evaluateBound hi)
  | _, _, .none => .ok .none
  | _, _, .some h => by
    simp only [evaluateBound]
    exact h.evaluate.bind fun _ _ inner => .ok (.some inner)

theorem SameItemsAs.evaluate : ∀ {xs ys : List Operand}, SameItemsAs xs ys →
    AgreeOnKind SameItemsAs (evaluateItems xs) (evaluateItems ys)
  | _, _, .nil => .ok .nil
  | _, _, .cons head tail => by
    simp only [evaluateItems]
    exact head.evaluate.bind fun _ _ first => tail.evaluate.bind fun _ _ rest =>
      .ok (.cons first rest)

end

end Operand

/-! ### Shapes and views -/

namespace Shape

variable {shape shape' : Shape} (lengths : shape.lengths = shape'.lengths)

include lengths

theorem locate_congr (base : CellId) (t : List Int) :
    shape.locate base t = shape'.locate base t := by
  obtain ⟨ns, marks, count⟩ := shape
  obtain ⟨ns', marks', count'⟩ := shape'
  cases lengths
  rfl

/-- Shapes of the same lengths are narrowed alike, whatever is marked in them. -/
theorem narrow_agree (p : List Int) (base : CellId) (lower upper : Option Int) :
    AgreeOnKind (fun part part' => part.1.lengths = part'.1.lengths ∧ part.2 = part'.2)
      (shape.narrow p base lower upper) (shape'.narrow p base lower upper) := by
  have accepted : shape.accepts p = shape'.accepts p := by rw [accepts, accepts, lengths]
  by_cases cut : shape.accepts p = true ∧
      ∃ skip rest, Stretch (shape.lengths.drop p.length) lower upper skip rest
  · obtain ⟨fit, skip, rest, stretch⟩ := cut
    rw [narrow_of_stretch base fit stretch]
    rw [accepted] at fit
    rw [lengths] at stretch
    rw [narrow_of_stretch base fit stretch, lengths]
    exact .ok ⟨rfl, rfl⟩
  · have fails {s : Shape} (same : s.lengths = shape.lengths) :
        ∃ t, s.narrow p base lower upper = .error (s.outOfShape t) := by
      cases narrowed : s.narrow p base lower upper with
      | error fault =>
        obtain ⟨t, rfl⟩ := outOfShape_of_narrow narrowed
        exact ⟨t, rfl⟩
      | ok part =>
        obtain ⟨fit, skip, rest, stretch, -⟩ := narrow_ok_iff.mp narrowed
        rw [accepts, same] at fit
        rw [same] at stretch
        exact (cut ⟨fit, skip, rest, stretch⟩).elim
    obtain ⟨t, failed⟩ := fails rfl
    obtain ⟨t', failed'⟩ := fails lengths.symm
    rw [failed, failed']
    exact .error rfl

end Shape

/-- The stores read every cell alike, under whatever label. -/
def ReadsAlike {σ τ : Type} [CellStore σ] [CellStore τ] (store : σ) (store' : τ) : Prop :=
  ∀ c ctx ctx', AgreeOnKind Operand.SameAs (CellStore.readItem store c ctx)
    (CellStore.readItem store' c ctx')

section

variable {σ τ : Type} [CellStore σ] [CellStore τ] {store : σ} {store' : τ}

theorem Operand.mapM_agree {ι : Type} {f g : ι → Except Fault Operand}
    (each : ∀ i, AgreeOnKind SameAs (f i) (g i)) (items : List ι) :
    AgreeOnKind SameItemsAs (items.mapM f) (items.mapM g) := by
  induction items with
  | nil => exact .ok .nil
  | cons i items ih =>
    rw [List.mapM_cons, List.mapM_cons]
    exact (each i).bind fun _ _ first => ih.bind fun _ _ rest => .ok (.cons first rest)

namespace View

/-- **Views of the same cells** have the same elements. -/
theorem item_agree (reads : ReadsAlike store store') {v w : View} (h : v.same w = true)
    (t : List Int) :
    AgreeOnKind Operand.SameAs (v.item store t) (w.item store' t) := by
  obtain ⟨typeName, lengths, base⟩ := (same_iff v w).mp h
  have full : v.shape.isFull t = w.shape.isFull t := by
    rw [Shape.isFull, Shape.isFull, Shape.dim, Shape.dim, lengths]
  rw [item, item, full, base]
  split
  · rw [Shape.locate_congr lengths]
    exact (AgreeOnKind.refl _).bind fun c c' same => same ▸ reads c {} {}
  · refine (Shape.narrow_agree lengths t w.base none none).bind fun part part' same => .ok ?_
    exact .view none none ((same_iff _ _).mpr ⟨typeName, same.1, same.2⟩)

theorem elements_agree (reads : ReadsAlike store store') {v w : View} (h : v.same w = true) :
    AgreeOnKind Operand.SameItemsAs (v.elements store) (w.elements store') := by
  have lengths := ((same_iff v w).mp h).2.1
  rw [elements, elements, length, length, lengths]
  exact Operand.mapM_agree (fun i : Nat => item_agree reads h [(i : Int)]) _

end View

namespace Operand

/-! ### Elements -/

mutual

/-- **Following a tuple of indexes** leads to operands that are the same. -/
theorem SameAs.item (reads : ReadsAlike store store') : ∀ {x y : Operand}, SameAs x y →
    ∀ t : List Int, AgreeOnKind SameAs (x.item store t) (y.item store' t)
  | x, y, h, [] => by
    rw [item_nil, item_nil]
    exact .ok h
  | _, _, .list _ _ _ _ h, i :: rest => by
    simp only [Operand.item, h.length_eq]
    split
    · exact .error rfl
    · exact h.itemOf reads _ _ rest
  | _, _, .view _ _ h, i :: rest => by
    simp only [Operand.item]
    exact View.item_agree reads h (i :: rest)
  | _, _, .group _ _ h, i :: rest => by
    simp only [Operand.item]
    exact h.item reads (i :: rest)
  | _, _, .int _ _ _, _ :: _ | _, _, .range _ _ _ _, _ :: _ | _, _, .spread _ _ _, _ :: _
  | _, _, .neg _ _ _, _ :: _ | _, _, .arith _ _ _ _ _, _ :: _ => by
    simp only [Operand.item]
    exact .error rfl

theorem SameItemsAs.itemOf (reads : ReadsAlike store store') : ∀ {xs ys : List Operand},
    SameItemsAs xs ys → ∀ (outside : Fault) (k : Nat) (rest : List Int),
      AgreeOnKind SameAs (itemOf store outside xs k rest) (itemOf store' outside ys k rest)
  | _, _, .nil, _, _, _ => by
    simp only [Operand.itemOf]
    exact .error rfl
  | _, _, .cons head _, _, 0, rest => by
    simp only [Operand.itemOf]
    exact head.item reads rest
  | _, _, .cons _ tail, outside, k + 1, rest => by
    simp only [Operand.itemOf]
    exact tail.itemOf reads outside k rest

end

theorem SameAs.elements (reads : ReadsAlike store store') : ∀ {x y : Operand}, SameAs x y →
    AgreeOnKind SameItemsAs (x.elements store) (y.elements store')
  | _, _, .list _ _ _ _ h => .ok h
  | _, _, .view _ _ h => View.elements_agree reads h
  | _, _, .group _ _ h => by
    simp only [Operand.elements]
    exact h.elements reads
  | _, _, .spread _ _ h => by
    simp only [Operand.elements]
    exact h.elements reads
  | _, _, .int _ _ _ | _, _, .range _ _ _ _ | _, _, .neg _ _ _ | _, _, .arith _ _ _ _ _ => by
    simp only [Operand.elements]
    exact .error rfl

theorem SameAs.unrolled (reads : ReadsAlike store store') {x y : Operand} (h : SameAs x y) :
    AgreeOnKind SameItemsAs (x.unrolled store) (y.unrolled store') := by
  cases h with
  | spread l l' h => exact h.elements reads
  | _ => exact .error rfl

/-! ### Instantiation -/

theorem SameAs.spliced (reads : ReadsAlike store store') {x y : Operand} (h : SameAs x y) :
    AgreeOnKind SameItemsAs (spliced store x) (spliced store' y) := by
  have kept : SameItemsAs [x] [y] := .cons h .nil
  cases h with
  | group l l' inner =>
    cases inner with
    | spread m m' h => exact h.elements reads
    | _ => exact .ok kept
  | _ => exact .ok kept

mutual

/-- **Instantiation** gives operands that are the same, and so does splicing the items of lists. -/
theorem SameAs.instantiate (reads : ReadsAlike store store') (unroll : Bool) : ∀ {x y : Operand},
    SameAs x y → AgreeOnKind SameAs (x.instantiate store unroll) (y.instantiate store' unroll)
  | _, _, .int n l l' => .ok (.int n l l')
  | _, _, .view l l' h => .ok (.view l l' h)
  | _, _, .range l l' lower upper => by
    simp only [Operand.instantiate]
    exact (lower.instantiate reads unroll).bind fun _ _ lo =>
      (upper.instantiate reads unroll).bind fun _ _ hi => .ok (.range l l' lo hi)
  | _, _, .list _ _ l l' h => by
    simp only [Operand.instantiate]
    exact (h.materialize reads).bind fun _ _ items => .ok (.list none none l l' items)
  | _, _, .group l l' h => by
    simp only [Operand.instantiate]
    exact (h.instantiate reads unroll).bind fun _ _ inner => .ok (.group l l' inner)
  | _, _, .neg l l' h => by
    simp only [Operand.instantiate]
    exact (h.instantiate reads unroll).bind fun _ _ inner => .ok (.neg l l' inner)
  | _, _, .arith op l l' left right => by
    simp only [Operand.instantiate]
    exact (left.instantiate reads unroll).bind fun _ _ a =>
      (right.instantiate reads unroll).bind fun _ _ b => .ok (.arith op l l' a b)
  | _, _, .spread l l' h => by
    simp only [Operand.instantiate]
    refine (h.instantiate reads unroll).bind fun _ _ inner => ?_
    cases unroll with
    | true => exact (inner.elements reads).bind fun _ _ items => .ok (.list none none l l' items)
    | false => exact .ok (.spread l l' inner)

theorem SameBoundAs.instantiate (reads : ReadsAlike store store') (unroll : Bool) :
    ∀ {lo hi : Option Operand}, SameBoundAs lo hi →
      AgreeOnKind SameBoundAs (instantiateBound store unroll lo) (instantiateBound store' unroll hi)
  | _, _, .none => .ok .none
  | _, _, .some h => by
    simp only [instantiateBound]
    exact (h.instantiate reads unroll).bind fun _ _ inner => .ok (.some inner)

theorem SameItemsAs.materialize (reads : ReadsAlike store store') : ∀ {xs ys : List Operand},
    SameItemsAs xs ys →
      AgreeOnKind SameItemsAs (materializeItems store xs) (materializeItems store' ys)
  | _, _, .nil => .ok .nil
  | _, _, .cons head tail => by
    simp only [materializeItems]
    exact (head.instantiate reads false).bind fun _ _ first =>
      (first.spliced reads).bind fun _ _ here => (tail.materialize reads).bind fun _ _ rest =>
        .ok (here.append rest)

end

end Operand

end

end ArrayCells
