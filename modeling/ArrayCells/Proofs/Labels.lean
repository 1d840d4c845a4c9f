import Mathlib.Data.List.Forall2
import ArrayCells.Binding.Write
import ArrayCells.Proofs.Confinement
import ArrayCells.Proofs.SameOperands

/-!
# Labels never influence results

Labels are shown to people.  Whatever is done with two operands that are the same apart from labels
ends alike: both calls fail for causes of one kind, or both succeed with results that are the same.
Writes are no exception, although what is written carries the labels along: the stores that are left
differ in labels alone, and stores that differ in labels alone cannot be told apart by later calls.

* `Content.SameAs`, `Memory.SameAs`: contents and stores that differ in labels alone;
* `LabelBlind`: what a relation between stores has to keep, with `Memory.labelBlind`;
* `Access.ofOperands_eq`, `Binding.item_agree`: accesses and what they read;
* `RightSide.SameAs.pairs`: right sides that are the same give the same to every cell;
* `Memory.same_interchangeable`: all that is done with operands over a store in memory.
-/

namespace ArrayCells

open CellStore

/-! ### Contents -/

/-- The contents are the same number, or operands that are the same. -/
inductive Content.SameAs : Content → Content → Prop
  | number (n : Int) : SameAs (.number n) (.number n)
  | operand {x y : Operand} (h : x.SameAs y) : SameAs (.operand x) (.operand y)

namespace Content

theorem sameAs_ofOperand {x y : Operand} (h : x.SameAs y) :
    SameAs (ofOperand x) (ofOperand y) := by
  have kept : SameAs (operand x) (operand y) := .operand h
  cases h with
  | int n => exact .number n
  | _ => exact kept

theorem SameAs.toOperand {content content' : Content} (h : SameAs content content') :
    content.toOperand.SameAs content'.toOperand := by
  cases h with
  | number n => exact .int n none none
  | operand h => exact h

theorem SameAs.refl (content : Content) : SameAs content content := by
  cases content with
  | number n => exact .number n
  | operand x => exact .operand (.refl x)

end Content

/-! ### Accesses -/

namespace Operand

theorem SameBoundAs.boundValue_eq {lo hi : Option Operand} (h : SameBoundAs lo hi) :
    boundValue lo = boundValue hi := by
  cases h with
  | none => rfl
  | some h => rw [boundValue, boundValue, h.toInt_eq]

/-- Operands that are the same are ranges with the same values of the bounds, or no ranges. -/
theorem SameAs.range?_eq : ∀ {x y : Operand}, SameAs x y →
    x.range?.map boundValues = y.range?.map boundValues
  | _, _, .range _ _ lower upper => by
    simp only [range?, Option.map_some, boundValues, lower.boundValue_eq, upper.boundValue_eq]
  | _, _, .group _ _ h => by
    simp only [range?]
    exact h.range?_eq
  | _, _, .int _ _ _ | _, _, .view _ _ _ | _, _, .list _ _ _ _ _ | _, _, .spread _ _ _
  | _, _, .neg _ _ _ | _, _, .arith _ _ _ _ _ => rfl

end Operand

namespace Access

theorem ofOperandsFrom_eq (position count : Nat) {indexes indexes' : List Operand}
    (h : Operand.SameItemsAs indexes indexes') :
    ofOperandsFrom position count indexes = ofOperandsFrom position count indexes' := by
  induction indexes generalizing indexes' position with
  | nil =>
    cases h
    rfl
  | cons x xs ih =>
    cases h with
    | @cons _ y _ ys head tail =>
      have bounds := head.range?_eq
      rw [ofOperandsFrom, ofOperandsFrom, head.toInt_eq, ih (position + 1) tail]
      cases here : x.range? <;> cases there : y.range? <;> rw [here, there] at bounds
      case none.some | some.none => cases bounds
      case some.some =>
        cases tail with
        | nil => simp only [Option.some.inj bounds]
        | cons => rfl

/-- **Index operands that are the same** make the same access. -/
theorem ofOperands_eq {indexes indexes' : List Operand}
    (h : Operand.SameItemsAs indexes indexes') : ofOperands indexes = ofOperands indexes' := by
  rw [ofOperands, ofOperands, h.length_eq]
  exact ofOperandsFrom_eq 0 _ h

end Access

/-! ### Stores -/

/-- Related stores read alike, whatever labels they are told, and stay related when contents that
are the same are written to them. -/
structure LabelBlind {σ τ : Type} [CellStore σ] [CellStore τ] (R : σ → τ → Prop) : Prop
    extends Lockstep Fault.SameKind Content.SameAs R where
  items : ∀ {store store'}, R store store' → ReadsAlike store store'
  constants : ∀ {store store'}, R store store' → ∀ c ctx ctx',
    AgreeOnKind Operand.SameAs (readConstItem store c ctx) (readConstItem store' c ctx')
  packed : ∀ {store store'}, R store store' → ∀ c row,
    Option.Rel Content.SameAs (readRow store c row) (readRow store' c row)

section

variable {σ τ : Type} [CellStore σ] [CellStore τ] {R : σ → τ → Prop} {store : σ} {store' : τ}

/-! ### Reads -/

namespace Binding

theorem readCell_agree (blind : LabelBlind R) (h : R store store') (b : Binding) (c : CellId)
    (ctx ctx' : Context) :
    AgreeOnKind Operand.SameAs (b.readCell store c ctx) (b.readCell store' c ctx') := by
  unfold readCell
  split
  · exact blind.constants h c ctx ctx'
  · exact blind.items h c ctx ctx'

theorem readRow_agree (blind : LabelBlind R) (h : R store store') (label label' : String)
    (c : CellId) (row : Int) :
    AgreeOnKind Operand.SameAs (Binding.readRow store label c row)
      (Binding.readRow store' label' c row) := by
  have held := blind.packed h c row
  unfold Binding.readRow
  generalize CellStore.readRow store c row = content at held ⊢
  generalize CellStore.readRow store' c row = content' at held ⊢
  cases held with
  | none => exact .error rfl
  | some same => exact .ok same.toOperand

theorem itemOfArray_agree (blind : LabelBlind R) (h : R store store') (b : Binding)
    (shape : Shape) (access : Access) (label label' : String) (ctx ctx' : Context) :
    AgreeOnKind Operand.SameAs (b.itemOfArray store shape access label ctx)
      (b.itemOfArray store' shape access label' ctx') := by
  have region (r : Except Fault Operand) : AgreeOnKind Operand.SameAs r r :=
    (AgreeOnKind.refl r).mono fun x y same => same ▸ .refl x
  simp only [itemOfArray, ← blind.rows h]
  split
  · split
    · exact (AgreeOnKind.refl _).bind fun c c' same => same ▸ b.readCell_agree blind h c ctx ctx'
    · exact region _
  · split
    · exact (AgreeOnKind.refl _).bind fun c c' same => same ▸ readRow_agree blind h label label' c _
    · exact region _
  · exact region _

theorem itemOfScalar_agree (blind : LabelBlind R) (h : R store store') (b : Binding)
    (access : Access) (label label' : String) (ctx ctx' : Context) :
    AgreeOnKind Operand.SameAs (b.itemOfScalar store access label ctx)
      (b.itemOfScalar store' access label' ctx') := by
  unfold itemOfScalar
  split
  · exact b.readCell_agree blind h b.base ctx ctx'
  · rw [← blind.rows h]
    split
    · exact readRow_agree blind h label label' b.base _
    · exact .error rfl
  · exact .error rfl

/-- **Reads through a binding** with index operands that are the same end alike, in whatever
contexts. -/
theorem item_agree (blind : LabelBlind R) (h : R store store') (b : Binding)
    {indexes indexes' : List Operand} (same : Operand.SameItemsAs indexes indexes')
    (ctx ctx' : Context) :
    AgreeOnKind Operand.SameAs (b.item store indexes ctx) (b.item store' indexes' ctx') := by
  rw [item, item, Access.ofOperands_eq same]
  refine (AgreeOnKind.refl _).bind ?_
  rintro access _ rfl
  dsimp only
  split
  · exact (b.itemOfArray_agree blind h _ access _ _ ctx ctx').bind fun _ _ same =>
      .ok (same.withLabel? _ _)
  · exact (b.itemOfScalar_agree blind h access _ _ ctx ctx').bind fun _ _ same =>
      .ok (same.withLabel? _ _)

end Binding

/-! ### Writes -/

/-- The right sides are of one kind, with contents or operands that are the same. -/
inductive RightSide.SameAs : RightSide → RightSide → Prop
  | single {content content' : Content} (h : content.SameAs content') :
      SameAs (.single content) (.single content')
  | sequence {contents contents' : List Content}
      (h : List.Forall₂ Content.SameAs contents contents') :
      SameAs (.sequence contents) (.sequence contents')
  | indexable {x y : Operand} (h : x.SameAs y) : SameAs (.indexable x) (.indexable y)

theorem Content.rel_getElem? {contents contents' : List Content}
    (h : List.Forall₂ SameAs contents contents') (position : Nat) :
    Option.Rel SameAs contents[position]? contents'[position]? := by
  induction h generalizing position with
  | nil => exact .none
  | cons head _ ih =>
    cases position with
    | zero => exact .some head
    | succ position => exact ih position

/-- **Right sides that are the same** give contents that are the same, over stores that cannot be
told apart. -/
theorem RightSide.SameAs.pairs (blind : LabelBlind R) {value value' : RightSide}
    (h : SameAs value value') : value.Pairs Fault.SameKind Content.SameAs R value' := by
  cases h with
  | single h =>
    exact ⟨fun _ => .ok h, fun _ => rfl, fun _ _ _ _ _ _ => .error rfl⟩
  | indexable h =>
    exact ⟨fun _ => .ok (Content.sameAs_ofOperand h), fun _ => rfl,
      fun related _ _ _ _ relative => (h.item (blind.items related) relative).map
        fun _ _ => Content.sameAs_ofOperand⟩
  | @sequence contents contents' h =>
    refine ⟨fun _ => .error rfl, fun lengths => ?_, fun _ name t lengths position relative => ?_⟩
    · simp only [excess?, h.length_eq]
    · have found := Content.rel_getElem? h position
      simp only [element]
      generalize contents[position]? = content at found ⊢
      generalize contents'[position]? = content' at found ⊢
      cases found with
      | none => exact .error rfl
      | some same => exact .ok same

end

/-! ### Stores in memory -/

/-- The stores hold contents that are the same at every address, and are otherwise equal. -/
structure Memory.SameAs (m m' : Memory) : Prop where
  packsRows : m.packsRows = m'.packsRows
  next : m.next = m'.next
  held : ∀ a, Option.Rel Content.SameAs (readAt m a) (readAt m' a)

namespace Memory

theorem SameAs.refl (m : Memory) : m.SameAs m where
  packsRows := rfl
  next := rfl
  held a := by
    cases readAt m a with
    | none => exact .none
    | some content => exact .some (.refl content)

theorem readItem_agree {m m' : Memory} (h : m.SameAs m') : ReadsAlike m m' := by
  intro c ctx ctx'
  have held : Option.Rel Content.SameAs (read m c) (read m' c) := h.held (.cell c)
  rw [readsByDefault, readsByDefault]
  generalize read m c = content at held ⊢
  generalize read m' c = content' at held ⊢
  cases held with
  | none => exact .error rfl
  | some same => exact .ok same.toOperand

/-- **Stores that differ in labels alone** cannot be told apart. -/
theorem labelBlind : LabelBlind SameAs where
  faults e _ := e.sameKind_refl
  rows h := h.packsRows
  writes := by
    intro m m' h content content' same a
    rcases writeAt_alike h.packsRows content content' a with
      ⟨n, n', left, right⟩ | ⟨fault, left, right⟩
    · rw [left, right]
      refine .ok ⟨?_, ?_, fun b => ?_⟩
      · have rows := hasRows_writeAt left
        have rows' := hasRows_writeAt right
        exact rows.trans (h.packsRows.trans rows'.symm)
      · rw [next_writeAt left, next_writeAt right, h.next]
      · rw [readAt_writeAt left, readAt_writeAt right]
        split
        · exact .some same
        · exact h.held b
    · rw [left, right]
      exact .error rfl
  items h := readItem_agree h
  constants h := readItem_agree h
  packed h c row := h.held (.row ⟨c, row⟩)

end Memory

/-! ### Operands that are the same -/

theorem sameOutcome_of_agree {r r' : Except Fault Operand}
    (h : AgreeOnKind Operand.SameAs r r') : SameOutcome r r' := by
  cases h with
  | ok same => exact same.same
  | error kind => exact kind

namespace TitledList

variable {xs ys : TitledList} (h : Operand.SameItemsAs xs.items ys.items)

include h

theorem evaluate_agree : AgreeOnKind (fun xs ys => xs.same ys = true) xs.evaluate ys.evaluate :=
  h.evaluate.bind fun _ _ items => .ok items.same

theorem materialize_agree {m m' : Memory} (reads : ReadsAlike m m') :
    AgreeOnKind (fun xs ys => xs.same ys = true) (xs.materialize m) (ys.materialize m') :=
  (h.materialize reads).bind fun _ _ items => .ok items.same

end TitledList

/-- **Labels never influence results.**  Take two operands that are the same apart from labels, at
any depth, and apart from the marks of views.  In one store, or in two that hold the same apart from
labels, and in contexts with the same options, they are the same integer, evaluate, instantiate and
unroll to the same, and lead to the same elements; an assignment of either has the same outcome and
leaves the same binding, and stores that hold the same.  So do lists with the same items, and reads
through a binding with index operands that are the same.  What fails for one operand fails for the
other, for a cause of the same kind. -/
theorem Memory.same_interchangeable {m m' : Memory} (stores : m.SameAs m') (ctx ctx' : Context)
    (unroll : ctx.unroll = ctx'.unroll) (forced : ctx.forceInit = ctx'.forceInit) :
    (∀ x y : Operand, x.same y = true →
      x.toInt = y.toInt ∧
      SameOutcome x.evaluate y.evaluate ∧
      SameOutcome (x.instantiate m ctx.unroll) (y.instantiate m' ctx'.unroll) ∧
      AgreeOnKind (fun xs ys => Operand.sameItems xs ys = true) (x.unrolled m) (y.unrolled m') ∧
      (∀ t, SameOutcome (x.item m t) (y.item m' t)) ∧
      ∀ b t, EndsAgree Fault.SameKind Memory.SameAs (Bound.assign (.indexable x) t ctx ⟨b, m⟩)
        (Bound.assign (.indexable y) t ctx' ⟨b, m'⟩)) ∧
    (∀ xs ys : TitledList, xs.same ys = true →
      AgreeOnKind (fun xs ys => xs.same ys = true) xs.evaluate ys.evaluate ∧
      AgreeOnKind (fun xs ys => xs.same ys = true) (xs.materialize m) (ys.materialize m') ∧
      ∀ t, SameOutcome (xs.item m t) (ys.item m' t)) ∧
    ∀ (b : Binding) indexes indexes', Operand.sameItems indexes indexes' = true →
      SameOutcome (b.item m indexes ctx) (b.item m' indexes' ctx') := by
  have reads : ReadsAlike m m' := readItem_agree stores
  refine ⟨fun x y same => ?_, fun xs ys same => ?_, fun b indexes indexes' same => ?_⟩
  · have h := Operand.sameAs_of_same same
    rw [← unroll]
    refine ⟨h.toInt_eq, sameOutcome_of_agree h.evaluate,
      sameOutcome_of_agree (h.instantiate reads ctx.unroll), ?_, fun t => ?_, fun b t => ?_⟩
    · exact (h.unrolled reads).mono fun _ _ items => items.same
    · exact sameOutcome_of_agree (h.item reads t)
    · exact labelBlind.toLockstep.assign stores b
        (RightSide.SameAs.pairs labelBlind (.indexable h)) t forced
  · have items := Operand.sameItemsAs_of_same same
    refine ⟨TitledList.evaluate_agree items, TitledList.materialize_agree items reads, fun t => ?_⟩
    have lists : Operand.SameAs xs.toOperand ys.toOperand := .list _ _ _ _ items
    exact sameOutcome_of_agree (lists.item reads t)
  · have items := Operand.sameItemsAs_of_same same
    exact sameOutcome_of_agree (b.item_agree labelBlind stores items ctx ctx')

/-- A list is assigned to the first row of a 2 by 2 array, and a list with other labels and another
title elsewhere in the evaluation: the stores that are left hold the same. -/
theorem Memory.same_interchangeable_relabelled :
    let x : Operand := .list [.int 1 (some "a"), .group (.int 2 (some "b"))] (some "title")
    let y : Operand := .list [.int 1, .group (.int 2) (some "c")] none (some "y")
    let b : Binding := { name := "A", typeName := "int", shape := some (.fresh [2, 2]), base := ⟨0⟩ }
    let place : Place := ⟨"main.pil", 3, 7⟩
    x.same y = true ∧
      SameOutcome (x.item ({} : Memory) [1]) (y.item ({} : Memory) [1]) ∧
      EndsAgree Fault.SameKind Memory.SameAs
        (Bound.assign (.indexable x) [0] { label := some "x" } ⟨b, {}⟩)
        (Bound.assign (.indexable y) [0] { place := some place } ⟨b, {}⟩) := by
  intro x y b place
  have same : x.same y = true := by
    simp only [x, y, Operand.same, Operand.sameItems, beq_self_eq_true, Bool.and_self]
  have both := same_interchangeable (.refl {}) { label := some "x" } { place := some place } rfl rfl
  obtain ⟨-, -, -, -, items, assigned⟩ := both.1 x y same
  exact ⟨same, items [1], assigned b [0]⟩

end ArrayCells
