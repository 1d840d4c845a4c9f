import ArrayCells.Proofs.SameOperands
import ArrayCells.Proofs.Spreads
import ArrayCells.Proofs.ViewElements
import ArrayCells.Proofs.WrittenForm

/-!
# Materialized lists

Materializing a list splices the items of every list inside of it.  What comes out has nothing left
to splice, at any depth: items that were spliced in are items of lists that have been materialized
themselves, or elements of views.  The latter are the reason for the condition on the store, since a
cell could hold an operand that has not been instantiated.

* `Operand.isSplice`, `Operand.Settled`: the items that are spliced, and operands without any;
* `Settled.instantiate`: instantiation leaves settled operands as they are, whatever the store;
* `View.Numeric`: views whose cells are read as plain numbers;
* `Operand.Finished`: what instantiation makes of operands with such views, by `finished`;
* `Operand.Unspliced`: operands in which no list has an item to be spliced;
* `Operand.untitled`, `Operand.instantiate_of_unspliced`: these only lose the titles of their lists;
* `TitledList.materialize_settles`: a second materialization changes nothing.
-/

namespace ArrayCells

namespace Operand

/-! ### Settled operands -/

/-- As an item of a list, the operand is replaced by what it stands for: it is a group directly
around a spread. -/
def isSplice : Operand → Bool
  | group (spread ..) _ => true
  | _ => false

/-- If the operand is a list, it has no title, and none of its items is to be spliced. -/
def Flat : Operand → Prop
  | list items title _ => title = none ∧ ∀ x ∈ items, x.isSplice = false
  | _ => True

/-- All lists in the operand are flat, at any depth. -/
def Settled (x : Operand) : Prop :=
  x.Throughout Flat

/-- An item that stays what and where it is. -/
structure Stays (x : Operand) : Prop where
  settled : x.Settled
  kept : x.isSplice = false

theorem settled_list {items : List Operand} {title l : Option String} :
    (list items title l).Settled ↔ title = none ∧ ∀ x ∈ items, x.Stays := by
  rw [Settled, Throughout, throughoutItems_iff, Flat, and_assoc]
  refine and_congr_right fun _ => ?_
  constructor
  · rintro ⟨kept, settled⟩ x among
    exact ⟨settled x among, kept x among⟩
  · intro all
    exact ⟨fun x among => (all x among).kept, fun x among => (all x among).settled⟩

theorem settled_range {lo hi : Option Operand} {l : Option String} :
    (range lo hi l).Settled ↔ (∀ x ∈ lo, x.Settled) ∧ ∀ x ∈ hi, x.Settled := by
  rw [Settled, Throughout, throughoutBound_iff, throughoutBound_iff]
  exact and_iff_right trivial

theorem settled_group {x : Operand} {l : Option String} : (group x l).Settled ↔ x.Settled := by
  rw [Settled, Throughout]
  exact and_iff_right trivial

theorem settled_spread {x : Operand} {l : Option String} : (spread x l).Settled ↔ x.Settled := by
  rw [Settled, Throughout]
  exact and_iff_right trivial

theorem settled_neg {x : Operand} {l : Option String} : (neg x l).Settled ↔ x.Settled := by
  rw [Settled, Throughout]
  exact and_iff_right trivial

theorem settled_arith {op : ArithOp} {a b : Operand} {l : Option String} :
    (arith op a b l).Settled ↔ a.Settled ∧ b.Settled := by
  rw [Settled, Throughout]
  exact and_iff_right trivial

section

variable {σ : Type} [CellStore σ] (store : σ)

theorem spliced_of_kept {x : Operand} (kept : x.isSplice = false) :
    spliced store x = .ok [x] := by
  cases x with
  | group x l =>
    cases x with
    | spread x l' => cases kept
    | _ => rfl
  | _ => rfl

/-- What is spliced for an item are its elements. -/
theorem spliced_of_isSplice {x : Operand} (splice : x.isSplice = true) :
    spliced store x = x.elements store := by
  cases x with
  | group x l =>
    cases x with
    | spread x l' => rfl
    | _ => cases splice
  | _ => cases splice

/-- What is spliced for an item is the item itself or its elements. -/
theorem forall_mem_spliced {p : Operand → Prop} {x : Operand} {here : List Operand}
    (whole : x.isSplice = false → p x)
    (elements : ∀ items, x.elements store = .ok items → ∀ y ∈ items, p y)
    (given : spliced store x = .ok here) : ∀ y ∈ here, p y := by
  cases splice : x.isSplice with
  | true =>
    rw [spliced_of_isSplice store splice] at given
    exact elements here given
  | false =>
    rw [spliced_of_kept store splice] at given
    cases given
    exact List.forall_mem_singleton.mpr (whole splice)

mutual

/-- **Settled operands are instantiated to themselves.** -/
theorem Settled.instantiate : ∀ {x : Operand}, x.Settled → x.instantiate store false = .ok x
  | .int .., _ | .view .., _ => by simp only [Operand.instantiate]
  | .range lo hi l, h => by
    obtain ⟨lower, upper⟩ := settled_range.mp h
    exact instantiate_range.mpr
      ⟨lo, instantiateBound_of_settled lower, hi, instantiateBound_of_settled upper, rfl⟩
  | .list items title l, h => by
    obtain ⟨rfl, stay⟩ := settled_list.mp h
    exact instantiate_list.mpr ⟨items, materializeItems_of_stays stay, rfl⟩
  | .group x l, h => instantiate_group.mpr ⟨x, Settled.instantiate (settled_group.mp h), rfl⟩
  | .neg x l, h => instantiate_neg.mpr ⟨x, Settled.instantiate (settled_neg.mp h), rfl⟩
  | .arith op a b l, h => by
    obtain ⟨left, right⟩ := settled_arith.mp h
    exact instantiate_arith.mpr
      ⟨a, Settled.instantiate left, b, Settled.instantiate right, rfl⟩
  | .spread x l, h =>
    instantiate_spread_kept.mpr ⟨x, Settled.instantiate (settled_spread.mp h), rfl⟩

theorem instantiateBound_of_settled : ∀ {bound : Option Operand}, (∀ x ∈ bound, x.Settled) →
    instantiateBound store false bound = .ok bound
  | none, _ => rfl
  | some x, h => instantiateBound_some.mpr ⟨x, Settled.instantiate (h x rfl), rfl⟩

theorem materializeItems_of_stays : ∀ {items : List Operand}, (∀ x ∈ items, x.Stays) →
    materializeItems store items = .ok items
  | [], _ => rfl
  | x :: rest, h => by
    have here := h x List.mem_cons_self
    have others := materializeItems_of_stays fun y among => h y (List.mem_cons_of_mem x among)
    exact materializeItems_cons.mpr
      ⟨x, Settled.instantiate here.settled, [x], spliced_of_kept store here.kept, rest, others, rfl⟩

end

end

end Operand

/-! ### Views of numbers -/

section

variable {σ : Type} [CellStore σ] {store : σ}

/-- Whatever is read from a cell of the view is a plain number. -/
def View.Numeric (store : σ) (view : View) : Prop :=
  ∀ k < volume view.shape.lengths, ∀ x,
    CellStore.readItem store (view.base.advance k) {} = .ok x → ∃ n l, x = .int n l

/-- A store that reads cells in the way given for all stores reads plain numbers where they are
held. -/
theorem View.numeric_of_read (default : ReadsByDefault σ) {view : View}
    (numbers : ∀ k < volume view.shape.lengths, ∀ content,
      CellStore.read store (view.base.advance k) = some content → ∃ n, content = .number n) :
    view.Numeric store := by
  intro k below x given
  rw [default] at given
  split at given
  · rename_i content held
    obtain ⟨n, rfl⟩ := numbers k below content held
    cases given
    exact ⟨n, none, rfl⟩
  · cases given

/-- A view that holds numbers is one of numbers. -/
theorem View.HoldsNumbers.numeric (default : ReadsByDefault σ) {view : View} {number : Nat → Int}
    (h : view.HoldsNumbers store number) : view.Numeric store := by
  refine View.numeric_of_read default fun k below content held => ⟨number k, ?_⟩
  rw [← view.shape.length_marks] at below
  exact Option.some.inj (held.symm.trans (h k below))

/-- The elements of a view of numbers are numbers and narrower views. -/
theorem View.stays_of_elements {view : View} (numeric : view.Numeric store) {items : List Operand}
    (elements : view.elements store = .ok items) : ∀ x ∈ items, x.Stays := by
  refine forall_mem_elements (fun k below x given => ?_) (fun v => ⟨trivial, rfl⟩) elements
  obtain ⟨n, l, rfl⟩ := numeric k below x given
  exact ⟨trivial, rfl⟩

end

namespace Operand

variable {σ : Type} [CellStore σ] {store : σ}

/-! ### What instantiation makes of an operand -/

/-- If the operand is a view, it is one of numbers. -/
def NumericView (store : σ) : Operand → Prop
  | view v _ => v.Numeric store
  | _ => True

/-- Nothing is left to splice in the operand, neither in what it holds nor in what is spliced for
it. -/
structure Finished (store : σ) (x : Operand) : Prop where
  settled : x.Settled
  elements : ∀ items, x.elements store = .ok items → ∀ y ∈ items, y.Stays

theorem Finished.of_isSingle {x : Operand} (single : x.isSingle = true) (settled : x.Settled) :
    x.Finished store where
  settled := settled
  elements items given := by
    rw [elements_of_isSingle store single] at given
    cases given

/-- What is spliced for an item stays in the list. -/
theorem Finished.stays_of_spliced {x : Operand} (finished : x.Finished store)
    {here : List Operand} (given : spliced store x = .ok here) : ∀ y ∈ here, y.Stays :=
  forall_mem_spliced store (fun kept => ⟨finished.settled, kept⟩) finished.elements given

mutual

/-- **Instantiation leaves nothing to splice.**  The elements of a list are the items that it was
made of, those of a view are numbers or views, and groups and spreads have the elements of what is
inside of them. -/
theorem finished_of_instantiate : ∀ {x y : Operand}, x.Throughout (NumericView store) →
    x.instantiate store false = .ok y → y.Finished store
  | .int .., y, _, given => by
    cases given
    exact .of_isSingle rfl trivial
  | .view v l, y, numeric, given => by
    cases given
    exact ⟨trivial, fun items => View.stays_of_elements numeric⟩
  | .range lo hi l, y, numeric, given => by
    rw [Throughout] at numeric
    obtain ⟨lo', lower, hi', upper, rfl⟩ := instantiate_range.mp given
    exact .of_isSingle rfl (settled_range.mpr
      ⟨settled_of_instantiateBound numeric.2.1 lower, settled_of_instantiateBound numeric.2.2 upper⟩)
  | .list items title l, y, numeric, given => by
    rw [Throughout] at numeric
    obtain ⟨items', made, rfl⟩ := instantiate_list.mp given
    have stay := stays_of_materializeItems numeric.2 made
    refine ⟨settled_list.mpr ⟨rfl, stay⟩, fun items given => ?_⟩
    cases given
    exact stay
  | .group x l, y, numeric, given => by
    rw [Throughout] at numeric
    obtain ⟨x', inner, rfl⟩ := instantiate_group.mp given
    have finished := finished_of_instantiate numeric.2 inner
    exact ⟨settled_group.mpr finished.settled, finished.elements⟩
  | .spread x l, y, numeric, given => by
    rw [Throughout] at numeric
    obtain ⟨x', inner, rfl⟩ := instantiate_spread_kept.mp given
    have finished := finished_of_instantiate numeric.2 inner
    exact ⟨settled_spread.mpr finished.settled, finished.elements⟩
  | .neg x l, y, numeric, given => by
    rw [Throughout] at numeric
    obtain ⟨x', inner, rfl⟩ := instantiate_neg.mp given
    exact .of_isSingle rfl (settled_neg.mpr (finished_of_instantiate numeric.2 inner).settled)
  | .arith op a b l, y, numeric, given => by
    rw [Throughout] at numeric
    obtain ⟨a', left, b', right, rfl⟩ := instantiate_arith.mp given
    exact .of_isSingle rfl (settled_arith.mpr ⟨(finished_of_instantiate numeric.2.1 left).settled,
      (finished_of_instantiate numeric.2.2 right).settled⟩)

theorem settled_of_instantiateBound : ∀ {bound bound' : Option Operand},
    ThroughoutBound (NumericView store) bound →
    instantiateBound store false bound = .ok bound' → ∀ y ∈ bound', y.Settled
  | none, _, _, given => by
    cases given
    exact fun _ among => (Option.not_mem_none _ among).elim
  | some x, _, numeric, given => by
    obtain ⟨x', inner, rfl⟩ := instantiateBound_some.mp given
    rintro y ⟨⟩
    exact (finished_of_instantiate numeric inner).settled

theorem stays_of_materializeItems : ∀ {items items' : List Operand},
    ThroughoutItems (NumericView store) items →
    materializeItems store items = .ok items' → ∀ y ∈ items', y.Stays
  | [], _, _, given => by
    cases given
    exact List.forall_mem_nil _
  | x :: rest, _, numeric, given => by
    rw [ThroughoutItems] at numeric
    obtain ⟨x', inner, here, spliced, rest', later, rfl⟩ := materializeItems_cons.mp given
    rw [List.forall_mem_append]
    exact ⟨(finished_of_instantiate numeric.1 inner).stays_of_spliced spliced,
      stays_of_materializeItems numeric.2 later⟩

end

/-! ### Operands without anything to splice -/

/-- If the operand is a list, none of its items is to be spliced. -/
def Whole : Operand → Prop
  | list items _ _ => ∀ x ∈ items, x.isSplice = false
  | _ => True

/-- No list in the operand has an item to be spliced, at any depth. -/
def Unspliced (x : Operand) : Prop :=
  x.Throughout Whole

theorem unspliced_list {items : List Operand} {title l : Option String} :
    (list items title l).Unspliced ↔ ∀ x ∈ items, x.Unspliced ∧ x.isSplice = false := by
  rw [Unspliced, Throughout, throughoutItems_iff, Whole, ← forall_and]
  exact forall_congr' fun x => and_comm.trans (forall_and (α := x ∈ items)).symm

theorem SameAs.isSplice_eq : ∀ {x y : Operand}, SameAs x y → x.isSplice = y.isSplice
  | _, _, .group _ _ h => by cases h <;> rfl
  | _, _, .int .. | _, _, .range .. | _, _, .view .. | _, _, .list .. | _, _, .spread ..
  | _, _, .neg .. | _, _, .arith .. => rfl

theorem not_isSplice_of_spreadless {x : Operand} (spreadless : x.Throughout (·.isSpread = false)) :
    x.isSplice = false := by
  cases x with
  | group x l =>
    rw [Throughout] at spreadless
    have inner := spreadless.2.here
    cases x with
    | spread x l' => cases inner
    | _ => rfl
  | _ => rfl

/-- Without a spread, there is nothing to splice. -/
theorem unspliced_of_spreadless {x : Operand} (spreadless : x.Throughout (·.isSpread = false)) :
    x.Unspliced := by
  refine Throughout.imp (fun y spreadless => ?_) spreadless
  cases y with
  | list items title l =>
    rw [Throughout, throughoutItems_iff] at spreadless
    exact fun z among => not_isSplice_of_spreadless (spreadless.2 z among)
  | _ => trivial

mutual

/-- The operand without the titles of its lists. -/
def untitled : Operand → Operand
  | int n l => int n l
  | view v l => view v l
  | range lo hi l => range (untitledBound lo) (untitledBound hi) l
  | list items _ l => list (untitledItems items) none l
  | spread x l => spread (untitled x) l
  | group x l => group (untitled x) l
  | neg x l => neg (untitled x) l
  | arith op a b l => arith op (untitled a) (untitled b) l

def untitledBound : Option Operand → Option Operand
  | none => none
  | some x => some (untitled x)

def untitledItems : List Operand → List Operand
  | [] => []
  | x :: rest => untitled x :: untitledItems rest

end

mutual

theorem sameAs_untitled : ∀ x : Operand, SameAs x x.untitled
  | int .. | view .. => .refl _
  | range lo hi _ => .range _ _ (sameBoundAs_untitled lo) (sameBoundAs_untitled hi)
  | list items _ _ => .list _ _ _ _ (sameItemsAs_untitled items)
  | spread x _ => .spread _ _ (sameAs_untitled x)
  | group x _ => .group _ _ (sameAs_untitled x)
  | neg x _ => .neg _ _ (sameAs_untitled x)
  | arith _ a b _ => .arith _ _ _ (sameAs_untitled a) (sameAs_untitled b)

theorem sameBoundAs_untitled : ∀ bound : Option Operand, SameBoundAs bound (untitledBound bound)
  | none => .none
  | some x => .some (sameAs_untitled x)

theorem sameItemsAs_untitled : ∀ items : List Operand, SameItemsAs items (untitledItems items)
  | [] => .nil
  | x :: rest => .cons (sameAs_untitled x) (sameItemsAs_untitled rest)

end

mutual

/-- **Where nothing is to be spliced, instantiation takes away the titles of lists and nothing
else.** -/
theorem instantiate_of_unspliced (store : σ) : ∀ {x : Operand}, x.Unspliced →
    x.instantiate store false = .ok x.untitled
  | .int .., _ | .view .., _ => rfl
  | .range lo hi l, unspliced => by
    rw [Unspliced, Throughout] at unspliced
    exact instantiate_range.mpr ⟨_, instantiateBound_of_unspliced store unspliced.2.1, _,
      instantiateBound_of_unspliced store unspliced.2.2, rfl⟩
  | .list items title l, unspliced => by
    rw [unspliced_list] at unspliced
    exact instantiate_list.mpr ⟨_, materializeItems_of_unspliced store unspliced, rfl⟩
  | .group x l, unspliced => by
    rw [Unspliced, Throughout] at unspliced
    exact instantiate_group.mpr ⟨_, instantiate_of_unspliced store unspliced.2, rfl⟩
  | .spread x l, unspliced => by
    rw [Unspliced, Throughout] at unspliced
    exact instantiate_spread_kept.mpr ⟨_, instantiate_of_unspliced store unspliced.2, rfl⟩
  | .neg x l, unspliced => by
    rw [Unspliced, Throughout] at unspliced
    exact instantiate_neg.mpr ⟨_, instantiate_of_unspliced store unspliced.2, rfl⟩
  | .arith op a b l, unspliced => by
    rw [Unspliced, Throughout] at unspliced
    exact instantiate_arith.mpr ⟨_, instantiate_of_unspliced store unspliced.2.1, _,
      instantiate_of_unspliced store unspliced.2.2, rfl⟩

theorem instantiateBound_of_unspliced (store : σ) : ∀ {bound : Option Operand},
    ThroughoutBound Whole bound →
    instantiateBound store false bound = .ok (untitledBound bound)
  | none, _ => rfl
  | some _, unspliced =>
    instantiateBound_some.mpr ⟨_, instantiate_of_unspliced store unspliced, rfl⟩

theorem materializeItems_of_unspliced (store : σ) : ∀ {items : List Operand},
    (∀ x ∈ items, x.Unspliced ∧ x.isSplice = false) →
    materializeItems store items = .ok (untitledItems items)
  | [], _ => rfl
  | x :: rest, unspliced => by
    rw [List.forall_mem_cons] at unspliced
    obtain ⟨⟨unsplicedHere, kept⟩, unsplicedRest⟩ := unspliced
    have here := spliced_of_kept store ((sameAs_untitled x).isSplice_eq ▸ kept)
    exact materializeItems_cons.mpr ⟨x.untitled, instantiate_of_unspliced store unsplicedHere,
      [x.untitled], here, _, materializeItems_of_unspliced store unsplicedRest, rfl⟩

end

/-- Without a spread, materialization takes away the titles of lists and nothing else. -/
theorem materializeItems_of_spreadless (store : σ) {items : List Operand}
    (spreadless : ThroughoutItems (·.isSpread = false) items) :
    ∃ items', materializeItems store items = .ok items' ∧ SameItemsAs items items' := by
  rw [throughoutItems_iff] at spreadless
  refine ⟨_, materializeItems_of_unspliced store fun x among => ?_, sameItemsAs_untitled items⟩
  exact ⟨unspliced_of_spreadless (spreadless x among),
    not_isSplice_of_spreadless (spreadless x among)⟩

end Operand

/-! ### Materializing again -/

namespace TitledList

variable {σ τ : Type} [CellStore σ] [CellStore τ]

/-- **Materialization is done in one step.**  If the views in a list are of numbers, nothing is left
to splice once it has been materialized, and doing it again changes nothing, whatever the store is
by then.  A list without spreads is the same before and after. -/
theorem materialize_settles (store : σ) (later : τ) (before : TitledList) :
    (before.toOperand.Throughout (Operand.NumericView store) →
      ∀ after, before.materialize store = .ok after →
        after.toOperand.Settled ∧ after.materialize later = .ok after) ∧
    (before.toOperand.Throughout (·.isSpread = false) →
      ∃ after, before.materialize store = .ok after ∧ before.same after = true) := by
  constructor
  · intro numeric after given
    rw [toOperand, Operand.Throughout] at numeric
    obtain ⟨items, made, rfl⟩ := materialize_iff.mp given
    have stay := Operand.stays_of_materializeItems numeric.2 made
    exact ⟨Operand.settled_list.mpr ⟨rfl, stay⟩,
      materialize_iff.mpr ⟨items, Operand.materializeItems_of_stays later stay, rfl⟩⟩
  · intro spreadless
    rw [toOperand, Operand.Throughout] at spreadless
    obtain ⟨items, made, same⟩ := Operand.materializeItems_of_spreadless store spreadless.2
    exact ⟨{ items }, materialize_iff.mpr ⟨items, made, rfl⟩, same.same⟩

/-- The numbers of a view are spliced into a list that is spliced itself. -/
theorem materialize_settles_nested :
    let cells := (Memory.write {} ⟨0⟩ (.number 5)).write ⟨1⟩ (.number 7)
    let numbers : View := ⟨"int", .fresh [2], ⟨0⟩⟩
    let inner : TitledList := { items := [.group (.spread (.view numbers))], title := some "inner" }
    let before : TitledList := { items := [.int 1, .group (.spread inner.toOperand)] }
    let after : TitledList := { items := [.int 1, .int 5, .int 7] }
    (before.materialize cells = .ok after ∧ after.toOperand.Settled ∧
      after.materialize ({} : Memory) = .ok after) ∧
    ∃ again, after.materialize cells = .ok again ∧ after.same again = true := by
  intro cells numbers inner before after
  have numeric : numbers.Numeric cells := by
    refine View.numeric_of_read Memory.readsByDefault fun k below content held => ?_
    have first : CellStore.read cells (numbers.base.advance 0) = some (.number 5) := rfl
    have second : CellStore.read cells (numbers.base.advance 1) = some (.number 7) := rfl
    obtain rfl | rfl : k = 0 ∨ k = 1 := by
      change k < 2 at below
      omega
    · exact ⟨5, Option.some.inj (held.symm.trans first)⟩
    · exact ⟨7, Option.some.inj (held.symm.trans second)⟩
  have views : before.toOperand.Throughout (Operand.NumericView cells) := by
    simp only [before, inner, TitledList.toOperand, Operand.Throughout, Operand.ThroughoutItems,
      Operand.NumericView, numeric, and_self]
  have spreadless : after.toOperand.Throughout (·.isSpread = false) := by
    simp only [after, TitledList.toOperand, Operand.Throughout, Operand.ThroughoutItems]
    decide
  have done : before.materialize cells = .ok after := rfl
  exact ⟨⟨done, (materialize_settles cells ({} : Memory) before).1 views after done⟩,
    (materialize_settles cells ({} : Memory) after).2 spreadless⟩

end TitledList

end ArrayCells
