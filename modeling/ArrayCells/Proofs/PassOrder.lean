import ArrayCells.Proofs.Evaluation
import ArrayCells.Proofs.Materialization

/-!
# The order of evaluation and materialization

Both passes go through a whole list, and each treats groups in its own way: materialization
recognises by them which spreads are to be spliced, and evaluation takes them away.  So a list that
has been evaluated first keeps its spreads.  It is the same list in either order exactly if there is
nothing to splice.

* `Evaluated.stays`: values are materialized to themselves;
* `Operand.spreads`: the number of spreads in an operand, by which the two results are told apart;
* `View.Spreadless`: views from whose cells no spreads are read;
* `FewerUnless`: fewer spreads than before, or as many and nothing spliced;
* `Operand.Dwindles`, `Operand.dwindles_of_spreadless`: materialization first never leaves more
  spreads than evaluation first, and fewer if anything is spliced, by induction on the parts;
* `TitledList.pass_order`: what becomes of a list in both orders.
-/

namespace ArrayCells

namespace Operand

/-! ### Evaluation first -/

/-- Without a group, nothing is spliced. -/
theorem Evaluated.not_isSplice {v : Operand} (values : v.Evaluated) : v.isSplice = false := by
  cases v with
  | group x l => exact values.here.elim
  | _ => rfl

/-- Values are left where and as they are by materialization. -/
theorem Evaluated.stays {v : Operand} (values : v.Evaluated) : v.Stays := by
  refine ⟨Throughout.imp (fun x values => ?_) values, values.not_isSplice⟩
  cases x with
  | list items title l =>
    rw [Throughout, throughoutItems_iff] at values
    exact ⟨values.1, fun y among => Evaluated.not_isSplice (values.2 y among)⟩
  | _ => trivial

/-! ### Counting spreads -/

mutual

/-- The number of spreads in an operand. -/
def spreads : Operand → Nat
  | int .. | view .. => 0
  | range lo hi _ => spreadsInBound lo + spreadsInBound hi
  | list items _ _ => spreadsInItems items
  | spread x _ => spreads x + 1
  | group x _ | neg x _ => spreads x
  | arith _ a b _ => spreads a + spreads b

def spreadsInBound : Option Operand → Nat
  | none => 0
  | some x => spreads x

def spreadsInItems : List Operand → Nat
  | [] => 0
  | x :: rest => spreads x + spreadsInItems rest

end

theorem spreadsInItems_append (xs ys : List Operand) :
    spreadsInItems (xs ++ ys) = spreadsInItems xs + spreadsInItems ys := by
  induction xs with
  | nil => exact (Nat.zero_add _).symm
  | cons x xs ih =>
    show x.spreads + spreadsInItems (xs ++ ys) = x.spreads + spreadsInItems xs + spreadsInItems ys
    rw [ih, Nat.add_assoc]

mutual

/-- Operands that are the same have the same number of spreads. -/
theorem SameAs.spreads_eq : ∀ {x y : Operand}, SameAs x y → x.spreads = y.spreads
  | _, _, .int .. | _, _, .view .. => rfl
  | _, _, .range _ _ lower upper => congrArg₂ (· + ·) lower.spreads_eq upper.spreads_eq
  | _, _, .list _ _ _ _ h => h.spreads_eq
  | _, _, .spread _ _ h => congrArg (· + 1) h.spreads_eq
  | _, _, .group _ _ h => h.spreads_eq
  | _, _, .neg _ _ h => h.spreads_eq
  | _, _, .arith _ _ _ left right => congrArg₂ (· + ·) left.spreads_eq right.spreads_eq

theorem SameBoundAs.spreads_eq : ∀ {lo hi : Option Operand}, SameBoundAs lo hi →
    spreadsInBound lo = spreadsInBound hi
  | _, _, .none => rfl
  | _, _, .some h => h.spreads_eq

theorem SameItemsAs.spreads_eq : ∀ {xs ys : List Operand}, SameItemsAs xs ys →
    spreadsInItems xs = spreadsInItems ys
  | _, _, .nil => rfl
  | _, _, .cons head tail => congrArg₂ (· + ·) head.spreads_eq tail.spreads_eq

end

mutual

/-- Evaluation makes no spreads. -/
theorem spreads_of_spreadless : ∀ {x v : Operand}, x.Throughout (·.isSpread = false) →
    x.evaluate = .ok v → v.spreads = 0
  | .int .., v, _, given | .view .., v, _, given => by
    cases given
    rfl
  | .neg x l, v, _, given => by
    obtain ⟨n, -, rfl⟩ := evaluate_neg.mp given
    rfl
  | .arith op a b l, v, _, given => by
    obtain ⟨n, -, rfl⟩ := evaluate_arith.mp given
    rfl
  | .group x l, v, spreadless, given => by
    rw [Throughout] at spreadless
    rw [evaluate] at given
    exact spreads_of_spreadless spreadless.2 given
  | .range lo hi l, v, spreadless, given => by
    rw [Throughout] at spreadless
    obtain ⟨lo', lower, hi', upper, rfl⟩ := evaluate_range.mp given
    show spreadsInBound lo' + spreadsInBound hi' = 0
    rw [spreadsInBound_of_spreadless spreadless.2.1 lower,
      spreadsInBound_of_spreadless spreadless.2.2 upper]
  | .list items title l, v, spreadless, given => by
    rw [Throughout] at spreadless
    obtain ⟨items', each, rfl⟩ := evaluate_list.mp given
    exact spreadsInItems_of_spreadless spreadless.2 each
  | .spread x l, v, spreadless, given => by
    have here := spreadless.here
    cases here

theorem spreadsInBound_of_spreadless : ∀ {bound bound' : Option Operand},
    ThroughoutBound (·.isSpread = false) bound → evaluateBound bound = .ok bound' →
    spreadsInBound bound' = 0
  | none, _, _, given => by
    cases given
    rfl
  | some x, _, spreadless, given => by
    obtain ⟨x', inner, rfl⟩ := evaluateBound_some.mp given
    exact spreads_of_spreadless spreadless inner

theorem spreadsInItems_of_spreadless : ∀ {items items' : List Operand},
    ThroughoutItems (·.isSpread = false) items → evaluateItems items = .ok items' →
    spreadsInItems items' = 0
  | [], _, _, given => by
    cases given
    rfl
  | x :: rest, _, spreadless, given => by
    rw [ThroughoutItems] at spreadless
    obtain ⟨x', inner, rest', others, rfl⟩ := evaluateItems_cons.mp given
    show x'.spreads + spreadsInItems rest' = 0
    rw [spreads_of_spreadless spreadless.1 inner,
      spreadsInItems_of_spreadless spreadless.2 others]

end

/-- The number of spreads that are put around a container to stand for its elements. -/
def expansions : Operand → Nat
  | group x _ => expansions x
  | spread x _ => expansions x + 1
  | _ => 0

theorem expansions_pos_of_isSplice {x : Operand} (splice : x.isSplice = true) :
    0 < x.expansions := by
  cases x with
  | group x l =>
    cases x with
    | spread x l' => exact Nat.succ_pos _
    | _ => cases splice
  | _ => cases splice

theorem evaluateItems_append {xs ys items : List Operand} :
    evaluateItems (xs ++ ys) = .ok items ↔ ∃ xs', evaluateItems xs = .ok xs' ∧
      ∃ ys', evaluateItems ys = .ok ys' ∧ xs' ++ ys' = items := by
  induction xs generalizing items with
  | nil => simp [evaluateItems]
  | cons x xs ih =>
    simp only [List.cons_append, evaluateItems_cons, ih]
    constructor
    · rintro ⟨x', inner, -, ⟨xs', each, ys', others, rfl⟩, rfl⟩
      exact ⟨_, ⟨x', inner, xs', each, rfl⟩, ys', others, rfl⟩
    · rintro ⟨-, ⟨x', inner, xs', each, rfl⟩, ys', others, rfl⟩
      exact ⟨x', inner, _, ⟨xs', each, ys', others, rfl⟩, rfl⟩

/-- There are fewer afterwards, or as many and the condition holds. -/
def FewerUnless (kept : Prop) (before after : Nat) : Prop :=
  after < before ∨ after = before ∧ kept

theorem FewerUnless.imp {p q : Prop} {m n : Nat} (h : FewerUnless p m n) (follows : p → q) :
    FewerUnless q m n :=
  Or.imp_right (And.imp_right follows) h

theorem FewerUnless.add {p q : Prop} {m m' n n' : Nat} (h : FewerUnless p m n)
    (h' : FewerUnless q m' n') : FewerUnless (p ∧ q) (m + m') (n + n') := by
  rcases h with fewer | ⟨rfl, kept⟩
  · rcases h' with fewer' | ⟨rfl, -⟩ <;> exact .inl (by omega)
  · rcases h' with fewer' | ⟨rfl, kept'⟩
    · exact .inl (by omega)
    · exact .inr ⟨rfl, kept, kept'⟩

theorem FewerUnless.le {p : Prop} {m n : Nat} (h : FewerUnless p m n) : n ≤ m := by
  rcases h with fewer | ⟨rfl, -⟩
  · exact Nat.le_of_lt fewer
  · exact Nat.le_refl _

end Operand

section

variable {σ : Type} [CellStore σ] {store : σ}

/-- Whatever is read from a cell of the view has no spread in it. -/
def View.Spreadless (store : σ) (view : View) : Prop :=
  ∀ k < volume view.shape.lengths, ∀ x,
    CellStore.readItem store (view.base.advance k) {} = .ok x → x.Throughout (·.isSpread = false)

theorem View.Numeric.spreadless {view : View} (numeric : view.Numeric store) :
    view.Spreadless store := by
  intro k below x given
  obtain ⟨n, l, rfl⟩ := numeric k below x given
  rfl

end

namespace Operand

variable {σ : Type} [CellStore σ] {store : σ}

/-- If the operand is a view, no spread is read through it. -/
def SpreadlessView (store : σ) : Operand → Prop
  | view v _ => v.Spreadless store
  | _ => True

/-! ### Both orders -/

theorem isSplice_group (x : Operand) (l : Option String) : (group x l).isSplice = x.isSpread := by
  cases x <;> rfl

/-- Whether an item is to be spliced can be told before it is instantiated. -/
theorem isSplice_of_instantiate {x y : Operand} (given : x.instantiate store false = .ok y) :
    y.isSplice = x.isSplice := by
  cases x with
  | group x l =>
    obtain ⟨x', inner, rfl⟩ := instantiate_group.mp given
    rw [isSplice_group, isSplice_group, isSpread, isSpread, (outer_of_instantiate inner).2.2 rfl]
  | _ =>
    have kind := (outer_of_instantiate given).2.2 rfl
    cases y <;> first | rfl | cases kind

/-- An integer has nothing in it that could be spliced. -/
theorem unspliced_of_toInt {n : Int} : ∀ {x : Operand}, x.toInt = .ok n → x.Unspliced
  | int .., _ => trivial
  | group x l, value => ⟨trivial, unspliced_of_toInt value⟩
  | neg x l, value => by
    obtain ⟨m, inner, -⟩ := toInt_neg.mp value
    exact ⟨trivial, unspliced_of_toInt inner⟩
  | arith op a b l, value => by
    obtain ⟨i, left, j, right, -⟩ := toInt_arith.mp value
    exact ⟨trivial, unspliced_of_toInt left, unspliced_of_toInt right⟩
  | range .., value | view .., value | list .., value | spread .., value => by cases value

/-- Materialized and then evaluated, the operand has as many spreads as if it is only evaluated, or
fewer if anything is spliced.  The spreads around its elements are lost where these are spliced. -/
structure Dwindles (store : σ) (x : Operand) : Prop where
  whole : ∀ {v y w : Operand}, x.evaluate = .ok v → x.instantiate store false = .ok y →
    y.evaluate = .ok w → FewerUnless x.Unspliced v.spreads w.spreads
  elements : ∀ {v y : Operand} {items ws : List Operand}, x.evaluate = .ok v →
    x.instantiate store false = .ok y → y.elements store = .ok items →
    evaluateItems items = .ok ws → spreadsInItems ws + x.expansions ≤ v.spreads

theorem Dwindles.of_isSingle {x : Operand} (single : x.isSingle = true)
    (whole : ∀ v y w : Operand, x.evaluate = .ok v → x.instantiate store false = .ok y →
      y.evaluate = .ok w → FewerUnless x.Unspliced v.spreads w.spreads) : Dwindles store x where
  whole := whole _ _ _
  elements := by
    intro v y items ws first made elements last
    rw [elements_of_isSingle store (isSingle_instantiate single made)] at elements
    cases elements

/-- An integer is evaluated to the same in both orders. -/
theorem Dwindles.of_value {x : Operand} (single : x.isSingle = true)
    (value : ∀ v, x.evaluate = .ok v → ∃ n, x.toInt = .ok n) : Dwindles store x := by
  refine .of_isSingle single fun v y w first made last => ?_
  obtain ⟨n, isValue⟩ := value v first
  rw [instantiate_of_toInt isValue] at made
  cases made
  cases first.symm.trans last
  exact .inr ⟨rfl, unspliced_of_toInt isValue⟩

/-- Elements that are read through a view may be anything that the cells hold. -/
theorem Dwindles.view {u : View} {l : Option String} (spreadless : u.Spreadless store) :
    Dwindles store (.view u l) := by
  constructor
  · intro v y w first made last
    cases made
    cases first.symm.trans last
    exact .inr ⟨rfl, trivial⟩
  · intro v y items ws first made elements last
    cases made
    have none := View.forall_mem_elements spreadless (fun _ => rfl) elements
    rw [spreadsInItems_of_spreadless (throughoutItems_iff.mpr none) last]
    exact Nat.zero_le _

theorem Dwindles.group {x : Operand} {l : Option String} (h : Dwindles store x) :
    Dwindles store (.group x l) := by
  constructor
  · intro v y w first made last
    rw [evaluate] at first
    obtain ⟨x', inner, rfl⟩ := instantiate_group.mp made
    rw [evaluate] at last
    exact (h.whole first inner last).imp fun kept => ⟨trivial, kept⟩
  · intro v y items ws first made elements last
    rw [evaluate] at first
    obtain ⟨x', inner, rfl⟩ := instantiate_group.mp made
    show spreadsInItems ws + x.expansions ≤ v.spreads
    exact h.elements first inner elements last

/-- A spread is there in either order, but not around what is spliced for it. -/
theorem Dwindles.spread {x : Operand} {l : Option String} (h : Dwindles store x) :
    Dwindles store (.spread x l) := by
  constructor
  · intro v y w first made last
    obtain ⟨v', first', rfl⟩ := evaluate_spread.mp first
    obtain ⟨x', inner, rfl⟩ := instantiate_spread_kept.mp made
    obtain ⟨w', last', rfl⟩ := evaluate_spread.mp last
    have itself : FewerUnless True 1 1 := .inr ⟨rfl, trivial⟩
    exact ((h.whole first' inner last').add itself).imp fun kept => ⟨trivial, kept.1⟩
  · intro v y items ws first made elements last
    obtain ⟨v', first', rfl⟩ := evaluate_spread.mp first
    obtain ⟨x', inner, rfl⟩ := instantiate_spread_kept.mp made
    exact Nat.succ_le_succ (h.elements first' inner elements last)

/-- An item contributes as many spreads to its list as its value has, or fewer. -/
theorem Dwindles.spliced {x v y : Operand} {here ws : List Operand} (h : Dwindles store x)
    (first : x.evaluate = .ok v) (made : x.instantiate store false = .ok y)
    (given : Operand.spliced store y = .ok here) (last : evaluateItems here = .ok ws) :
    FewerUnless (x.Unspliced ∧ x.isSplice = false) v.spreads (spreadsInItems ws) := by
  have asBefore := isSplice_of_instantiate made
  cases splice : x.isSplice with
  | true =>
    rw [spliced_of_isSplice store (asBefore.trans splice)] at given
    have left := h.elements first made given last
    have marked := expansions_pos_of_isSplice splice
    exact .inl (by omega)
  | false =>
    rw [spliced_of_kept store (asBefore.trans splice)] at given
    cases given
    obtain ⟨w, value, -, ⟨⟩, rfl⟩ := evaluateItems_cons.mp last
    exact (h.whole first made value).imp fun kept => ⟨kept, rfl⟩

theorem spreadsInItems_of_dwindles {xs vs ys ws : List Operand}
    (each : ∀ x ∈ xs, Dwindles store x) (first : evaluateItems xs = .ok vs)
    (made : materializeItems store xs = .ok ys) (last : evaluateItems ys = .ok ws) :
    FewerUnless (∀ x ∈ xs, x.Unspliced ∧ x.isSplice = false) (spreadsInItems vs)
      (spreadsInItems ws) := by
  induction xs generalizing vs ys ws with
  | nil =>
    cases first
    cases made
    cases last
    exact .inr ⟨rfl, List.forall_mem_nil _⟩
  | cons x xs ih =>
    rw [List.forall_mem_cons] at each
    obtain ⟨v, firstHere, vs', firstRest, rfl⟩ := evaluateItems_cons.mp first
    obtain ⟨y, inner, here, given, ys', madeRest, rfl⟩ := materializeItems_cons.mp made
    obtain ⟨ws₁, lastHere, ws₂, lastRest, rfl⟩ := evaluateItems_append.mp last
    have item := each.1.spliced firstHere inner given lastHere
    have rest := ih each.2 firstRest madeRest lastRest
    rw [spreadsInItems_append]
    exact (item.add rest).imp fun kept => List.forall_mem_cons.mpr kept

theorem Dwindles.list {xs : List Operand} {title l : Option String}
    (each : ∀ x ∈ xs, Dwindles store x) : Dwindles store (.list xs title l) := by
  constructor
  · intro v y w first made last
    obtain ⟨vs, first', rfl⟩ := evaluate_list.mp first
    obtain ⟨ys, made', rfl⟩ := instantiate_list.mp made
    obtain ⟨ws, last', rfl⟩ := evaluate_list.mp last
    exact (spreadsInItems_of_dwindles each first' made' last').imp unspliced_list.mpr
  · intro v y items ws first made elements last
    obtain ⟨vs, first', rfl⟩ := evaluate_list.mp first
    obtain ⟨ys, made', rfl⟩ := instantiate_list.mp made
    cases elements
    exact (spreadsInItems_of_dwindles each first' made' last).le

theorem spreadsInBound_of_dwindles {x v y w : Option Operand}
    (each : ∀ z ∈ x.toList, Dwindles store z) (first : evaluateBound x = .ok v)
    (made : instantiateBound store false x = .ok y) (last : evaluateBound y = .ok w) :
    FewerUnless (ThroughoutBound Whole x) (spreadsInBound v) (spreadsInBound w) := by
  cases x with
  | none =>
    cases first
    cases made
    cases last
    exact .inr ⟨rfl, trivial⟩
  | some x =>
    obtain ⟨v', first', rfl⟩ := evaluateBound_some.mp first
    obtain ⟨x', inner, rfl⟩ := instantiateBound_some.mp made
    obtain ⟨w', last', rfl⟩ := evaluateBound_some.mp last
    exact (each x List.mem_cons_self).whole first' inner last'

theorem Dwindles.range {lo hi : Option Operand} {l : Option String}
    (lower : ∀ x ∈ lo.toList, Dwindles store x) (upper : ∀ x ∈ hi.toList, Dwindles store x) :
    Dwindles store (.range lo hi l) := by
  refine .of_isSingle rfl fun v y w first made last => ?_
  obtain ⟨lo₁, lower₁, hi₁, upper₁, rfl⟩ := evaluate_range.mp first
  obtain ⟨lo₂, lower₂, hi₂, upper₂, rfl⟩ := instantiate_range.mp made
  obtain ⟨lo₃, lower₃, hi₃, upper₃, rfl⟩ := evaluate_range.mp last
  have below := spreadsInBound_of_dwindles lower lower₁ lower₂ lower₃
  have above := spreadsInBound_of_dwindles upper upper₁ upper₂ upper₃
  exact (below.add above).imp fun kept => ⟨trivial, kept⟩

/-- **Materialization before evaluation leaves as many spreads as evaluation does alone, or fewer if
anything is spliced.**  The induction is on the parts, with the elements of every operand next to
the operand itself: what is spliced for an item are the elements of something inside of it. -/
theorem dwindles_of_spreadless {x : Operand} (views : x.Throughout (SpreadlessView store)) :
    Dwindles store x := by
  induction x using induction_on_parts with
  | step x ih =>
    obtain ⟨here, inside⟩ := throughout_iff.mp views
    have part (z : Operand) (among : z ∈ x.parts) : Dwindles store z :=
      ih z among (inside z among)
    cases x with
    | int n l => exact .of_value rfl fun _ _ => ⟨n, rfl⟩
    | neg x l =>
      refine .of_value rfl fun v given => ?_
      obtain ⟨n, value, -⟩ := evaluate_neg.mp given
      exact ⟨n, value⟩
    | arith op a b l =>
      refine .of_value rfl fun v given => ?_
      obtain ⟨n, value, -⟩ := evaluate_arith.mp given
      exact ⟨n, value⟩
    | range lo hi l =>
      rw [parts, List.forall_mem_append] at part
      exact .range part.1 part.2
    | view u l => exact .view here
    | list xs title l => exact .list part
    | group x l => exact .group (part x List.mem_cons_self)
    | spread x l => exact .spread (part x List.mem_cons_self)

end Operand

/-! ### Lists -/

namespace TitledList

theorem evaluate_iff {before after : TitledList} :
    before.evaluate = .ok after ↔
      ∃ items, Operand.evaluateItems before.items = .ok items ∧ { items } = after := by
  simp only [evaluate, bind_ok_iff, pure_ok_iff]

variable {σ : Type} [CellStore σ]

/-- The list that is evaluated and then materialized. -/
def evaluatedFirst (store : σ) (list : TitledList) : Except Fault TitledList := do
  (← list.evaluate).materialize store

/-- The list that is materialized and then evaluated. -/
def materializedFirst (store : σ) (list : TitledList) : Except Fault TitledList := do
  (← list.materialize store).evaluate

/-- After evaluation, materialization does nothing. -/
theorem evaluatedFirst_eq (store : σ) (list : TitledList) :
    list.evaluatedFirst store = list.evaluate := by
  rw [evaluatedFirst]
  cases given : list.evaluate with
  | error fault => rfl
  | ok after =>
    obtain ⟨items, each, rfl⟩ := evaluate_iff.mp given
    have values := Operand.throughoutItems_iff.mp (Operand.evaluated_of_evaluateItems each)
    have stay : ∀ x ∈ items, x.Stays := fun x among =>
      Operand.Evaluated.stays (values x among)
    exact materialize_iff.mpr ⟨items, Operand.materializeItems_of_stays store stay, rfl⟩

/-- Where nothing is to be spliced, the order does not matter. -/
theorem orders_agree_of_unspliced (store : σ) {before : TitledList}
    (unspliced : before.toOperand.Unspliced) :
    ∃ after, before.materialize store = .ok after ∧
      AgreeOnKind (fun v w => v.same w = true) before.evaluate after.evaluate := by
  have items := Operand.unspliced_list.mp unspliced
  have same := Operand.sameItemsAs_untitled before.items
  exact ⟨_, materialize_iff.mpr ⟨_, Operand.materializeItems_of_unspliced store items, rfl⟩,
    same.evaluate.bind fun _ _ items => .ok items.same⟩

/-- **Evaluation and materialization can be done in either order only where nothing is spliced.**
Once a list has been evaluated, materialization leaves it as it is.  A list without an item to be
spliced, at any depth, can be materialized, and the result is evaluated to the same as the list
itself, or not at all if the list is not.  If no spread is read through the views in a list, then
the two orders lead to the same only for such lists. -/
theorem pass_order (store : σ) (before : TitledList) :
    before.evaluatedFirst store = before.evaluate ∧
    (before.toOperand.Unspliced →
      (∃ after, before.materialize store = .ok after) ∧
        AgreeOnKind (fun v w => v.same w = true) (before.evaluatedFirst store)
          (before.materializedFirst store)) ∧
    (before.toOperand.Throughout (Operand.SpreadlessView store) → ∀ v w,
      before.evaluatedFirst store = .ok v → before.materializedFirst store = .ok w →
        (v.same w = true ↔ before.toOperand.Unspliced)) := by
  have either (unspliced : before.toOperand.Unspliced) :
      (∃ after, before.materialize store = .ok after) ∧
        AgreeOnKind (fun v w => v.same w = true) (before.evaluatedFirst store)
          (before.materializedFirst store) := by
    obtain ⟨after, made, agree⟩ := orders_agree_of_unspliced store unspliced
    rw [evaluatedFirst_eq, materializedFirst, made]
    exact ⟨⟨after, rfl⟩, agree⟩
  refine ⟨evaluatedFirst_eq store before, either, fun views v w first second => ⟨fun same => ?_,
    fun unspliced => ?_⟩⟩
  · rw [toOperand, Operand.Throughout] at views
    rw [evaluatedFirst_eq] at first
    obtain ⟨vs, values, rfl⟩ := evaluate_iff.mp first
    obtain ⟨after, made, last⟩ := exists_of_bind_ok second
    obtain ⟨ys, items, rfl⟩ := materialize_iff.mp made
    obtain ⟨ws, values', rfl⟩ := evaluate_iff.mp last
    have each := Operand.throughoutItems_iff.mp views.2
    have count := Operand.spreadsInItems_of_dwindles
      (fun x among => Operand.dwindles_of_spreadless (each x among)) values items values'
    rcases count with fewer | ⟨-, kept⟩
    · exact (Nat.ne_of_lt fewer (Operand.sameItemsAs_of_same same).spreads_eq.symm).elim
    · exact Operand.unspliced_list.mpr kept
  · obtain ⟨-, agree⟩ := either unspliced
    rw [first, second] at agree
    cases agree with
    | ok same => exact same

/-- A list of sums, which is the same in either order, and a list with the spread of a view of
numbers, which is not. -/
theorem pass_order_mixed :
    let cells := (Memory.write {} ⟨0⟩ (.number 5)).write ⟨1⟩ (.number 7)
    let numbers : View := ⟨"int", .fresh [2], ⟨0⟩⟩
    let sums : TitledList := { items := [.list [.group (.arith .add (.int 2) (.int 3))] "sums"] }
    let spread : TitledList := { items := [.int 1, .group (.spread (.view numbers))] }
    (∃ w, sums.materializedFirst cells = .ok w ∧
      TitledList.same { items := [.list [.int 5]] } w = true) ∧
    (∃ v, spread.evaluatedFirst cells = .ok v ∧
      v.same { items := [.int 1, .int 5, .int 7] } = false) := by
  intro cells numbers sums spread
  have holds : numbers.HoldsNumbers cells fun k => [5, 7].getD k 0 := by
    intro k below
    change k < 2 at below
    obtain rfl | rfl : k = 0 ∨ k = 1 := by omega
    all_goals rfl
  have spreadless : numbers.Spreadless cells := (holds.numeric Memory.readsByDefault).spreadless
  have views : spread.toOperand.Throughout (Operand.SpreadlessView cells) := by
    simp only [spread, toOperand, Operand.Throughout, Operand.ThroughoutItems,
      Operand.SpreadlessView, spreadless, and_self]
  have unspliced : sums.toOperand.Unspliced := by
    refine Operand.unspliced_of_spreadless ?_
    simp only [sums, toOperand, Operand.Throughout, Operand.ThroughoutItems]
    decide
  have splices : ¬ spread.toOperand.Unspliced := by
    intro unspliced
    have kept := (Operand.unspliced_list.mp unspliced (.group (.spread (.view numbers)))
      (List.mem_cons_of_mem _ List.mem_cons_self)).2
    cases kept
  constructor
  · obtain ⟨-, agree⟩ := (pass_order cells sums).2.1 unspliced
    have first : sums.evaluatedFirst cells = .ok { items := [.list [.int 5]] } := rfl
    rw [first] at agree
    cases second : sums.materializedFirst cells with
    | ok w =>
      rw [second] at agree
      cases agree with
      | ok same => exact ⟨w, rfl, same⟩
    | error fault =>
      rw [second] at agree
      cases agree
  · refine ⟨{ items := [.int 1, .spread (.view numbers)] }, rfl, Bool.eq_false_iff.mpr ?_⟩
    exact ((pass_order cells spread).2.2 views _ _ rfl rfl).not.mpr splices

/-- What is spliced without evaluation stays a spread after it. -/
theorem pass_order_matters :
    let before : TitledList := { items := [.group (.spread (.list [.int 1, .int 2]))] }
    ∃ v w, before.evaluatedFirst ({} : Memory) = .ok v ∧
      before.materializedFirst ({} : Memory) = .ok w ∧ v.same w = false :=
  ⟨{ items := [.spread (.list [.int 1, .int 2])] }, { items := [.int 1, .int 2] }, rfl, rfl, rfl⟩

end TitledList

end ArrayCells
