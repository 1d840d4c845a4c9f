import ArrayCells.Proofs.Evaluation
import ArrayCells.Proofs.Materialization

/-!
# What becomes of labels

Labels are shown to people, so they have to survive while operands are rewritten.  Evaluation and
instantiation rebuild an operand part by part and hand on the label of everything that they rebuild.
There are two exceptions: evaluation takes away groups with their labels, and both lose the titles
of lists.

* `Operand.at?`: the operand in a place inside another one, looking through groups;
* `Operand.evaluate_at`: the value has the value of what is there in every place, with its label;
* `Operand.Within`: the operands inside an operand;
* `Operand.Stands`: how an operand comes into what has been instantiated, with its label or out of
  the store;
* `Operand.carried_of_instantiate`: everything does in one of these ways, by induction on the parts;
* `Operand.labels_carried`: what both passes do with labels.
-/

namespace ArrayCells

namespace Operand

/-- The operand inside the groups that are around it. -/
def ungrouped : Operand → Operand
  | group x _ => ungrouped x
  | x => x

theorem ungrouped_of_not_isGroup {x : Operand} (single : x.isGroup = false) : x.ungrouped = x := by
  cases x with
  | group x l => cases single
  | _ => rfl

/-! ### Evaluation -/

/-- A part of the operand by its number, looking through groups: an item of a list, a bound of a
range, or the inside of a spread.  Arithmetic has none, since it becomes a single integer. -/
def part? : Operand → Nat → Option Operand
  | list items _ _, k => items[k]?
  | range lo _ _, 0 => lo
  | range _ hi _, 1 => hi
  | spread x _, 0 => some x
  | group x _, k => part? x k
  | _, _ => none

/-- The operand in a place, which is given by the numbers of the parts that lead to it. -/
def at? : Operand → List Nat → Option Operand
  | x, [] => some x
  | x, k :: place => (x.part? k).bind fun y => y.at? place

/-- The second operand is the value of the first one; it has the label of what is inside the groups,
and no title. -/
structure ValueOf (x v : Operand) : Prop where
  value : x.evaluate = .ok v
  label : v.label? = x.ungrouped.label?
  untitled : v.title? = none

theorem label?_of_evaluate : ∀ {x v : Operand}, x.evaluate = .ok v →
    v.label? = x.ungrouped.label?
  | group x l, v, given => by
    rw [evaluate] at given
    exact label?_of_evaluate (x := x) given
  | int .., v, given | view .., v, given => by
    cases given
    rfl
  | range lo hi l, v, given => by
    obtain ⟨lo', -, hi', -, rfl⟩ := evaluate_range.mp given
    rfl
  | list items title l, v, given => by
    obtain ⟨items', -, rfl⟩ := evaluate_list.mp given
    rfl
  | spread x l, v, given => by
    obtain ⟨x', -, rfl⟩ := evaluate_spread.mp given
    rfl
  | neg x l, v, given => by
    obtain ⟨n, -, rfl⟩ := evaluate_neg.mp given
    rfl
  | arith op a b l, v, given => by
    obtain ⟨n, -, rfl⟩ := evaluate_arith.mp given
    rfl

theorem Evaluated.title? {v : Operand} (values : v.Evaluated) : v.title? = none := by
  cases v with
  | list items title l => exact values.here
  | _ => rfl

theorem valueOf_of_evaluate {x v : Operand} (given : x.evaluate = .ok v) : ValueOf x v where
  value := given
  label := label?_of_evaluate given
  untitled := (evaluated_of_evaluate given).title?

theorem evaluateBound_rel {bound bound' : Option Operand}
    (given : evaluateBound bound = .ok bound') : Option.Rel ValueOf bound bound' := by
  cases bound with
  | none =>
    cases given
    exact .none
  | some x =>
    obtain ⟨x', inner, rfl⟩ := evaluateBound_some.mp given
    exact .some (valueOf_of_evaluate inner)

theorem evaluateItems_rel {items items' : List Operand} (given : evaluateItems items = .ok items')
    (k : Nat) : Option.Rel ValueOf items[k]? items'[k]? := by
  induction items generalizing items' k with
  | nil =>
    cases given
    exact .none
  | cons x rest ih =>
    obtain ⟨x', inner, rest', others, rfl⟩ := evaluateItems_cons.mp given
    cases k with
    | zero => exact .some (valueOf_of_evaluate inner)
    | succ k => exact ih others k

/-- The parts of a value are the values of the parts. -/
theorem evaluate_part : ∀ {x v : Operand}, x.evaluate = .ok v → ∀ k,
    Option.Rel ValueOf (x.part? k) (v.part? k)
  | int .., v, given, k | view .., v, given, k => by
    cases given
    exact .none
  | neg x l, v, given, k => by
    obtain ⟨n, -, rfl⟩ := evaluate_neg.mp given
    exact .none
  | arith op a b l, v, given, k => by
    obtain ⟨n, -, rfl⟩ := evaluate_arith.mp given
    exact .none
  | group x l, v, given, k => by
    rw [evaluate] at given
    show Option.Rel ValueOf (x.part? k) (v.part? k)
    exact evaluate_part given k
  | range lo hi l, v, given, k => by
    obtain ⟨lo', lower, hi', upper, rfl⟩ := evaluate_range.mp given
    match k with
    | 0 => exact evaluateBound_rel lower
    | 1 => exact evaluateBound_rel upper
    | k + 2 => exact .none
  | list items title l, v, given, k => by
    obtain ⟨items', each, rfl⟩ := evaluate_list.mp given
    exact evaluateItems_rel each k
  | spread x l, v, given, k => by
    obtain ⟨x', inner, rfl⟩ := evaluate_spread.mp given
    match k with
    | 0 => exact .some (valueOf_of_evaluate inner)
    | k + 1 => exact .none

/-- **In every place there is the value of what was there**, with its label; and where nothing was,
there is nothing. -/
theorem evaluate_at {x v : Operand} (given : x.evaluate = .ok v) (place : List Nat) :
    Option.Rel ValueOf (x.at? place) (v.at? place) := by
  induction place generalizing x v with
  | nil => exact .some (valueOf_of_evaluate given)
  | cons k place ih =>
    have part := evaluate_part given k
    show Option.Rel ValueOf ((x.part? k).bind fun y => y.at? place)
      ((v.part? k).bind fun y => y.at? place)
    generalize x.part? k = y, v.part? k = w at part
    cases part with
    | none => exact .none
    | some inner => exact ih inner.value

/-! ### Instantiation -/

/-- The first operand is the second one or somewhere inside of it. -/
inductive Within : Operand → Operand → Prop
  | refl (x : Operand) : Within x x
  | part {w y x : Operand} (among : y ∈ x.parts) (inside : Within w y) : Within w x

theorem throughout_within (x : Operand) : x.Throughout (·.Within x) := by
  induction x using induction_on_parts with
  | step x ih =>
    refine throughout_iff.mpr ⟨.refl x, fun y among => ?_⟩
    exact (ih y among).imp fun w inside => .part among inside.here

section

variable {σ : Type} [CellStore σ]

/-- How an operand comes into what an operand is instantiated to: something inside was instantiated
to it, and it has the label of that but no title; or it is inside an element that was read through a
view. -/
inductive Stands (store : σ) (x w : Operand) : Prop
  | instantiated {z : Operand} {unroll : Bool} (inside : z.Within x)
      (given : z.instantiate store unroll = .ok w) (label : w.label? = z.label?)
      (untitled : w.title? = none)
  | read {v : View} {l : Option String} {items : List Operand} {u : Operand}
      (viewed : (view v l).Within x) (elements : v.elements store = .ok items) (among : u ∈ items)
      (inside : w.Within u)

variable {store : σ}

theorem Stands.part {x y w : Operand} (among : y ∈ x.parts) (h : Stands store y w) :
    Stands store x w := by
  cases h with
  | instantiated inside given label untitled =>
    exact .instantiated (.part among inside) given label untitled
  | read viewed elements listed inside =>
    exact .read (.part among viewed) elements listed inside

theorem stands_of_instantiate {x y : Operand} {unroll : Bool}
    (given : x.instantiate store unroll = .ok y) : Stands store x y := by
  obtain ⟨label, untitled, -⟩ := outer_of_instantiate given
  exact .instantiated (.refl x) given label untitled

/-- Everything in an operand comes from another one, and so does everything in what would be spliced
for it. -/
structure Carried (store : σ) (x y : Operand) : Prop where
  all : y.Throughout (Stands store x)
  elements : ∀ items, y.elements store = .ok items → ∀ u ∈ items, u.Throughout (Stands store x)

theorem Carried.of_isSingle {x y : Operand} (single : y.isSingle = true)
    (all : y.Throughout (Stands store x)) : Carried store x y where
  all := all
  elements items given := by
    rw [elements_of_isSingle store single] at given
    cases given

/-- What comes from a part comes from the whole. -/
theorem Throughout.part {x y w : Operand} (among : y ∈ x.parts)
    (h : w.Throughout (Stands store y)) : w.Throughout (Stands store x) :=
  h.imp fun _ stands => stands.here.part among

theorem throughout_of_parts {x y : Operand} (here : Stands store x y)
    (each : ∀ u ∈ y.parts, ∃ z ∈ x.parts, u.Throughout (Stands store z)) :
    y.Throughout (Stands store x) := by
  refine throughout_iff.mpr ⟨here, fun u among => ?_⟩
  obtain ⟨z, part, stands⟩ := each u among
  exact stands.part part

/-- Around an operand that comes from a part, everything comes from the whole. -/
theorem Carried.throughout_around {x x' z w : Operand} (carried : Carried store x x')
    (part : x ∈ z.parts) (here : Stands store z w) (only : w.parts = [x']) :
    w.Throughout (Stands store z) := by
  refine throughout_of_parts here fun u among => ?_
  rw [only, List.mem_singleton] at among
  exact ⟨x, part, among ▸ carried.all⟩

theorem carried_of_materializeItems {items items' : List Operand}
    (each : ∀ x ∈ items, ∀ y, x.instantiate store false = .ok y → Carried store x y)
    (made : materializeItems store items = .ok items') :
    ∀ u ∈ items', ∃ x ∈ items, u.Throughout (Stands store x) := by
  induction items generalizing items' with
  | nil =>
    cases made
    exact List.forall_mem_nil _
  | cons x rest ih =>
    rw [List.forall_mem_cons] at each
    obtain ⟨x', inner, here, given, rest', later, rfl⟩ := materializeItems_cons.mp made
    rw [List.forall_mem_append]
    constructor
    · intro u among
      have carried := each.1 x' inner
      have spliced := forall_mem_spliced store (fun _ => carried.all) carried.elements given
      exact ⟨x, List.mem_cons_self, spliced u among⟩
    · intro u among
      obtain ⟨z, member, stands⟩ := ih each.2 later u among
      exact ⟨z, List.mem_cons_of_mem x member, stands⟩

theorem carried_of_instantiateBound {bound bound' : Option Operand} {unroll : Bool}
    (each : ∀ x ∈ bound.toList, ∀ y, x.instantiate store unroll = .ok y → Carried store x y)
    (made : instantiateBound store unroll bound = .ok bound') :
    ∀ u ∈ bound'.toList, ∃ x ∈ bound.toList, u.Throughout (Stands store x) := by
  cases bound with
  | none =>
    cases made
    exact List.forall_mem_nil _
  | some x =>
    obtain ⟨x', inner, rfl⟩ := instantiateBound_some.mp made
    exact List.forall_mem_singleton.mpr
      ⟨x, List.mem_cons_self, (each x List.mem_cons_self x' inner).all⟩

/-- Everything that is read through a view comes out of the store. -/
theorem Carried.view {v : View} {l : Option String} (here : Stands store (.view v l) (.view v l)) :
    Carried store (.view v l) (.view v l) := by
  refine ⟨throughout_of_parts here (List.forall_mem_nil _), fun items elements u among => ?_⟩
  exact (throughout_within u).imp fun w inside => .read (.refl _) elements among inside.here

/-- A list consists of the operands that are its elements. -/
theorem Carried.list {x : Operand} {items : List Operand} {title l : Option String}
    (here : Stands store x (.list items title l))
    (each : ∀ u ∈ items, ∃ z ∈ x.parts, u.Throughout (Stands store z)) :
    Carried store x (.list items title l) := by
  refine ⟨throughout_of_parts here each, fun items given u among => ?_⟩
  cases given
  obtain ⟨z, part, stands⟩ := each u among
  exact stands.part part

/-- Groups and spreads have the elements of what is inside of them. -/
theorem Carried.around {x x' z w : Operand} (carried : Carried store x x') (part : x ∈ z.parts)
    (here : Stands store z w) (only : w.parts = [x'])
    (same : w.elements store = x'.elements store) : Carried store z w := by
  refine ⟨carried.throughout_around part here only, fun items elements u among => ?_⟩
  rw [same] at elements
  exact (carried.elements items elements u among).part part

/-- **What an operand is instantiated to comes from the operand with its labels, or out of the
store.**  The induction is on the parts; it has to be known of their elements, too, since these are
what is spliced or unrolled. -/
theorem carried_of_instantiate {x y : Operand} {unroll : Bool}
    (given : x.instantiate store unroll = .ok y) : Carried store x y := by
  induction x using induction_on_parts generalizing y unroll with
  | step x ih =>
    have here := stands_of_instantiate given
    cases x with
    | int n l =>
      cases given
      exact .of_isSingle rfl (throughout_of_parts here (List.forall_mem_nil _))
    | view v l =>
      cases given
      exact .view here
    | range lo hi l =>
      obtain ⟨lo', lower, hi', upper, rfl⟩ := instantiate_range.mp given
      rw [parts, List.forall_mem_append] at ih
      refine .of_isSingle rfl (throughout_of_parts here (List.forall_mem_append.mpr ⟨?_, ?_⟩))
      · intro u among
        obtain ⟨z, bound, stands⟩ :=
          carried_of_instantiateBound (fun z bound y => ih.1 z bound) lower u among
        exact ⟨z, List.mem_append_left _ bound, stands⟩
      · intro u among
        obtain ⟨z, bound, stands⟩ :=
          carried_of_instantiateBound (fun z bound y => ih.2 z bound) upper u among
        exact ⟨z, List.mem_append_right _ bound, stands⟩
    | list items title l =>
      obtain ⟨items', made, rfl⟩ := instantiate_list.mp given
      exact .list here (carried_of_materializeItems (fun z among y => ih z among) made)
    | group x l =>
      obtain ⟨x', inner, rfl⟩ := instantiate_group.mp given
      exact (ih x List.mem_cons_self inner).around List.mem_cons_self here rfl rfl
    | spread x l =>
      cases unroll with
      | true =>
        obtain ⟨x', inner, items, elements, rfl⟩ := instantiate_spread_unrolled.mp given
        have carried := ih x List.mem_cons_self inner
        exact .list here fun u among =>
          ⟨x, List.mem_cons_self, carried.elements items elements u among⟩
      | false =>
        obtain ⟨x', inner, rfl⟩ := instantiate_spread_kept.mp given
        exact (ih x List.mem_cons_self inner).around List.mem_cons_self here rfl rfl
    | neg x l =>
      obtain ⟨x', inner, rfl⟩ := instantiate_neg.mp given
      have carried := ih x List.mem_cons_self inner
      exact .of_isSingle rfl (carried.throughout_around List.mem_cons_self here rfl)
    | arith op a b l =>
      obtain ⟨a', left, b', right, rfl⟩ := instantiate_arith.mp given
      have carriedLeft := ih a List.mem_cons_self left
      have carriedRight := ih b (List.mem_cons_of_mem a List.mem_cons_self) right
      refine .of_isSingle rfl (throughout_of_parts here (List.forall_mem_cons.mpr ⟨?_, ?_⟩))
      · exact ⟨a, List.mem_cons_self, carriedLeft.all⟩
      · exact List.forall_mem_singleton.mpr
          ⟨b, List.mem_cons_of_mem a List.mem_cons_self, carriedRight.all⟩

/-! ### Labels in both passes -/

/-- **Labels are carried by whatever is rebuilt.**  The value of an operand that is no group has its
label, and so it is in every place inside: there is the value of what was there, with the label of
what is inside the groups.  Instantiation keeps the label of the operand, and everything inside of
the result either stands for something inside of the operand and has its label, or was read through
a view.  If nothing is to be spliced, the result is the operand without the titles of its lists.
Lists that are rebuilt have no title. -/
theorem labels_carried (store : σ) (unroll : Bool) (x : Operand) :
    (∀ v, x.evaluate = .ok v → (x.isGroup = false → v.label? = x.label?) ∧
      ∀ place, Option.Rel ValueOf (x.at? place) (v.at? place)) ∧
    (∀ y, x.instantiate store unroll = .ok y →
      y.label? = x.label? ∧ y.Throughout (Stands store x)) ∧
    (x.Unspliced → x.instantiate store false = .ok x.untitled) := by
  refine ⟨fun v given => ⟨fun single => ?_, evaluate_at given⟩, fun y given => ?_,
    instantiate_of_unspliced store⟩
  · have label := label?_of_evaluate given
    rwa [ungrouped_of_not_isGroup single] at label
  · exact ⟨(outer_of_instantiate given).1, (carried_of_instantiate given).all⟩

end

/-- A list with a label of its own, and with a group and a negation in it. -/
theorem labels_carried_list :
    let x := list [group (int 5 "n") "g", neg (int 2) "m"] "items" "outer"
    let v := list [int 5 "n", int (-2) "m"] none "outer"
    let y := list [group (int 5 "n") "g", neg (int 2) "m"] none "outer"
    (x.evaluate = .ok v ∧ v.label? = x.label? ∧ Option.Rel ValueOf (x.at? [0]) (v.at? [0])) ∧
      (x.instantiate ({} : Memory) true = .ok y ∧ y.label? = x.label? ∧
        y.Throughout (Stands ({} : Memory) x)) ∧
      x.instantiate ({} : Memory) false = .ok x.untitled := by
  intro x v y
  have value : x.evaluate = .ok v := rfl
  have made : x.instantiate ({} : Memory) true = .ok y := rfl
  have unspliced : x.Unspliced := by
    refine unspliced_of_spreadless ?_
    simp only [x, Throughout, ThroughoutItems]
    decide
  obtain ⟨evaluated, instantiated, kept⟩ := labels_carried ({} : Memory) true x
  obtain ⟨label, places⟩ := evaluated v value
  exact ⟨⟨value, label rfl, places [0]⟩, ⟨made, instantiated y made⟩, kept unspliced⟩

/-- The label of a group is lost by evaluation, and the title of a list by evaluation and by
instantiation. -/
theorem labels_lost :
    let number := group (int 5) "n"
    let row := list [int 1] "t"
    (∃ v, number.evaluate = .ok v ∧ v.label? ≠ number.label?) ∧
      (∃ v, row.evaluate = .ok v ∧ v.title? ≠ row.title?) ∧
      ∃ y, row.instantiate ({} : Memory) true = .ok y ∧ y.title? ≠ row.title? := by
  intro number row
  exact ⟨⟨int 5, rfl, by decide⟩, ⟨list [int 1], rfl, by decide⟩, list [int 1], rfl, by decide⟩

end Operand

end ArrayCells
