import ArrayCells.Proofs.Instantiation
import ArrayCells.Proofs.IntegerValues
import ArrayCells.Proofs.SameOperands
import ArrayCells.Store.Memory

/-!
# Evaluated and instantiated operands

Evaluation and instantiation both rewrite an operand, and an operand is also read without rewriting,
as an integer or as a range.  None of these disagree.  Evaluation leaves a value that has nothing left
to evaluate; and what is an integer or a range before evaluation or instantiation is the same integer
or the same range afterwards.

* `Operand.Evaluated`: values, by `evaluated_of_evaluate` and `Evaluated.evaluate`;
* `Operand.evaluate_int_iff`: operands that evaluate to an integer;
* `toInt_agree_of_evaluate`, `toInt_agree_of_instantiate`: the integer is the same afterwards, and
  what was none is none;
* `sameRange_of_evaluate`, `sameRange_of_instantiate`: so it is with ranges and the values of their
  bounds;
* `Operand.Spans`: ranges whose bounds have values, which are evaluated and instantiated without a
  fault;
* `Operand.evaluate_normalizes`: all of it for one operand.
-/

namespace ArrayCells

theorem AgreeOnKind.ok_iff {α : Type} {r r' : Except Fault α} (h : AgreeOnKind Eq r r') (a : α) :
    r = .ok a ↔ r' = .ok a := by
  cases h with
  | ok same => rw [same]
  | error kind => exact iff_of_false (fun absurd => by cases absurd) fun absurd => by cases absurd

namespace Operand

/-! ### What is evaluated -/

section

variable {y : Operand} {l : Option String}

theorem evaluate_range {lo hi : Option Operand} :
    (range lo hi l).evaluate = .ok y ↔
      ∃ lo', evaluateBound lo = .ok lo' ∧ ∃ hi', evaluateBound hi = .ok hi' ∧
        range lo' hi' l = y := by
  rw [evaluate, bind_ok_iff]
  simp only [bind_ok_iff, pure_ok_iff]

theorem evaluate_list {items : List Operand} {title : Option String} :
    (list items title l).evaluate = .ok y ↔
      ∃ items', evaluateItems items = .ok items' ∧ list items' none l = y := by
  rw [evaluate, bind_ok_iff]
  simp only [pure_ok_iff]

theorem evaluate_spread {x : Operand} :
    (spread x l).evaluate = .ok y ↔ ∃ x', x.evaluate = .ok x' ∧ spread x' l = y := by
  rw [evaluate, bind_ok_iff]
  simp only [pure_ok_iff]

theorem evaluate_neg {x : Operand} :
    (neg x l).evaluate = .ok y ↔ ∃ n, (neg x l).toInt = .ok n ∧ int n l = y := by
  rw [evaluate, bind_ok_iff]
  simp only [pure_ok_iff]

theorem evaluate_arith {op : ArithOp} {a b : Operand} :
    (arith op a b l).evaluate = .ok y ↔ ∃ n, (arith op a b l).toInt = .ok n ∧ int n l = y := by
  rw [evaluate, bind_ok_iff]
  simp only [pure_ok_iff]

theorem evaluateBound_some {x : Operand} {bound : Option Operand} :
    evaluateBound (some x) = .ok bound ↔ ∃ x', x.evaluate = .ok x' ∧ some x' = bound := by
  rw [evaluateBound, bind_ok_iff]
  simp only [pure_ok_iff]

theorem evaluateItems_cons {x : Operand} {rest items : List Operand} :
    evaluateItems (x :: rest) = .ok items ↔
      ∃ x', x.evaluate = .ok x' ∧ ∃ rest', evaluateItems rest = .ok rest' ∧
        x' :: rest' = items := by
  rw [evaluateItems, bind_ok_iff]
  simp only [bind_ok_iff, pure_ok_iff]

end

/-! ### Values -/

/-- Neither a group nor arithmetic, nor a list with a title. -/
def IsValue : Operand → Prop
  | group .. | neg .. | arith .. => False
  | list _ title _ => title = none
  | int .. | range .. | view .. | spread .. => True

/-- There is nothing left to evaluate, at any depth: no group, no negation and no operation. -/
def Evaluated (x : Operand) : Prop :=
  x.Throughout IsValue

mutual

/-- **Evaluation gives values.** -/
theorem evaluated_of_evaluate : ∀ {x v : Operand}, x.evaluate = .ok v → v.Evaluated
  | int n l, v, given => by
    cases given
    rw [Evaluated, Throughout]
    trivial
  | view w l, v, given => by
    cases given
    rw [Evaluated, Throughout]
    trivial
  | neg x l, v, given => by
    obtain ⟨n, -, rfl⟩ := evaluate_neg.mp given
    rw [Evaluated, Throughout]
    trivial
  | arith op a b l, v, given => by
    obtain ⟨n, -, rfl⟩ := evaluate_arith.mp given
    rw [Evaluated, Throughout]
    trivial
  | group x l, v, given => by
    rw [evaluate] at given
    exact evaluated_of_evaluate given
  | range lo hi l, v, given => by
    obtain ⟨lo', lower, hi', upper, rfl⟩ := evaluate_range.mp given
    rw [Evaluated, Throughout]
    exact ⟨trivial, evaluated_of_evaluateBound lower, evaluated_of_evaluateBound upper⟩
  | list items title l, v, given => by
    obtain ⟨items', each, rfl⟩ := evaluate_list.mp given
    rw [Evaluated, Throughout]
    exact ⟨rfl, evaluated_of_evaluateItems each⟩
  | spread x l, v, given => by
    obtain ⟨x', inner, rfl⟩ := evaluate_spread.mp given
    rw [Evaluated, Throughout]
    exact ⟨trivial, evaluated_of_evaluate inner⟩

theorem evaluated_of_evaluateBound : ∀ {bound bound' : Option Operand},
    evaluateBound bound = .ok bound' → ThroughoutBound IsValue bound'
  | none, _, given => by
    cases given
    trivial
  | some x, _, given => by
    obtain ⟨x', inner, rfl⟩ := evaluateBound_some.mp given
    exact evaluated_of_evaluate inner

theorem evaluated_of_evaluateItems : ∀ {items items' : List Operand},
    evaluateItems items = .ok items' → ThroughoutItems IsValue items'
  | [], _, given => by
    cases given
    trivial
  | x :: rest, _, given => by
    obtain ⟨x', inner, rest', others, rfl⟩ := evaluateItems_cons.mp given
    rw [ThroughoutItems]
    exact ⟨evaluated_of_evaluate inner, evaluated_of_evaluateItems others⟩

end

mutual

/-- **Values are evaluated to themselves.** -/
theorem Evaluated.evaluate : ∀ {v : Operand}, v.Evaluated → v.evaluate = .ok v
  | .int .., _ | .view .., _ => by rw [Operand.evaluate]
  | .range lo hi l, h => by
    rw [Evaluated, Throughout] at h
    exact evaluate_range.mpr
      ⟨lo, evaluateBound_of_throughout h.2.1, hi, evaluateBound_of_throughout h.2.2, rfl⟩
  | .list items title l, h => by
    rw [Evaluated, Throughout] at h
    obtain ⟨untitled, values⟩ := h
    cases untitled
    exact evaluate_list.mpr ⟨items, evaluateItems_of_throughout values, rfl⟩
  | .spread x l, h => by
    rw [Evaluated, Throughout] at h
    exact evaluate_spread.mpr ⟨x, Evaluated.evaluate h.2, rfl⟩
  | .group .., h | .neg .., h | .arith .., h => h.here.elim

theorem evaluateBound_of_throughout : ∀ {bound : Option Operand},
    ThroughoutBound IsValue bound → evaluateBound bound = .ok bound
  | none, _ => rfl
  | some x, h => evaluateBound_some.mpr ⟨x, Evaluated.evaluate h, rfl⟩

theorem evaluateItems_of_throughout : ∀ {items : List Operand},
    ThroughoutItems IsValue items → evaluateItems items = .ok items
  | [], _ => rfl
  | x :: rest, h => by
    rw [ThroughoutItems] at h
    exact evaluateItems_cons.mpr
      ⟨x, Evaluated.evaluate h.1, rest, evaluateItems_of_throughout h.2, rfl⟩

end

/-! ### Integers -/

/-- **What evaluates to an integer** is what can be coerced to one, and to the same one. -/
theorem evaluate_int_iff {n : Int} : ∀ {x : Operand},
    (∃ l, x.evaluate = .ok (int n l)) ↔ x.toInt = .ok n
  | int m l => by
    rw [evaluate, toInt]
    constructor
    · rintro ⟨l', same⟩
      cases same
      rfl
    · intro same
      cases same
      exact ⟨l, rfl⟩
  | group x l => by
    rw [evaluate, toInt]
    exact evaluate_int_iff
  | neg x l => by
    constructor
    · rintro ⟨l', given⟩
      obtain ⟨m, value, same⟩ := evaluate_neg.mp given
      cases same
      exact value
    · intro value
      exact ⟨l, evaluate_neg.mpr ⟨n, value, rfl⟩⟩
  | arith op a b l => by
    constructor
    · rintro ⟨l', given⟩
      obtain ⟨m, value, same⟩ := evaluate_arith.mp given
      cases same
      exact value
    · intro value
      exact ⟨l, evaluate_arith.mpr ⟨n, value, rfl⟩⟩
  | view v l => by
    refine iff_of_false ?_ fun absurd => by cases absurd
    rintro ⟨l', given⟩
    cases given
  | range lo hi l => by
    refine iff_of_false ?_ fun absurd => by cases absurd
    rintro ⟨l', given⟩
    obtain ⟨lo', -, hi', -, same⟩ := evaluate_range.mp given
    cases same
  | list items title l => by
    refine iff_of_false ?_ fun absurd => by cases absurd
    rintro ⟨l', given⟩
    obtain ⟨items', -, same⟩ := evaluate_list.mp given
    cases same
  | spread x l => by
    refine iff_of_false ?_ fun absurd => by cases absurd
    rintro ⟨l', given⟩
    obtain ⟨x', -, same⟩ := evaluate_spread.mp given
    cases same

/-- Coercions agree if they give the same integers, since they all fail for causes of one kind. -/
theorem toInt_agree_of_iff {x y : Operand} (same : ∀ n, x.toInt = .ok n ↔ y.toInt = .ok n) :
    AgreeOnKind Eq x.toInt y.toInt := by
  cases given : x.toInt with
  | ok n =>
    rw [(same n).mp given]
    exact .ok rfl
  | error fault =>
    have none : ∀ n, ¬ y.toInt = .ok n := by
      intro n absurd
      rw [← same, given] at absurd
      cases absurd
    obtain ⟨cause, rfl⟩ := typeMismatch_of_toInt given
    obtain ⟨cause', failed⟩ := exists_typeMismatch none
    rw [failed]
    exact .error rfl

/-- Evaluation keeps the integer that an operand is. -/
theorem toInt_agree_of_evaluate {x v : Operand} (given : x.evaluate = .ok v) :
    AgreeOnKind Eq x.toInt v.toInt := by
  refine toInt_agree_of_iff fun n => ?_
  rw [← evaluate_int_iff, ← evaluate_int_iff, given, (evaluated_of_evaluate given).evaluate]

section

variable {σ : Type} [CellStore σ] {store : σ} {unroll : Bool}

/-- **An integer is instantiated to itself**: it is made of parts that are kept. -/
theorem instantiate_of_toInt {n : Int} : ∀ {x : Operand}, x.toInt = .ok n →
    x.instantiate store unroll = .ok x
  | int .., _ => by rw [instantiate]
  | group x l, value => by
    rw [toInt] at value
    exact instantiate_group.mpr ⟨x, instantiate_of_toInt value, rfl⟩
  | neg x l, value => by
    obtain ⟨m, inner, -⟩ := toInt_neg.mp value
    exact instantiate_neg.mpr ⟨x, instantiate_of_toInt inner, rfl⟩
  | arith op a b l, value => by
    obtain ⟨i, left, j, right, -⟩ := toInt_arith.mp value
    exact instantiate_arith.mpr
      ⟨a, instantiate_of_toInt left, b, instantiate_of_toInt right, rfl⟩
  | range .., value | view .., value | list .., value | spread .., value => by cases value

/-- What is an integer once it has been instantiated was that integer before. -/
theorem toInt_of_instantiate {n : Int} : ∀ {x y : Operand}, x.instantiate store unroll = .ok y →
    y.toInt = .ok n → x.toInt = .ok n
  | int .., y, given, value => by
    cases given
    exact value
  | group x l, y, given, value => by
    obtain ⟨x', inner, rfl⟩ := instantiate_group.mp given
    rw [toInt] at value ⊢
    exact toInt_of_instantiate inner value
  | neg x l, y, given, value => by
    obtain ⟨x', inner, rfl⟩ := instantiate_neg.mp given
    obtain ⟨m, value', fits⟩ := toInt_neg.mp value
    exact toInt_neg.mpr ⟨m, toInt_of_instantiate inner value', fits⟩
  | arith op a b l, y, given, value => by
    obtain ⟨a', left, b', right, rfl⟩ := instantiate_arith.mp given
    obtain ⟨i, leftValue, j, rightValue, fits⟩ := toInt_arith.mp value
    exact toInt_arith.mpr
      ⟨i, toInt_of_instantiate left leftValue, j, toInt_of_instantiate right rightValue, fits⟩
  | view v l, y, given, value => by
    cases given
    cases value
  | range lo hi l, y, given, value => by
    obtain ⟨lo', -, hi', -, rfl⟩ := instantiate_range.mp given
    cases value
  | list items title l, y, given, value => by
    obtain ⟨items', -, rfl⟩ := instantiate_list.mp given
    cases value
  | spread x l, y, given, value => by
    -- Neither the spread that is kept nor the list that it becomes is an integer.
    rcases kept_or_unrolled given with ⟨x', rfl⟩ | ⟨items, rfl⟩ <;> cases value

/-- Instantiation keeps the integer that an operand is. -/
theorem toInt_agree_of_instantiate {x y : Operand} (given : x.instantiate store unroll = .ok y) :
    AgreeOnKind Eq x.toInt y.toInt := by
  refine toInt_agree_of_iff fun n => ⟨fun value => ?_, toInt_of_instantiate given⟩
  rw [instantiate_of_toInt value] at given
  cases given
  exact value

end

/-! ### Ranges -/

theorem boundValues_agree {bounds bounds' : Option Operand × Option Operand}
    (lower : AgreeOnKind Eq (boundValue bounds.1) (boundValue bounds'.1))
    (upper : AgreeOnKind Eq (boundValue bounds.2) (boundValue bounds'.2)) :
    AgreeOnKind Eq (boundValues bounds) (boundValues bounds') :=
  lower.bind fun _ _ lo => upper.bind fun _ _ hi => .ok (Prod.ext lo hi)

theorem boundValue_agree_of_evaluateBound {bound bound' : Option Operand}
    (given : evaluateBound bound = .ok bound') :
    AgreeOnKind Eq (boundValue bound) (boundValue bound') := by
  cases bound with
  | none =>
    cases given
    exact .ok rfl
  | some x =>
    obtain ⟨x', inner, rfl⟩ := evaluateBound_some.mp given
    exact (toInt_agree_of_evaluate inner).map fun _ _ => congrArg some

theorem boundValue_agree_of_instantiateBound {σ : Type} [CellStore σ] {store : σ} {unroll : Bool}
    {bound bound' : Option Operand} (given : instantiateBound store unroll bound = .ok bound') :
    AgreeOnKind Eq (boundValue bound) (boundValue bound') := by
  cases bound with
  | none =>
    cases given
    exact .ok rfl
  | some x =>
    obtain ⟨x', inner, rfl⟩ := instantiateBound_some.mp given
    exact (toInt_agree_of_instantiate inner).map fun _ _ => congrArg some

/-- Both operands are ranges, and the values of their bounds agree; or neither is a range. -/
def SameRange (x y : Operand) : Prop :=
  Option.Rel (fun bounds bounds' => AgreeOnKind Eq (boundValues bounds) (boundValues bounds'))
    x.range? y.range?

/-- **Evaluation keeps ranges**, and makes none. -/
theorem sameRange_of_evaluate : ∀ {x v : Operand}, x.evaluate = .ok v → x.SameRange v
  | int .., v, given | view .., v, given => by
    cases given
    exact .none
  | neg x l, v, given => by
    obtain ⟨n, -, rfl⟩ := evaluate_neg.mp given
    exact .none
  | arith op a b l, v, given => by
    obtain ⟨n, -, rfl⟩ := evaluate_arith.mp given
    exact .none
  | group x l, v, given => by
    rw [evaluate] at given
    show x.SameRange v
    exact sameRange_of_evaluate given
  | range lo hi l, v, given => by
    obtain ⟨lo', lower, hi', upper, rfl⟩ := evaluate_range.mp given
    exact .some (boundValues_agree (boundValue_agree_of_evaluateBound lower)
      (boundValue_agree_of_evaluateBound upper))
  | list items title l, v, given => by
    obtain ⟨items', -, rfl⟩ := evaluate_list.mp given
    exact .none
  | spread x l, v, given => by
    obtain ⟨x', -, rfl⟩ := evaluate_spread.mp given
    exact .none

/-- **Instantiation keeps ranges**, and makes none. -/
theorem sameRange_of_instantiate {σ : Type} [CellStore σ] {store : σ} {unroll : Bool} :
    ∀ {x y : Operand}, x.instantiate store unroll = .ok y → x.SameRange y
  | int .., y, given | view .., y, given => by
    cases given
    exact .none
  | neg x l, y, given => by
    obtain ⟨x', -, rfl⟩ := instantiate_neg.mp given
    exact .none
  | arith op a b l, y, given => by
    obtain ⟨a', -, b', -, rfl⟩ := instantiate_arith.mp given
    exact .none
  | group x l, y, given => by
    obtain ⟨x', inner, rfl⟩ := instantiate_group.mp given
    show x.SameRange x'
    exact sameRange_of_instantiate inner
  | range lo hi l, y, given => by
    obtain ⟨lo', lower, hi', upper, rfl⟩ := instantiate_range.mp given
    exact .some (boundValues_agree (boundValue_agree_of_instantiateBound lower)
      (boundValue_agree_of_instantiateBound upper))
  | list items title l, y, given => by
    obtain ⟨items', -, rfl⟩ := instantiate_list.mp given
    exact .none
  | spread x l, y, given => by
    rcases kept_or_unrolled given with ⟨x', rfl⟩ | ⟨items, rfl⟩ <;> exact .none

/-- The operand is a range, the bounds of which have these values. -/
def Spans (x : Operand) (values : Option Int × Option Int) : Prop :=
  ∃ bounds, x.range? = some bounds ∧ boundValues bounds = .ok values

theorem SameRange.spans {x y : Operand} (same : x.SameRange y) {values : Option Int × Option Int}
    (spans : x.Spans values) : y.Spans values := by
  obtain ⟨bounds, ranged, given⟩ := spans
  rw [SameRange, ranged] at same
  generalize ranged' : y.range? = range at same
  cases same with
  | some agree => exact ⟨_, ranged', (agree.ok_iff values).mp given⟩

theorem exists_evaluateBound_of_boundValue {bound : Option Operand} {n : Option Int}
    (given : boundValue bound = .ok n) : ∃ bound', evaluateBound bound = .ok bound' := by
  cases bound with
  | none => exact ⟨none, rfl⟩
  | some x =>
    obtain ⟨m, value, -⟩ := boundValue_some.mp given
    obtain ⟨l, inner⟩ := evaluate_int_iff.mpr value
    exact ⟨_, evaluateBound_some.mpr ⟨_, inner, rfl⟩⟩

/-- A range whose bounds have values can be evaluated. -/
theorem Spans.exists_evaluate {values : Option Int × Option Int} : ∀ {x : Operand},
    x.Spans values → ∃ v, x.evaluate = .ok v
  | .range lo hi l, ⟨_, rfl, given⟩ => by
    obtain ⟨lower, upper⟩ := boundValues_ok_iff.mp given
    obtain ⟨lo', lower'⟩ := exists_evaluateBound_of_boundValue lower
    obtain ⟨hi', upper'⟩ := exists_evaluateBound_of_boundValue upper
    exact ⟨_, evaluate_range.mpr ⟨lo', lower', hi', upper', rfl⟩⟩
  | .group x l, ⟨bounds, ranged, given⟩ => by
    rw [evaluate]
    exact Spans.exists_evaluate ⟨bounds, ranged, given⟩

section

variable {σ : Type} [CellStore σ] {store : σ} {unroll : Bool}

theorem instantiateBound_of_boundValue {bound : Option Operand} {n : Option Int}
    (given : boundValue bound = .ok n) : instantiateBound store unroll bound = .ok bound := by
  cases bound with
  | none => rfl
  | some x =>
    obtain ⟨m, value, -⟩ := boundValue_some.mp given
    exact instantiateBound_some.mpr ⟨x, instantiate_of_toInt value, rfl⟩

/-- A range whose bounds have values is instantiated to itself. -/
theorem Spans.instantiate {values : Option Int × Option Int} : ∀ {x : Operand},
    x.Spans values → x.instantiate store unroll = .ok x
  | .range lo hi l, ⟨_, rfl, given⟩ => by
    obtain ⟨lower, upper⟩ := boundValues_ok_iff.mp given
    exact instantiate_range.mpr ⟨lo, instantiateBound_of_boundValue lower, hi,
      instantiateBound_of_boundValue upper, rfl⟩
  | .group x l, ⟨bounds, ranged, given⟩ =>
    instantiate_group.mpr ⟨x, Spans.instantiate ⟨bounds, ranged, given⟩, rfl⟩

/-! ### Evaluation and coercion together -/

/-- **Evaluation ends in values and agrees with coercion.**  What is left of an operand has no group
and no arithmetic at any depth and is evaluated to itself.  An operand evaluates to an integer exactly
if it can be coerced to this integer.  Then it can also be instantiated, whatever is unrolled, and is
the same integer afterwards.  A range the bounds of which have values can be evaluated and
instantiated, and both give ranges whose bounds have the same values. -/
theorem evaluate_normalizes (store : σ) (unroll : Bool) (x : Operand) :
    (∀ v, x.evaluate = .ok v → v.Evaluated ∧ v.evaluate = .ok v) ∧
    (∀ n, (∃ l, x.evaluate = .ok (int n l)) ↔ x.toInt = .ok n) ∧
    (∀ n, x.toInt = .ok n → ∃ y, x.instantiate store unroll = .ok y ∧ y.toInt = .ok n) ∧
    ∀ values, x.Spans values →
      (∃ v, x.evaluate = .ok v ∧ v.Spans values) ∧
        ∃ y, x.instantiate store unroll = .ok y ∧ y.Spans values := by
  refine ⟨fun v given => ?_, fun n => evaluate_int_iff, fun n value => ?_, fun values spans => ?_⟩
  · have values := evaluated_of_evaluate given
    exact ⟨values, values.evaluate⟩
  · exact ⟨x, instantiate_of_toInt value, value⟩
  · obtain ⟨v, given⟩ := spans.exists_evaluate
    exact ⟨⟨v, given, (sameRange_of_evaluate given).spans spans⟩, x, spans.instantiate, spans⟩

end

/-- The slice `((2 + (-5))..-(-7))` in groups, and its lower bound. -/
theorem evaluate_normalizes_slice :
    let lower := arith .add (int 2) (group (neg (int 5)))
    let slice := group (range (some (group lower)) (some (neg (int (-7)))))
    (∃ l, lower.evaluate = .ok (int (-3) l)) ∧
      (∃ y, lower.instantiate ({} : Memory) true = .ok y ∧ y.toInt = .ok (-3)) ∧
      ∃ v, slice.evaluate = .ok v ∧ v.Spans (some (-3), some 7) ∧ v.Evaluated := by
  intro lower slice
  have value : lower.toInt = .ok (-3) := rfl
  have spans : slice.Spans (some (-3), some 7) := ⟨_, rfl, rfl⟩
  obtain ⟨-, integer, instantiated, -⟩ := evaluate_normalizes ({} : Memory) true lower
  obtain ⟨values, -, -, ranged⟩ := evaluate_normalizes ({} : Memory) true slice
  obtain ⟨v, given, kept⟩ := (ranged _ spans).1
  exact ⟨(integer _).mpr value, instantiated _ value, v, given, kept, (values v given).1⟩

end Operand

end ArrayCells
