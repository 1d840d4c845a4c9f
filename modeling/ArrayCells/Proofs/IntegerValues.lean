import ArrayCells.Operand.Arithmetic
import ArrayCells.Proofs.WrittenForm

/-!
# The values of integer operands

Coercion to an integer computes step by step, and every step has to fit a word.  So it can fail for
an operand whose value would fit, because what is too large on the way is taken away again later.
Where it does not fail, it gives the value of exact arithmetic.

* `Operand.value?`: the value in exact arithmetic, which is there for `Numeric` operands;
* `Operand.Representable`: no step on the way leaves the words;
* `Operand.toInt_ok_iff`: coercion gives the exact value, if no step leaves the words;
* `Operand.typeMismatch_of_toInt`: all that coercion fails with;
* `Operand.boundValue_some`, `Operand.boundValues_ok_iff`: the values of the bounds of a range;
* `Operand.toInt_exact`: coercion is exact arithmetic with every overflow detected.
-/

namespace ArrayCells

theorem negate_ok_iff {m n : Int} : negate m = .ok n ↔ FitsWord (-m) ∧ -m = n := by
  rw [negate, ite_ok_iff]

theorem ArithOp.apply_ok_iff {op : ArithOp} {i j n : Int} :
    op.apply i j = .ok n ↔ FitsWord (op.exact i j) ∧ op.exact i j = n := by
  rw [apply, ite_ok_iff]

/-- The kinds of operands that have a value, if what they are made of has one. -/
def OperandKind.isNumeric : OperandKind → Bool
  | .int | .group | .negation | .arithmetic => true
  | .range | .view | .list | .spread => false

namespace Operand

/-! ### Coercion, step by step -/

theorem toInt_neg {x : Operand} {l : Option String} {n : Int} :
    (neg x l).toInt = .ok n ↔ ∃ m, x.toInt = .ok m ∧ FitsWord (-m) ∧ -m = n := by
  show (x.toInt >>= fun m => negate m) = .ok n ↔ _
  rw [bind_ok_iff]
  simp only [negate_ok_iff]

theorem toInt_arith {op : ArithOp} {a b : Operand} {l : Option String} {n : Int} :
    (arith op a b l).toInt = .ok n ↔
      ∃ i, a.toInt = .ok i ∧ ∃ j, b.toInt = .ok j ∧ FitsWord (op.exact i j) ∧ op.exact i j = n := by
  show (a.toInt >>= fun i => b.toInt >>= fun j => op.apply i j) = .ok n ↔ _
  simp only [bind_ok_iff, ArithOp.apply_ok_iff]

/-- **Coercion fails with type mismatches only**: an operand without a value, or an overflow. -/
theorem typeMismatch_of_toInt {fault : Fault} : ∀ {x : Operand}, x.toInt = .error fault →
    ∃ cause, fault = .typeMismatch cause
  | int .., failed => by cases failed
  | group x l, failed => by
    change x.toInt = .error fault at failed
    exact typeMismatch_of_toInt failed
  | neg x l, failed => by
    change (x.toInt >>= fun m => negate m) = .error fault at failed
    rw [bind_error_iff] at failed
    rcases failed with inner | ⟨m, -, overflow⟩
    · exact typeMismatch_of_toInt inner
    · rw [negate, ite_error_iff] at overflow
      exact ⟨_, overflow.2.symm⟩
  | arith op a b l, failed => by
    change (a.toInt >>= fun i => b.toInt >>= fun j => op.apply i j) = .error fault at failed
    rw [bind_error_iff] at failed
    rcases failed with left | ⟨i, -, later⟩
    · exact typeMismatch_of_toInt left
    · rw [bind_error_iff] at later
      rcases later with right | ⟨j, -, overflow⟩
      · exact typeMismatch_of_toInt right
      · rw [ArithOp.apply, ite_error_iff] at overflow
        exact ⟨_, overflow.2.symm⟩
  | range .., failed | view .., failed | list .., failed | spread .., failed =>
    ⟨_, (Except.error.inj failed).symm⟩

theorem exists_typeMismatch {x : Operand} (none : ∀ n, ¬ x.toInt = .ok n) :
    ∃ cause, x.toInt = .error (.typeMismatch cause) := by
  cases failed : x.toInt with
  | ok n => exact (none n failed).elim
  | error fault =>
    obtain ⟨cause, rfl⟩ := typeMismatch_of_toInt failed
    exact ⟨cause, rfl⟩

/-! ### The values of bounds -/

theorem boundValue_some {x : Operand} {n : Option Int} :
    boundValue (some x) = .ok n ↔ ∃ m, x.toInt = .ok m ∧ some m = n := by
  rw [boundValue]
  cases x.toInt with
  | error fault =>
    refine iff_of_false (fun absurd => by cases absurd) ?_
    rintro ⟨m, absurd, -⟩
    cases absurd
  | ok m =>
    show Except.ok (some m) = .ok n ↔ _
    simp only [Except.ok.injEq, exists_eq_left']

theorem boundValues_ok_iff {bounds : Option Operand × Option Operand}
    {values : Option Int × Option Int} :
    boundValues bounds = .ok values ↔
      boundValue bounds.1 = .ok values.1 ∧ boundValue bounds.2 = .ok values.2 := by
  rw [boundValues, bind_ok_iff]
  simp only [bind_ok_iff, pure_ok_iff]
  constructor
  · rintro ⟨lo, lower, hi, upper, rfl⟩
    exact ⟨lower, upper⟩
  · rintro ⟨lower, upper⟩
    exact ⟨values.1, lower, values.2, upper, rfl⟩

/-! ### Exact arithmetic -/

/-- The value of an operand in exact arithmetic, if it has one. -/
def value? : Operand → Option Int
  | int n _ => some n
  | group x _ => value? x
  | neg x _ => (value? x).map fun n => -n
  | arith op a b _ => (value? a).bind fun i => (value? b).map fun j => op.exact i j
  | range .. | view .. | list .. | spread .. => none

theorem value?_neg {x : Operand} {l : Option String} {n : Int} :
    (neg x l).value? = some n ↔ ∃ m, x.value? = some m ∧ -m = n := by
  show (x.value?.map fun m => -m) = some n ↔ _
  rw [Option.map_eq_some_iff]

theorem value?_arith {op : ArithOp} {a b : Operand} {l : Option String} {n : Int} :
    (arith op a b l).value? = some n ↔
      ∃ i, a.value? = some i ∧ ∃ j, b.value? = some j ∧ op.exact i j = n := by
  show (a.value?.bind fun i => b.value?.map fun j => op.exact i j) = some n ↔ _
  simp only [Option.bind_eq_some_iff, Option.map_eq_some_iff]

/-- The operand is built from integers, groups, negations and operations, and from nothing else. -/
def Numeric (x : Operand) : Prop :=
  x.Throughout (·.kind.isNumeric = true)

/-- If the operand is a negation or an operation, its exact result fits a word. -/
def FitsExactly (x : Operand) : Prop :=
  x.kind = .negation ∨ x.kind = .arithmetic → ∀ n, x.value? = some n → FitsWord n

/-- The exact result of every negation and every operation in the operand fits a word. -/
def Representable (x : Operand) : Prop :=
  x.Throughout FitsExactly

/-- Exactly the numeric operands have a value. -/
theorem exists_value_iff : ∀ {x : Operand}, (∃ n, x.value? = some n) ↔ x.Numeric
  | int n l => by
    rw [Numeric, Throughout]
    exact iff_of_true ⟨n, rfl⟩ rfl
  | group x l => by
    rw [Numeric, Throughout]
    exact (exists_value_iff (x := x)).trans (and_iff_right rfl).symm
  | neg x l => by
    rw [Numeric, Throughout]
    refine Iff.trans ?_ (and_iff_right rfl).symm
    refine Iff.trans ?_ (exists_value_iff (x := x))
    constructor
    · rintro ⟨n, value⟩
      obtain ⟨m, inner, -⟩ := value?_neg.mp value
      exact ⟨m, inner⟩
    · rintro ⟨m, inner⟩
      exact ⟨-m, value?_neg.mpr ⟨m, inner, rfl⟩⟩
  | arith op a b l => by
    rw [Numeric, Throughout]
    refine Iff.trans ?_ (and_iff_right rfl).symm
    refine Iff.trans ?_ (and_congr (exists_value_iff (x := a)) (exists_value_iff (x := b)))
    constructor
    · rintro ⟨n, value⟩
      obtain ⟨i, left, j, right, -⟩ := value?_arith.mp value
      exact ⟨⟨i, left⟩, j, right⟩
    · rintro ⟨⟨i, left⟩, j, right⟩
      exact ⟨op.exact i j, value?_arith.mpr ⟨i, left, j, right, rfl⟩⟩
  | range .. | view .. | list .. | spread .. => by
    refine iff_of_false ?_ ?_
    · rintro ⟨n, absurd⟩
      cases absurd
    · intro numeric
      have here := numeric.here
      cases here

/-! ### Coercion and exact arithmetic -/

theorem representable_neg {x : Operand} {l : Option String} {m : Int} (value : x.value? = some m) :
    (neg x l).Representable ↔ FitsWord (-m) ∧ x.Representable := by
  rw [Representable, Throughout]
  refine and_congr_left fun _ => ?_
  constructor
  · intro fits
    exact fits (.inl rfl) (-m) (value?_neg.mpr ⟨m, value, rfl⟩)
  · rintro fits - n result
    obtain ⟨m', value', rfl⟩ := value?_neg.mp result
    cases value.symm.trans value'
    exact fits

theorem representable_arith {op : ArithOp} {a b : Operand} {l : Option String} {i j : Int}
    (left : a.value? = some i) (right : b.value? = some j) :
    (arith op a b l).Representable ↔
      FitsWord (op.exact i j) ∧ a.Representable ∧ b.Representable := by
  rw [Representable, Throughout]
  refine and_congr_left fun _ => ?_
  constructor
  · intro fits
    exact fits (.inr rfl) (op.exact i j) (value?_arith.mpr ⟨i, left, j, right, rfl⟩)
  · rintro fits - n result
    obtain ⟨i', left', j', right', rfl⟩ := value?_arith.mp result
    cases left.symm.trans left'
    cases right.symm.trans right'
    exact fits

/-- **Coercion gives the exact value**, if the exact result of every step fits a word.  That what
overflows on the way could cancel out does not help: the steps inside have to be representable,
too. -/
theorem toInt_ok_iff {n : Int} : ∀ {x : Operand},
    x.toInt = .ok n ↔ x.value? = some n ∧ x.Representable
  | int m l => by
    have fits : (int m l).Representable := by
      rw [Representable, Throughout]
      rintro (computed | computed) <;> cases computed
    show Except.ok m = .ok n ↔ some m = some n ∧ _
    rw [Except.ok.injEq, Option.some.injEq]
    exact (and_iff_left fits).symm
  | group x l => by
    have fits : (group x l).Representable ↔ x.Representable := by
      rw [Representable, Throughout]
      refine and_iff_right ?_
      rintro (computed | computed) <;> cases computed
    show x.toInt = .ok n ↔ x.value? = some n ∧ _
    rw [fits]
    exact toInt_ok_iff
  | neg x l => by
    rw [toInt_neg, value?_neg]
    constructor
    · rintro ⟨m, inner, fits, rfl⟩
      obtain ⟨value, steps⟩ := toInt_ok_iff.mp inner
      exact ⟨⟨m, value, rfl⟩, (representable_neg value).mpr ⟨fits, steps⟩⟩
    · rintro ⟨⟨m, value, rfl⟩, steps⟩
      obtain ⟨fits, inner⟩ := (representable_neg value).mp steps
      exact ⟨m, toInt_ok_iff.mpr ⟨value, inner⟩, fits, rfl⟩
  | arith op a b l => by
    rw [toInt_arith, value?_arith]
    constructor
    · rintro ⟨i, left, j, right, fits, rfl⟩
      obtain ⟨leftValue, leftSteps⟩ := toInt_ok_iff.mp left
      obtain ⟨rightValue, rightSteps⟩ := toInt_ok_iff.mp right
      exact ⟨⟨i, leftValue, j, rightValue, rfl⟩,
        (representable_arith leftValue rightValue).mpr ⟨fits, leftSteps, rightSteps⟩⟩
    · rintro ⟨⟨i, leftValue, j, rightValue, rfl⟩, steps⟩
      obtain ⟨fits, leftSteps, rightSteps⟩ :=
        (representable_arith leftValue rightValue).mp steps
      exact ⟨i, toInt_ok_iff.mpr ⟨leftValue, leftSteps⟩, j,
        toInt_ok_iff.mpr ⟨rightValue, rightSteps⟩, fits, rfl⟩
  | range .. | view .. | list .. | spread .. =>
    iff_of_false (fun absurd => by cases absurd) fun absurd => by cases absurd.1

/-- **Coercion is exact arithmetic, with overflow detected at every step.**  An operand that is built
from integers, groups, negations and operations has an exact value.  Coercion gives this value if
the exact result of every negation and every operation inside fits a word, and otherwise fails with a
type mismatch.  It always does so if there is a range, a view, a list or a spread anywhere in the
operand. -/
theorem toInt_exact (x : Operand) :
    (x.Numeric →
      ∃ n, x.value? = some n ∧
        (∀ m, x.toInt = .ok m ↔ x.Representable ∧ m = n) ∧
        (¬ x.Representable → ∃ cause, x.toInt = .error (.typeMismatch cause))) ∧
      (¬ x.Numeric → ∃ cause, x.toInt = .error (.typeMismatch cause)) := by
  constructor
  · intro numeric
    obtain ⟨n, value⟩ := exists_value_iff.mpr numeric
    refine ⟨n, value, fun m => ?_, fun overflow => ?_⟩
    · rw [toInt_ok_iff, value, Option.some.injEq, and_comm]
      exact and_congr_right fun _ => eq_comm
    · exact exists_typeMismatch fun m given => overflow (toInt_ok_iff.mp given).2
  · intro mixed
    exact exists_typeMismatch fun m given =>
      mixed (exists_value_iff.mp ⟨m, (toInt_ok_iff.mp given).1⟩)

/-- The largest word, plus one and minus one again: the value fits, but one step does not.  A list
has no value, even where it is multiplied by zero. -/
theorem toInt_exact_cancelled :
    let next := arith .add (int 9223372036854775807) (int 1)
    let cancelled := arith .sub (group next) (int 1)
    let mixed := arith .mul (int 0) (group (list []))
    cancelled.value? = some 9223372036854775807 ∧
      (∃ cause, cancelled.toInt = .error (.typeMismatch cause)) ∧
      ∃ cause, mixed.toInt = .error (.typeMismatch cause) := by
  intro next cancelled mixed
  have numeric : cancelled.Numeric := exists_value_iff.mp ⟨9223372036854775807, rfl⟩
  have overflow : ¬ cancelled.Representable := by
    intro steps
    have inner := ((representable_arith (i := 9223372036854775808) rfl rfl).mp steps).2.1
    rw [Representable, Throughout] at inner
    have fits := inner.2.here (.inr rfl) 9223372036854775808 rfl
    exact absurd fits (by decide)
  have listed : ¬ mixed.Numeric := by
    intro numeric
    obtain ⟨n, absurd⟩ := exists_value_iff.mpr numeric
    cases absurd
  obtain ⟨n, -, -, fails⟩ := (toInt_exact cancelled).1 numeric
  exact ⟨rfl, fails overflow, (toInt_exact mixed).2 listed⟩

end Operand

end ArrayCells
