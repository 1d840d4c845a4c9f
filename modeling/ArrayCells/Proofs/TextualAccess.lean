import ArrayCells.Environment.Access
import ArrayCells.Proofs.Denotation
import ArrayCells.Proofs.IntegerValues
import ArrayCells.Store.Memory

/-!
# Accesses that are given as text

The expression of an access is built from its name outwards, one index around the other, and what
is indexed can be in parentheses.  Its translation goes the way back and gathers the operands of the
indexes in the order in which they are written, so the text of an access reads what the name and
the operands do.

* `Source.Expr.Spells`: the expression is a name with indexes behind it;
* `Source.Expr.Spells.accessFrom`, `Source.accessOfText_of_spells`: what such an expression is
  translated to;
* `Source.fitsWord_of_toOperand`, `Source.boundValues_closed`: what is written has a value that fits a
  word, so an inclusive range has its bounds and ends behind the upper one;
* `Binding.item_range_congr`: of a range behind indexes, only the values of its bounds matter;
* `Environment.access_eq_item`: reading by text is reading by name and operands.
-/

namespace ArrayCells

namespace Source

/-! ### Names with indexes -/

namespace Expr

/-- The expression is the name with the indexes behind it, from left to right, and parentheses
around any part that begins with the name. -/
inductive Spells (name : String) : Expr → List Expr → Prop
  | name : Spells name (.path (some name)) []
  | index {base : Expr} {es : List Expr} (i : Expr) (inner : Spells name base es) :
      Spells name (.index base i) (es ++ [i])
  | paren {base : Expr} {es : List Expr} (inner : Spells name base es) :
      Spells name (.paren base) es

def isParen : Expr → Bool
  | paren _ => true
  | _ => false

theorem toOperands_append (es fs : List Expr) :
    toOperands (es ++ fs) = do
      let xs ← toOperands es
      let ys ← toOperands fs
      return xs ++ ys := by
  induction es with
  | nil =>
    rw [List.nil_append]
    cases toOperands fs <;> rfl
  | cons e es ih =>
    rw [List.cons_append, toOperands, toOperands, ih]
    cases e.toOperand with
    | error fault => rfl
    | ok x =>
      cases toOperands es with
      | error fault => rfl
      | ok xs => cases toOperands fs <;> rfl

/-- Translating a last index adds its operand at the end. -/
theorem exists_of_toOperands_concat {es : List Expr} {i : Expr} {zs : List Operand}
    (lowered : toOperands (es ++ [i]) = .ok zs) :
    ∃ xs x, toOperands es = .ok xs ∧ i.toOperand = .ok x ∧ zs = xs ++ [x] := by
  rw [toOperands_append] at lowered
  obtain ⟨xs, first, rest⟩ := exists_of_bind_ok lowered
  obtain ⟨ys, second, last⟩ := exists_of_bind_ok rest
  obtain ⟨x, only, none⟩ := exists_of_bind_ok second
  cases none
  cases last
  exact ⟨xs, x, first, only, rfl⟩

/-- **The indexes are gathered from the outermost one inwards** and come out in the order in which
they are written. -/
theorem Spells.accessFrom {name : String} {e : Expr} {es : List Expr} (h : e.Spells name es) :
    ∀ {xs : List Operand} (later : List Operand), toOperands es = .ok xs →
      e.accessFrom later = .ok (name, xs ++ later) := by
  induction h with
  | name =>
    intro xs later lowered
    cases lowered
    rfl
  | index i inner ih =>
    intro zs later lowered
    obtain ⟨xs, x, first, last, rfl⟩ := exists_of_toOperands_concat lowered
    rw [Expr.accessFrom, last, List.append_assoc]
    exact ih (x :: later) first
  | paren inner ih =>
    intro xs later lowered
    rw [Expr.accessFrom]
    exact ih later lowered

end Expr

/-- Unless it is in parentheses as a whole, a name with indexes is an access. -/
theorem accessOfText_of_spells {text name : String} {e : Expr} {es : List Expr} {xs : List Operand}
    (whole : Expr.ofText text = .ok e) (spelled : e.Spells name es) (bare : e.isParen = false)
    (lowered : Expr.toOperands es = .ok xs) : accessOfText text = .ok (name, xs) := by
  have gathered := spelled.accessFrom [] lowered
  rw [List.append_nil] at gathered
  rw [accessOfText, whole]
  cases spelled with
  | name => exact gathered
  | index i inner => exact gathered
  | paren inner => cases bare

/-! ### Values of what is written -/

/-- **What is written has a value that fits a word**, if it has one: literals are checked, and so are
the results of arithmetic. -/
theorem fitsWord_of_toOperand {e : Expr} {x : Operand} {n : Int} (denotes : e.toOperand = .ok x)
    (value : x.toInt = .ok n) : FitsWord n := by
  cases e with
  | integer literal =>
    rw [Expr.toOperand, ite_ok_iff] at denotes
    obtain ⟨fits, rfl⟩ := denotes
    cases value
    exact fits
  | negated e =>
    rw [Expr.toOperand] at denotes
    obtain ⟨y, -, last⟩ := exists_of_bind_ok denotes
    cases last
    obtain ⟨m, -, fits, rfl⟩ := Operand.toInt_neg.mp value
    exact fits
  | arith op a b =>
    rw [Expr.toOperand] at denotes
    obtain ⟨lhs, -, rest⟩ := exists_of_bind_ok denotes
    obtain ⟨rhs, -, last⟩ := exists_of_bind_ok rest
    cases last
    obtain ⟨l, -, r, -, fits, rfl⟩ := Operand.toInt_arith.mp value
    exact fits
  | paren e =>
    rw [Expr.toOperand] at denotes
    obtain ⟨y, inner, last⟩ := exists_of_bind_ok denotes
    cases last
    rw [Operand.toInt] at value
    exact fitsWord_of_toOperand inner value
  | array items =>
    rw [Expr.toOperand] at denotes
    obtain ⟨xs, -, last⟩ := exists_of_bind_ok denotes
    cases last
    cases value
  | range lower upper closed =>
    rw [Expr.toOperand] at denotes
    obtain ⟨lo, -, rest⟩ := exists_of_bind_ok denotes
    obtain ⟨hi, -, last⟩ := exists_of_bind_ok rest
    cases last
    cases value
  | call callee args =>
    by_cases named : callee = .path (some "spread")
    · rw [named, Expr.toOperand] at denotes
      obtain ⟨xs, -, last⟩ := exists_of_bind_ok denotes
      -- what is spread has no value, be it one operand or several
      split at last <;>
        · cases last
          cases value
    · rw [toOperand_call_of_ne args named] at denotes
      cases denotes
  | literal | path | comparison | index | blockLike | other => cases denotes

/-! ### Inclusive ranges -/

/-- The upper bound of an inclusive range is increased by one. -/
theorem toOperand_closed {lower : Option Expr} {upper : Expr} {x : Operand}
    (denotes : (Expr.range lower (some upper) true).toOperand = .ok x) :
    ∃ lo hi, Expr.toBound lower = .ok lo ∧ upper.toOperand = .ok hi ∧
      x = .range lo (some (.arith .add (.group hi) (.int 1))) := by
  rw [Expr.toOperand] at denotes
  obtain ⟨lo, first, rest⟩ := exists_of_bind_ok denotes
  obtain ⟨bound, second, last⟩ := exists_of_bind_ok rest
  rw [Expr.toBound] at second
  obtain ⟨hi, inner, given⟩ := exists_of_bind_ok second
  cases given
  cases last
  exact ⟨lo, hi, first, inner, rfl⟩

/-- The value of a bound that is absent or written down. -/
def Expr.boundValue (bound : Option Expr) : Except Fault (Option Int) := do
  Operand.boundValue (← Expr.toBound bound)

/-- **The inclusive range ends behind its upper bound.**  The bound is the end of a half-open range,
unless the number behind it does not fit a word. -/
theorem boundValues_closed {lower : Option Expr} {upper : Expr} {x : Operand} {m : Option Int}
    {k : Int} (denotes : (Expr.range lower (some upper) true).toOperand = .ok x)
    (first : Expr.boundValue lower = .ok m) (last : Expr.boundValue (some upper) = .ok (some k))
    (below : k < 9223372036854775807) :
    ∃ lo hi, x = .range lo hi ∧ Operand.boundValues (lo, hi) = .ok (m, some (k + 1)) := by
  obtain ⟨lo, hi, denotesLower, denotesUpper, rfl⟩ := toOperand_closed denotes
  refine ⟨lo, _, rfl, ?_⟩
  have low : Operand.boundValue lo = .ok m := by
    rw [Expr.boundValue, denotesLower] at first
    exact first
  have high : hi.toInt = .ok k := by
    rw [Expr.boundValue, Expr.toBound, denotesUpper] at last
    obtain ⟨n, value, same⟩ := Operand.boundValue_some.mp last
    cases same
    exact value
  have fits : FitsWord (k + 1) := by
    have bounds := fitsWord_of_toOperand denotesUpper high
    unfold FitsWord at bounds ⊢
    omega
  have next : (Operand.arith .add (.group hi) (.int 1)).toInt = .ok (k + 1) :=
    Operand.toInt_arith.mpr ⟨k, high, 1, rfl, fits, rfl⟩
  exact Operand.boundValues_ok_iff.mpr ⟨low, Operand.boundValue_some.mpr ⟨k + 1, next, rfl⟩⟩

end Source

/-! ### Ranges behind indexes -/

theorem Access.ofOperandsFrom_range_congr {lo hi lo' hi' : Option Operand}
    (same : Operand.boundValues (lo, hi) = Operand.boundValues (lo', hi')) (l l' : Option String)
    (xs : List Operand) (position count : Nat) :
    ofOperandsFrom position count (xs ++ [.range lo hi l]) =
      ofOperandsFrom position count (xs ++ [.range lo' hi' l']) := by
  induction xs generalizing position with
  | nil => simp only [List.nil_append, ofOperandsFrom, Operand.range?, same]
  | cons x xs ih =>
    rw [List.cons_append, List.cons_append, ofOperandsFrom, ofOperandsFrom, ih]
    -- a range is misplaced here, whatever follows it
    cases x.range? with
    | none => rfl
    | some bounds => cases xs <;> rfl

/-- **Of a range behind indexes, only the values of its bounds matter**, also to what is reported if
the access cannot be evaluated. -/
theorem Binding.item_range_congr {σ : Type} [CellStore σ] (store : σ) (b : Binding)
    {lo hi lo' hi' : Option Operand}
    (same : Operand.boundValues (lo, hi) = Operand.boundValues (lo', hi')) (xs : List Operand)
    (ctx : Context) :
    b.item store (xs ++ [.range lo hi]) ctx = b.item store (xs ++ [.range lo' hi']) ctx := by
  have access : Access.ofOperands (xs ++ [.range lo hi]) =
      Access.ofOperands (xs ++ [.range lo' hi']) := by
    rw [Access.ofOperands, Access.ofOperands, List.length_append, List.length_append]
    exact Access.ofOperandsFrom_range_congr same none none xs 0 _
  rw [item, item, access]

/-! ### Reading by text -/

namespace Environment

variable {σ : Type} [CellStore σ]

/-- **Reading by text is reading by name and operands.**  The indexes of an access can be written
with parentheses around any part but the whole.  An inclusive range as the last index reads what the
half-open one up to the next number does. -/
theorem access_eq_item (env : Environment σ) (ctx : Context) {text name : String} {e : Source.Expr}
    {es : List Source.Expr} {xs : List Operand} (whole : Source.Expr.ofText text = .ok e)
    (spelled : e.Spells name es) (bare : e.isParen = false)
    (lowered : Source.Expr.toOperands es = .ok xs) :
    let direct (indexes : List Operand) : Except Fault Operand :=
      Except.mapError (·.within ctx.place) do
        let b ← env.lookup name
        b.item env.store indexes { ctx with label := some name }
    env.access text ctx = direct xs ∧
      ∀ lower upper m k, es.getLast? = some (.range lower (some upper) true) →
        Source.Expr.boundValue lower = .ok m →
        Source.Expr.boundValue (some upper) = .ok (some k) → k < 9223372036854775807 →
        env.access text ctx =
          direct (xs.dropLast ++ [.range (m.map (.int ·)) (some (.int (k + 1)))]) := by
  intro direct
  have read : env.access text ctx = direct xs := by
    rw [access, Source.accessOfText_of_spells whole spelled bare lowered]
    rfl
  refine ⟨read, fun lower upper m k closed first last below => ?_⟩
  obtain ⟨before, rfl⟩ := List.getLast?_eq_some_iff.mp closed
  obtain ⟨ys, x, -, denotes, rfl⟩ := Source.Expr.exists_of_toOperands_concat lowered
  obtain ⟨lo, hi, rfl, values⟩ := Source.boundValues_closed denotes first last below
  have same : Operand.boundValues (lo, hi) =
      Operand.boundValues (m.map (.int ·), some (.int (k + 1))) := by
    rw [values]
    cases m <;> rfl
  rw [read, List.dropLast_concat]
  show Except.mapError _ _ = Except.mapError _ _
  cases env.lookup name with
  | error fault => rfl
  | ok b => exact congrArg _ (b.item_range_congr env.store same ys _)

/-- The first two columns of a row, which is in parentheses. -/
theorem access_eq_item_row :
    let env := Environment.declare { store := ({} : Memory) } "A" "int" [2, 3] false
    env.access "(A[1])[0..=1]" {} =
        Except.mapError (·.within none) (do
          let b ← env.lookup "A"
          b.item env.store [.int 1, .range (some (.int 0)) (some (.int 2))]
            { label := some "A" }) ∧
      ∃ view, view.shape.lengths = [2] ∧ view.base = ⟨3⟩ ∧
        env.access "(A[1])[0..=1]" {} = .ok (.view view (some "A[1]")) := by
  intro env
  have scanned : Source.tokens? "(A[1])[0..=1]" =
      some [.opening .paren, .name "A", .opening .bracket, .integer 1 false, .closing .bracket,
        .closing .paren, .opening .bracket, .integer 0 false, .punct '.' true, .punct '.' true,
        .punct '=' false, .integer 1 false, .closing .bracket] := by
    decide +kernel
  have whole := Source.Expr.ofText_of_tokens scanned
    (e := .index (.paren (.index (.path (some "A")) (.integer 1)))
      (.range (some (.integer 0)) (some (.integer 1)) true)) rfl
  have head : Source.Expr.Spells "A" _ _ := .name
  have spelled := (head.index (.integer 1)).paren.index
    (.range (some (.integer 0)) (some (.integer 1)) true)
  have read := (access_eq_item env {} whole spelled rfl rfl).2 _ _ _ _ rfl rfl rfl (by decide)
  refine ⟨read, _, ?_, ?_, read⟩
  all_goals rfl

end Environment

end ArrayCells
