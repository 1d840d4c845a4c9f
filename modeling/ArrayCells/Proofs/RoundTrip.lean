import ArrayCells.Proofs.ParsedForm
import ArrayCells.Proofs.Rereading
import ArrayCells.Proofs.Scanning

/-!
# Operands are read again from their text

Nothing is written around an operand to keep it together, so what is read from its text need not be
the operand itself.  It is for all canonical operands, and the plain ones that texts denote are
canonical.

* `Canonical.operandOfText_text`: the text of a canonical operand denotes it;
* `reread_text`: every plain operand that a text denotes is denoted by its own text.
-/

namespace ArrayCells

open Source

theorem operandOfText_of_tokens {text : String} {ts : List Token} {e : Expr}
    (scanned : tokens? text = some ts)
    (read : expression (64 * (ts.length + 2)) true ts = some (e, [])) :
    operandOfText text = e.toOperand := by
  rw [operandOfText, Expr.ofText_of_tokens scanned read]
  rfl

namespace Operand

/-- **The text of a canonical operand denotes it.** -/
theorem Canonical.operandOfText_text {x : Operand} (h : x.Canonical) :
    operandOfText x.text = .ok x := by
  have size : (x.tokens false).length = x.size := rfl
  have read := expression_tokens h (n := 64 * ((x.tokens false).length + 2)) (by omega)
  exact (operandOfText_of_tokens (tokens?_text h) read).trans h.toOperand_toExpr

/-- **Every plain operand that a text denotes is denoted by its own text.** -/
theorem reread_text {s : String} {x : Operand} (read : operandOfText s = .ok x) (plain : x.Plain) :
    operandOfText x.text = .ok x :=
  (canonical_of_operandOfText read plain).operandOfText_text

/-- A closed range is written as the open one with its bound in parentheses. -/
theorem reread_text_closed :
    ∃ x : Operand, operandOfText "1..=2*-3" = .ok x ∧ x.Plain ∧ x.text = "1..(2 * -3) + 1" ∧
      operandOfText x.text = .ok x := by
  have scanned : tokens? "1..=2*-3" = some [.integer 1 false, .punct '.' true, .punct '.' true,
      .punct '=' false, .integer 2 false, .punct '*' true, .punct '-' false, .integer 3 false] := by
    decide +kernel
  have read : operandOfText "1..=2*-3" = .ok (range (some (int 1))
      (some (arith .add (group (arith .mul (int 2) (neg (int 3)))) (int 1)))) :=
    operandOfText_of_tokens scanned (e := .range (some (.integer 1))
      (some (.arith .mul (.integer 2) (.negated (.integer 3)))) true) rfl
  have plain : (range (some (int 1))
      (some (arith .add (group (arith .mul (int 2) (neg (int 3)))) (int 1)))).Plain := by
    simp only [Plain, Throughout, ThroughoutBound]
    decide
  exact ⟨_, read, plain, by decide +kernel, reread_text read plain⟩

/-- What follows a range that has an upper bound is read as a part of the bound. -/
theorem reread_text_bounded :
    ∃ x y : Operand, operandOfText "-..=..+1" = .ok x ∧
      (x.Throughout fun z => z.isSpread = false ∧ z.boundedByRange = false) ∧
      x.text = "-..(..) + 1 + 1" ∧ operandOfText x.text = .ok y ∧ y ≠ x := by
  have scanned : tokens? "-..=..+1" = some [.punct '-' true, .punct '.' true, .punct '.' true,
      .punct '=' true, .punct '.' true, .punct '.' true, .punct '+' false, .integer 1 false] := by
    decide +kernel
  have read : operandOfText "-..=..+1" = .ok (arith .add
      (neg (range none (some (arith .add (group (range none none)) (int 1))))) (int 1)) :=
    operandOfText_of_tokens scanned (e := .arith .add
      (.negated (.range none (some (.range none none false)) true)) (.integer 1)) rfl
  have all : (range none none).Canonical :=
    .range (fun _ bound => by cases bound) (fun _ bound => by cases bound)
      (fun _ bound => by cases bound) (fun _ bound => by cases bound) fun _ bound => by cases bound
  have one : (int 1).Canonical := .int (by decide) (by decide)
  have sum : (arith .add (arith .add (group (range none none)) (int 1)) (int 1)).Canonical :=
    .arith (.arith (.group all) one (by decide) (by decide) rfl rfl fun opened => by cases opened)
      one (by decide) (by decide) rfl rfl fun opened => by cases opened
  have other : (neg (range none
      (some (arith .add (arith .add (group (range none none)) (int 1)) (int 1))))).Canonical := by
    refine .neg (.range (fun _ bound => by cases bound) (fun _ bound => ?_)
      (fun _ bound => by cases bound) (fun _ bound => ?_) fun _ bound => by cases bound) (by decide)
    · cases bound
      exact sum
    · cases bound
      rfl
  refine ⟨_, _, read, ?_, by decide +kernel, other.operandOfText_text, fun same => by cases same⟩
  simp only [Throughout, ThroughoutBound]
  decide

end Operand

end ArrayCells
