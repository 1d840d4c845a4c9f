import ArrayCells.Operand.Text
import ArrayCells.Source.Lowering

/-!
# Operands that are written as they are read

Operands are written without any parentheses of their own, so not every operand is read again from
its text.  `Canonical` tells which ones are: at every place the operator around an operand must not
take it apart, and a range must not take in what follows it.

* `Operand.Throughout`: a property holds of an operand and of everything inside of it;
* `Operand.endsOpen`, `Operand.endsBounded`: whether the last thing that is written is a range
  without or with an upper bound;
* `Operand.Plain`: nothing in the operand is written like something else;
* `Operand.Canonical`, `Canonical.toOperand_toExpr`: a canonical operand is what the expression of
  the same form denotes;
* `Operand.tokens`: the tokens of the written form.
-/

namespace ArrayCells

open Source (Token Precedence Expr)

namespace ArithOp

/-- How tightly the operator holds its operands. -/
def precedence : ArithOp → Precedence
  | add | sub => .sum
  | mul => .product

/-- The character of the operator. -/
def mark : ArithOp → Char
  | add => '+'
  | sub => '-'
  | mul => '*'

theorem toList_symbol (op : ArithOp) : op.symbol.toList = [op.mark] := by
  cases op <;> rfl

theorem range_lt_precedence (op : ArithOp) : Precedence.range.level < op.precedence.level := by
  cases op <;> decide

theorem precedence_lt_cast (op : ArithOp) : op.precedence.level < Precedence.cast.level := by
  cases op <;> decide

end ArithOp

namespace Operand

/-! ### Parts -/

mutual

/-- The property holds of the operand and of everything inside of it. -/
def Throughout (p : Operand → Prop) : Operand → Prop
  | int n l => p (int n l)
  | range lo hi l => p (range lo hi l) ∧ ThroughoutBound p lo ∧ ThroughoutBound p hi
  | view v l => p (view v l)
  | list items title l => p (list items title l) ∧ ThroughoutItems p items
  | spread x l => p (spread x l) ∧ Throughout p x
  | group x l => p (group x l) ∧ Throughout p x
  | neg x l => p (neg x l) ∧ Throughout p x
  | arith op a b l => p (arith op a b l) ∧ Throughout p a ∧ Throughout p b

def ThroughoutBound (p : Operand → Prop) : Option Operand → Prop
  | none => True
  | some x => Throughout p x

def ThroughoutItems (p : Operand → Prop) : List Operand → Prop
  | [] => True
  | x :: xs => Throughout p x ∧ ThroughoutItems p xs

end

theorem Throughout.here {p : Operand → Prop} {x : Operand} (h : x.Throughout p) : p x := by
  cases x <;> simp only [Throughout] at h <;> first | exact h | exact h.1

theorem throughoutItems_iff {p : Operand → Prop} {items : List Operand} :
    ThroughoutItems p items ↔ ∀ x ∈ items, x.Throughout p := by
  induction items with
  | nil => simp only [ThroughoutItems, List.not_mem_nil, false_implies, implies_true]
  | cons x xs ih => simp only [ThroughoutItems, ih, List.forall_mem_cons]

theorem throughoutBound_iff {p : Operand → Prop} {bound : Option Operand} :
    ThroughoutBound p bound ↔ ∀ x ∈ bound, x.Throughout p := by
  cases bound with
  | none => simp only [ThroughoutBound, Option.not_mem_none, false_implies, implies_true]
  | some y => simp only [ThroughoutBound, Option.mem_some_iff, forall_eq']

/-- What the operand consists of directly. -/
def parts : Operand → List Operand
  | int .. | view .. => []
  | range lo hi _ => lo.toList ++ hi.toList
  | list items _ _ => items
  | spread x _ | group x _ | neg x _ => [x]
  | arith _ a b _ => [a, b]

theorem throughout_iff {p : Operand → Prop} {x : Operand} :
    x.Throughout p ↔ p x ∧ ∀ y ∈ x.parts, y.Throughout p := by
  cases x <;> simp only [Throughout, throughoutBound_iff, throughoutItems_iff, parts,
    List.forall_mem_append, List.forall_mem_cons, List.not_mem_nil, false_implies, implies_true,
    and_true, Option.mem_toList, Option.mem_def]

mutual

/-- What holds of an operand if it holds of its parts holds of all operands. -/
theorem induction_on_parts {p : Operand → Prop}
    (step : ∀ x : Operand, (∀ y ∈ x.parts, p y) → p x) : ∀ x : Operand, p x
  | int .. | view .. => step _ (List.forall_mem_nil p)
  | range lo hi _ => step _ (List.forall_mem_append.mpr
      ⟨induction_on_bound step lo, induction_on_bound step hi⟩)
  | list items _ _ => step _ (induction_on_items step items)
  | spread x _ | group x _ | neg x _ =>
    step _ (List.forall_mem_singleton.mpr (induction_on_parts step x))
  | arith _ a b _ => step _ (List.forall_mem_cons.mpr ⟨induction_on_parts step a,
      List.forall_mem_singleton.mpr (induction_on_parts step b)⟩)

theorem induction_on_bound {p : Operand → Prop}
    (step : ∀ x : Operand, (∀ y ∈ x.parts, p y) → p x) :
    ∀ bound : Option Operand, ∀ y ∈ bound.toList, p y
  | none => List.forall_mem_nil p
  | some x => List.forall_mem_singleton.mpr (induction_on_parts step x)

theorem induction_on_items {p : Operand → Prop}
    (step : ∀ x : Operand, (∀ y ∈ x.parts, p y) → p x) : ∀ items : List Operand, ∀ y ∈ items, p y
  | [] => List.forall_mem_nil p
  | x :: rest =>
    List.forall_mem_cons.mpr ⟨induction_on_parts step x, induction_on_items step rest⟩

end

/-- What follows from a property throughout an operand holds throughout it, too. -/
theorem Throughout.imp {p q : Operand → Prop} (follows : ∀ x : Operand, x.Throughout p → q x)
    {x : Operand} (h : x.Throughout p) : x.Throughout q := by
  induction x using induction_on_parts with
  | step x ih =>
    have parts := (throughout_iff.mp h).2
    exact throughout_iff.mpr ⟨follows x h, fun y part => ih y part (parts y part)⟩

/-! ### Where operands end -/

mutual

/-- Whether the last thing that is written is a range operator without an upper bound. -/
def endsOpen : Operand → Bool
  | range _ hi _ => boundEndsOpen hi
  | neg x _ => endsOpen x
  | arith _ _ b _ => endsOpen b
  | int .. | view .. | list .. | spread .. | group .. => false

def boundEndsOpen : Option Operand → Bool
  | none => true
  | some x => endsOpen x

end

/-- If an open range ends the operand, it goes on with none of the tokens. -/
def Opened (x : Operand) (rest : List Token) : Prop :=
  x.endsOpen = true → Source.endsOpenRange true rest = true

/-- Whether the operand ends with a range that has an upper bound. -/
def endsBounded : Operand → Bool
  | range _ hi _ => hi.isSome
  | neg x _ => endsBounded x
  | arith _ _ b _ => endsBounded b
  | int .. | view .. | list .. | spread .. | group .. => false

/-- Whether a bound of the operand is a range without parentheses. -/
def boundedByRange : Operand → Bool
  | range lo hi _ => lo.any isRange || hi.any isRange
  | _ => false

/-- Whether the operand is a binary operation the left operand of which ends with a range that has
an upper bound. -/
def joinsBounded : Operand → Bool
  | arith _ a _ _ => a.endsBounded
  | _ => false

/-- Nothing in the operand stands for its elements, has a range without parentheses as a bound, or
joins something to a range that has an upper bound. -/
def Plain (x : Operand) : Prop :=
  x.Throughout fun y =>
    y.isSpread = false ∧ y.boundedByRange = false ∧ y.joinsBounded = false

/-- How tightly the operand holds together where no parentheses are around it. -/
def tightness : Operand → Nat
  | arith op _ _ _ => op.precedence.level
  | range (some _) _ _ => Precedence.range.level
  | _ => Precedence.cast.level + 1

/-- Nothing is looser than a range. -/
theorem range_le_tightness (x : Operand) : Precedence.range.level ≤ x.tightness := by
  have whole : Precedence.range.level ≤ Precedence.cast.level + 1 := by decide
  cases x with
  | range lo hi l =>
    cases lo with
    | none => exact whole
    | some y => exact Nat.le_refl _
  | arith op a b l => exact Nat.le_of_lt op.range_lt_precedence
  | _ => exact whole

/-- Only a range is as loose as one. -/
theorem range_lt_tightness {x : Operand} (single : x.isRange = false) :
    Precedence.range.level < x.tightness := by
  have whole : Precedence.range.level < Precedence.cast.level + 1 := by decide
  cases x with
  | range lo hi l => cases single
  | arith op a b l => exact op.range_lt_precedence
  | _ => exact whole

/-- What is as tight as an operator is an operation of one that is as tight. -/
theorem exists_arith_of_tightness {x : Operand} {op : ArithOp} (single : x.isRange = false)
    (same : x.tightness = op.precedence.level) :
    ∃ op' a b l, x = arith op' a b l ∧ op'.precedence = op.precedence := by
  have whole : op.precedence.level < Precedence.cast.level + 1 :=
    Nat.lt_succ_of_lt op.precedence_lt_cast
  cases x with
  | arith op' a b l =>
    refine ⟨op', a, b, l, rfl, ?_⟩
    cases op' <;> cases op <;> first | rfl | cases same
  | range lo hi l => cases single
  | _ => exact (Nat.ne_of_gt whole same).elim

namespace Plain

theorem not_spread (x : Operand) (l : Option String) : ¬ (spread x l).Plain := by
  intro h
  have here := h.here.1
  cases here

theorem of_neg {x : Operand} {l : Option String} (h : (neg x l).Plain) : x.Plain := by
  rw [Plain, Throughout] at h
  exact h.2

theorem of_group {x : Operand} {l : Option String} (h : (group x l).Plain) : x.Plain := by
  rw [Plain, Throughout] at h
  exact h.2

theorem of_arith {op : ArithOp} {a b : Operand} {l : Option String} (h : (arith op a b l).Plain) :
    a.Plain ∧ b.Plain ∧ a.endsBounded = false := by
  rw [Plain, Throughout] at h
  exact ⟨h.2.1, h.2.2, h.1.2.2⟩

theorem of_list {items : List Operand} {title l : Option String} (h : (list items title l).Plain) :
    ∀ x ∈ items, x.Plain := by
  rw [Plain, Throughout, throughoutItems_iff] at h
  exact h.2

theorem of_range {lo hi : Option Operand} {l : Option String} (h : (range lo hi l).Plain) :
    (∀ x ∈ lo, x.Plain ∧ x.isRange = false) ∧ ∀ x ∈ hi, x.Plain ∧ x.isRange = false := by
  rw [Plain, Throughout, throughoutBound_iff, throughoutBound_iff] at h
  obtain ⟨⟨-, noRange, -⟩, lower, upper⟩ := h
  rw [boundedByRange, Bool.or_eq_false_iff] at noRange
  refine ⟨fun x bound => ⟨lower x bound, ?_⟩, fun x bound => ⟨upper x bound, ?_⟩⟩
  · rw [Option.mem_def] at bound
    rw [bound] at noRange
    exact noRange.1
  · rw [Option.mem_def] at bound
    rw [bound] at noRange
    exact noRange.2

end Plain

/-! ### Canonical operands -/

/-- An operand that is read from its own text.  Labels and titles are not written, neither are
views, and what stands for its elements is written as a call. -/
inductive Canonical : Operand → Prop
  | int {n : Int} (sign : 0 ≤ n) (fits : FitsWord n) : Canonical (int n)
  | list {items : List Operand} (all : ∀ x ∈ items, Canonical x) : Canonical (list items)
  | group {x : Operand} (inner : Canonical x) : Canonical (group x)
  | neg {x : Operand} (inner : Canonical x) (tight : Precedence.cast.level < x.tightness) :
      Canonical (neg x)
  /-- The left operand is no range and cannot take in the operator; only a plus is left alone by an
  open range. -/
  | arith {op : ArithOp} {a b : Operand} (lhs : Canonical a) (rhs : Canonical b)
      (left : op.precedence.level ≤ a.tightness) (right : op.precedence.level < b.tightness)
      (single : a.isRange = false) (unbounded : a.endsBounded = false)
      (plus : a.endsOpen = true → op = .add) : Canonical (arith op a b)
  | range {lo hi : Option Operand} (lower : ∀ x ∈ lo, Canonical x)
      (upper : ∀ x ∈ hi, Canonical x) (singleLower : ∀ x ∈ lo, x.isRange = false)
      (singleUpper : ∀ x ∈ hi, x.isRange = false) (closed : ∀ x ∈ lo, x.endsOpen = false) :
      Canonical (range lo hi)

mutual

/-- The expression of the same form.  Views and spreads have none. -/
def toExpr : Operand → Expr
  | int n _ => .integer n.toNat
  | range lo hi _ => .range (boundExpr lo) (boundExpr hi) false
  | view .. | spread .. => .literal
  | list items _ _ => .array (itemExprs items)
  | group x _ => .paren (toExpr x)
  | neg x _ => .negated (toExpr x)
  | arith op a b _ => .arith op (toExpr a) (toExpr b)

def boundExpr : Option Operand → Option Expr
  | none => none
  | some x => some (toExpr x)

def itemExprs : List Operand → List Expr
  | [] => []
  | x :: xs => toExpr x :: itemExprs xs

end

theorem isRange_toExpr (x : Operand) : x.toExpr.isRange = x.isRange := by
  cases x <;> simp only [toExpr] <;> rfl

/-- **A canonical operand is what its expression denotes.** -/
theorem Canonical.toOperand_toExpr {x : Operand} (h : x.Canonical) :
    x.toExpr.toOperand = .ok x := by
  have bound : ∀ bound : Option Operand, (∀ y ∈ bound, y.toExpr.toOperand = .ok y) →
      Expr.toBound (boundExpr bound) = .ok bound := by
    intro bound each
    cases bound with
    | none => rfl
    | some y =>
      simp only [boundExpr, Expr.toBound, each y rfl]
      rfl
  have list : ∀ items : List Operand, (∀ y ∈ items, y.toExpr.toOperand = .ok y) →
      Expr.toOperands (itemExprs items) = .ok items := by
    intro items each
    induction items with
    | nil => rfl
    | cons y ys ih =>
      rw [List.forall_mem_cons] at each
      simp only [itemExprs, Expr.toOperands, each.1, ih each.2]
      rfl
  induction h with
  | int sign fits =>
    rw [toExpr, Expr.toOperand, Int.toNat_of_nonneg sign, if_pos fits]
  | list all ih =>
    simp only [toExpr, Expr.toOperand, list _ ih]
    rfl
  | group inner ih =>
    simp only [toExpr, Expr.toOperand, ih]
    rfl
  | neg inner tight ih =>
    simp only [toExpr, Expr.toOperand, ih]
    rfl
  | arith lhs rhs _ _ _ _ _ ihLeft ihRight =>
    simp only [toExpr, Expr.toOperand, ihLeft, ihRight]
    rfl
  | range lower upper _ _ _ ihLower ihUpper =>
    simp only [toExpr, Expr.toOperand, bound _ ihLower, bound _ ihUpper]
    rfl

/-! ### Tokens -/

mutual

/-- Whether a punctuation mark begins the written form. -/
def leads : Operand → Bool
  | range lo _ _ => boundLeads lo true
  | spread .. | neg .. => true
  | arith _ a _ _ => leads a
  | int .. | view .. | list .. | group .. => false

/-- Whether a punctuation mark begins what is written for a bound and what follows it. -/
def boundLeads : Option Operand → Bool → Bool
  | none, joint => joint
  | some x, _ => leads x

end

mutual

/-- The tokens of the written form, if there is no view in the operand; `joint` tells whether a
punctuation mark follows at once. -/
def tokens : Operand → Bool → List Token
  | int n _, _ => [.integer n.toNat false]
  | range lo hi _, joint =>
    boundTokens lo true
      ++ .punct '.' true :: .punct '.' (boundLeads hi joint) :: boundTokens hi joint
  | view .., _ => []
  | list items _ _, _ => .opening .bracket :: itemsTokens items ++ [.closing .bracket]
  | spread x _, joint =>
    .punct '.' true :: .punct '.' true :: .punct '.' (leads x) :: tokens x joint
  | group x _, _ => .opening .paren :: tokens x false ++ [.closing .paren]
  | neg x _, joint => .punct '-' (leads x) :: tokens x joint
  | arith op a b _, joint => tokens a false ++ .punct op.mark false :: tokens b joint

def boundTokens : Option Operand → Bool → List Token
  | none, _ => []
  | some x, joint => tokens x joint

def itemsTokens : List Operand → List Token
  | [] => []
  | [x] => tokens x false
  | x :: y :: rest => tokens x true ++ .punct ',' (leads y) :: itemsTokens (y :: rest)

end

/-- The number of tokens. -/
def size (x : Operand) : Nat :=
  (x.tokens false).length

mutual

theorem length_tokens : ∀ (x : Operand) (joint : Bool), (x.tokens joint).length = x.size
  | int .., _ => rfl
  | range lo hi l, joint => by
    simp only [size, tokens, List.length_append, List.length_cons, length_boundTokens hi joint]
  | view .., _ => rfl
  | list .., _ => rfl
  | spread x l, joint => by
    simp only [size, tokens, List.length_cons, length_tokens x joint]
  | group .., _ => rfl
  | neg x l, joint => by
    simp only [size, tokens, List.length_cons, length_tokens x joint]
  | arith op a b l, joint => by
    simp only [size, tokens, List.length_append, List.length_cons, length_tokens b joint]

theorem length_boundTokens : ∀ (bound : Option Operand) (joint : Bool),
    (boundTokens bound joint).length = (boundTokens bound false).length
  | none, _ => rfl
  | some x, joint => length_tokens x joint

end

theorem size_group (x : Operand) (l : Option String) : (group x l).size = x.size + 2 := by
  simp only [size, tokens, List.cons_append, List.length_cons, List.length_append, List.length_nil]

theorem size_neg (x : Operand) (l : Option String) : (neg x l).size = x.size + 1 := rfl

theorem size_arith (op : ArithOp) (a b : Operand) (l : Option String) :
    (arith op a b l).size = a.size + b.size + 1 := by
  simp only [size, tokens, List.length_cons, List.length_append, Nat.add_assoc]

theorem size_range (lo hi : Option Operand) (l : Option String) :
    (range lo hi l).size = lo.elim 0 size + hi.elim 0 size + 2 := by
  have bound : ∀ (bound : Option Operand) (joint : Bool),
      (boundTokens bound joint).length = bound.elim 0 size := by
    intro bound joint
    cases bound with
    | none => rfl
    | some x => exact length_tokens x joint
  simp only [size, tokens, List.length_cons, List.length_append, bound, Nat.add_assoc]

theorem size_list (items : List Operand) (title l : Option String) :
    (list items title l).size = (itemsTokens items).length + 2 := by
  simp only [size, tokens, List.cons_append, List.length_cons, List.length_append, List.length_nil]

end Operand

end ArrayCells
