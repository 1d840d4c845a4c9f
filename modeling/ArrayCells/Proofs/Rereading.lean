import ArrayCells.Proofs.Readers
import ArrayCells.Proofs.WrittenForm

/-!
# Reading the tokens of canonical operands

The tokens of a canonical operand are read as the expression of the same form, whatever stands
behind them that can follow it.  Operators are read by climbing, from the leftmost operand outwards;
so what is proved of an operand says how the reader goes on after it.

* `Boundary`, `Follows`: what can stand behind an operand;
* `Reads`: what each reader does with the tokens of an operand, with one lemma for each kind of it;
* `reads_of_canonical`, `expression_tokens`: it holds of all canonical operands.
-/

namespace ArrayCells.Source

open Reader Operand

/-! ### What can follow an operand -/

/-- Tokens that can follow an operand in a written form. -/
inductive Boundary : List Token → Prop
  | none : Boundary []
  | closing (d : Delimiter) (ts : List Token) : Boundary (.closing d :: ts)
  | comma (joint : Bool) (ts : List Token) : Boundary (.punct ',' joint :: ts)
  | operator (op : ArithOp) (ts : List Token) : Boundary (.punct op.mark false :: ts)
  | dots (joint : Bool) (ts : List Token) :
      Boundary (.punct '.' true :: .punct '.' joint :: ts)

/-- What follows joins to an expression, if at all, with at most the given strength. -/
def JoinsAtMost (level : Nat) (ts : List Token) : Prop :=
  ∀ j, junction? ts = some j → j.precedence.level ≤ level

theorem junction?_operator (op : ArithOp) (ts : List Token) :
    junction? (.punct op.mark false :: ts) =
      some (.binary ⟨op.symbol, op.precedence, some op⟩) := by
  cases op <;> rfl

theorem junction?_dots (joint : Bool) (ts : List Token) :
    junction? (.punct '.' true :: .punct '.' joint :: ts) = some .range := rfl

theorem joinsAtMost_of_none {ts : List Token} (h : junction? ts = none) (level : Nat) :
    JoinsAtMost level ts := by
  intro j joins
  rw [h] at joins
  cases joins

theorem joinsAtMost_operator (op : ArithOp) (ts : List Token) :
    JoinsAtMost op.precedence.level (.punct op.mark false :: ts) := by
  intro j joins
  rw [junction?_operator] at joins
  rw [← Option.some.inj joins]
  exact Nat.le_refl _

theorem joinsAtMost_dots (joint : Bool) (ts : List Token) :
    JoinsAtMost Precedence.range.level (.punct '.' true :: .punct '.' joint :: ts) := by
  intro j joins
  rw [junction?_dots] at joins
  rw [← Option.some.inj joins]
  exact Nat.le_refl _

theorem JoinsAtMost.mono {level level' : Nat} {ts : List Token} (h : JoinsAtMost level ts)
    (le : level ≤ level') : JoinsAtMost level' ts :=
  fun j joins => Nat.le_trans (h j joins) le

/-- Tokens with which the written form of an operand begins that is no range. -/
inductive Start : List Token → Prop
  | integer (value : Nat) (ts : List Token) : Start (.integer value false :: ts)
  | opening (d : Delimiter) (ts : List Token) : Start (.opening d :: ts)
  | minus (joint : Bool) {ts : List Token} (noEquals : isMark "=" ts = false) :
      Start (.punct '-' joint :: ts)

/-! ### Single steps -/

section

variable {n : Nat} {ts rest : List Token}

theorem trailers_boundary (h : Boundary ts) (e : Expr) :
    trailers (n + 1) e ts = some (e, ts) := by
  have paren : isOpening .paren ts = false := by cases h <;> rfl
  have bracket : isOpening .bracket ts = false := by cases h <;> rfl
  have point : isPoint ts = false := by
    cases h with
    | operator op ts => cases op <;> rfl
    | _ => rfl
  have question : isMark "?" ts = false := by
    cases h with
    | operator op ts => cases op <;> rfl
    | _ => rfl
  rw [trailers]
  simp only [bind_apply, seesOpening_apply, paren, bracket, Bool.false_eq_true, if_false]
  cases e.isRange with
  | true => rfl
  | false =>
    simp only [bind_apply, sees_apply, optionalMark_apply, point, question, Bool.false_eq_true,
      if_false]
    rfl

/-- Whether something begins that stands before an operand. -/
def beginsPrefix (ts : List Token) : Bool :=
  ["#", "&", "-", "*", "!"].any fun op => isMark op ts

theorem unary_of_atom (plain : beginsPrefix ts = false)
    {e : Expr} (read : atom (n + 1) true ts = some (e, rest)) (stop : Boundary rest) :
    unary (n + 2) true ts = some (e, rest) := by
  simp only [beginsPrefix, List.any_cons, Bool.or_eq_false_iff] at plain
  obtain ⟨hash, ampersand, minus, star, bang, -⟩ := plain
  rw [unary]
  simp only [bind_apply, seesMark_apply, optionalMark_apply, attributes_of_none hash, hash,
    ampersand, minus, star, bang, Bool.or_false, Bool.false_and, Bool.false_eq_true, if_false,
    read, trailers_boundary stop]
  rfl

theorem unary_minus {e : Expr} (joint : Bool) (read : unary (n + 1) true ts = some (e, rest)) :
    unary (n + 2) true (.punct '-' joint :: ts) = some (.negated e, rest) := by
  have hash : isMark "#" (.punct '-' joint :: ts) = false := rfl
  have ampersand : isMark "&" (.punct '-' joint :: ts) = false := rfl
  have minus : isMark "-" (.punct '-' joint :: ts) = true := rfl
  have dropped : (Token.punct '-' joint :: ts).drop "-".length = ts := rfl
  rw [unary]
  simp only [bind_apply, seesMark_apply, optionalMark_apply, attributes_of_none hash, ampersand,
    minus, dropped, Bool.false_eq_true, if_false, if_true, read]
  rfl

theorem atom_integer (value : Nat) (suffixed : Bool) :
    atom (n + 1) true (.integer value suffixed :: ts) = some (.integer value, ts) := rfl

theorem atom_parens {e : Expr} {d : Delimiter} (something : isEnd ts = false)
    (read : expression n true ts = some (e, .closing d :: rest)) :
    atom (n + 2) true (.opening .paren :: ts) = some (.paren e, rest) := by
  show parenthesized (n + 1) (.opening .paren :: ts) = _
  rw [parenthesized]
  refine enclosed_apply (c := d) ?_
  simp only [bind_apply, atEnd_apply, something, Bool.false_eq_true, if_false, read]
  rfl

theorem atom_dots (joint : Bool) :
    atom (n + 1) true (.punct '.' true :: .punct '.' joint :: ts) =
      range n true none (.punct '.' true :: .punct '.' joint :: ts) := rfl

theorem isMark_dots_equals (joint : Bool) (ts : List Token) :
    isMark "..=" (.punct '.' true :: .punct '.' joint :: ts) = (joint && isMark "=" ts) := by
  show (true && true && (true && joint && isMark "=" ts)) = _
  rw [Bool.and_self, Bool.true_and, Bool.true_and]

theorem isMark_dots_dot (joint : Bool) (ts : List Token) :
    isMark "..." (.punct '.' true :: .punct '.' joint :: ts) = (joint && isMark "." ts) := by
  show (true && true && (true && joint && isMark "." ts)) = _
  rw [Bool.and_self, Bool.true_and, Bool.true_and]

/-- A range operator is no more than its two points. -/
theorem range_of_dots {lower : Option Expr} (joint : Bool) (noEquals : isMark "=" ts = false)
    (noDot : isMark "." ts = false) :
    range (n + 1) true lower (.punct '.' true :: .punct '.' joint :: ts) =
      (if endsOpenRange true ts = true then some (.range lower none false, ts)
      else match operand n true .range ts with
        | some (e, rest) => some (.range lower (some e) false, rest)
        | none => none) := by
  have dots : isMark ".." (.punct '.' true :: .punct '.' joint :: ts) = true := rfl
  have dropped : (Token.punct '.' true :: Token.punct '.' joint :: ts).drop "..".length = ts := rfl
  rw [range]
  simp only [bind_apply, optionalMark_apply, seesMark_apply, isMark_dots_equals, isMark_dots_dot,
    noEquals, noDot, Bool.and_false, Bool.false_eq_true, if_false, mark_of_isMark dots, dropped,
    sees_apply]
  cases endsOpenRange true ts with
  | true => rfl
  | false =>
    simp only [Bool.false_eq_true, if_false, bind_apply]
    cases operand n true .range ts <;> rfl

theorem range_open {lower : Option Expr} (joint : Bool) (follows : Boundary ts)
    (ends : endsOpenRange true ts = true) :
    range (n + 1) true lower (.punct '.' true :: .punct '.' joint :: ts) =
      some (.range lower none false, ts) := by
  have noEquals : isMark "=" ts = false := by
    cases follows with
    | operator op ts => cases op <;> rfl
    | _ => rfl
  have noDot : isMark "." ts = false := by
    cases follows with
    | operator op ts => cases op <;> rfl
    | dots joint ts => cases ends
    | _ => rfl
  rw [range_of_dots joint noEquals noDot, if_pos ends]

theorem range_bounded {lower : Option Expr} {e : Expr} (joint : Bool) (begins : Start ts)
    (read : operand n true .range ts = some (e, rest)) :
    range (n + 1) true lower (.punct '.' true :: .punct '.' joint :: ts) =
      some (.range lower (some e) false, rest) := by
  have noEquals : isMark "=" ts = false := by cases begins <;> rfl
  have noDot : isMark "." ts = false := by cases begins <;> rfl
  have goesOn : endsOpenRange true ts = false := by
    cases begins with
    | @minus joint ts after =>
      have twoMarks : isMark "-=" (.punct '-' joint :: ts) = false := by
        show (true && joint && isMark "=" ts) = false
        rw [after, Bool.and_false]
      show (isMark "-=" (.punct '-' joint :: ts) || _) = false
      rw [twoMarks]
      rfl
    | _ => rfl
  rw [range_of_dots joint noEquals noDot, goesOn, if_neg Bool.false_ne_true, read]

theorem climb_of_range {base : Precedence} {lhs : Expr} (range : lhs.isRange = true) :
    climb (n + 1) true base lhs ts = some (lhs, ts) := by
  rw [climb, if_pos range]
  rfl

theorem climb_of_looser {base : Precedence} {lhs : Expr}
    (looser : ∀ j, junction? ts = some j → j.precedence.level < base.level) :
    climb (n + 1) true base lhs ts = some (lhs, ts) := by
  rw [climb]
  cases lhs.isRange with
  | true => rfl
  | false =>
    simp only [Bool.false_eq_true, if_false, bind_apply, get_apply]
    cases joins : junction? ts with
    | none => rfl
    | some j =>
      have less : j.precedence < base := looser j joins
      simp only [if_pos less]
      rfl

theorem climb_operator {base : Precedence} {lhs rhs : Expr} (op : ArithOp)
    (single : lhs.isRange = false) (tight : base.level ≤ op.precedence.level)
    (read : operand n true op.precedence ts = some (rhs, rest)) :
    climb (n + 1) true base lhs (.punct op.mark false :: ts) =
      climb n true base (.arith op lhs rhs) rest := by
  have joins : ¬ op.precedence < base := Nat.not_lt.mpr tight
  have notCompare : (op.precedence == Precedence.compare) = false := by cases op <;> rfl
  have dropped : (Token.punct op.mark false :: ts).drop op.symbol.length = ts := by
    cases op <;> rfl
  rw [climb]
  simp only [single, Bool.false_eq_true, if_false, bind_apply, get_apply, junction?_operator,
    Junction.precedence, joins, notCompare, Bool.false_and, skip_apply, dropped, read]
  rfl

theorem climb_dots {base : Precedence} {lhs e : Expr} (joint : Bool)
    (single : lhs.isRange = false) (loose : base.level ≤ Precedence.range.level)
    (read : range n true (some lhs) (.punct '.' true :: .punct '.' joint :: ts) = some (e, rest)) :
    climb (n + 1) true base lhs (.punct '.' true :: .punct '.' joint :: ts) =
      climb n true base e rest := by
  have joins : ¬ Precedence.range < base := Nat.not_lt.mpr loose
  rw [climb]
  simp only [single, Bool.false_eq_true, if_false, bind_apply, get_apply, junction?_dots,
    Junction.precedence, joins, read]

theorem extend_of_joinsAtMost {p : Precedence} {e : Expr}
    (value : Precedence.assign.level < p.level) (joins : JoinsAtMost p.level ts) :
    extend (n + 1) true p e ts = some (e, ts) := by
  rw [extend]
  simp only [bind_apply, get_apply]
  cases junction : junction? ts with
  | none => rfl
  | some j =>
    have loose : decide (p < j.precedence) = false :=
      decide_eq_false (Nat.not_lt.mpr (joins j junction))
    have noAssign : (p == Precedence.assign) = false := by
      rw [beq_eq_false_iff_ne]
      rintro rfl
      exact Nat.lt_irrefl _ value
    simp only [loose, noAssign, Bool.and_false, Bool.or_false, Bool.false_eq_true, if_false]
    rfl

theorem extend_operator {p : Precedence} {e longer : Expr} (op : ArithOp)
    (tighter : p.level < op.precedence.level)
    (read : climb n true op.precedence e (.punct op.mark false :: ts) = some (longer, rest))
    (shorter : rest.length ≤ ts.length) :
    extend (n + 1) true p e (.punct op.mark false :: ts) = extend n true p longer rest := by
  have less :
      decide (p < (Junction.binary ⟨op.symbol, op.precedence, some op⟩).precedence) = true :=
    decide_eq_true tighter
  have progress : (rest.length == (Token.punct op.mark false :: ts).length) = false := by
    rw [List.length_cons, beq_eq_false_iff_ne]
    omega
  rw [extend]
  simp only [bind_apply, get_apply, junction?_operator, less, Bool.true_or, if_true]
  simp only [Junction.precedence, read, progress, Bool.false_eq_true, if_false]

end

/-! ### What written forms begin with -/

theorem tokens_not_equals {x : Operand} (h : x.Canonical) (joint : Bool) (rest : List Token) :
    isMark "=" (x.tokens joint ++ rest) = false := by
  induction h generalizing joint rest with
  | int | list | group | neg => rfl
  | @arith op a b lhs _ _ _ _ _ _ ihLeft _ =>
    rw [tokens, List.append_assoc]
    exact ihLeft false _
  | @range lo hi _ _ _ _ _ ihLower _ =>
    rw [tokens, List.append_assoc]
    cases lo with
    | none => rfl
    | some x => exact ihLower x rfl true _

theorem start_tokens {x : Operand} (h : x.Canonical) (single : x.isRange = false) (joint : Bool)
    (rest : List Token) : Start (x.tokens joint ++ rest) := by
  induction h generalizing joint rest with
  | int => exact .integer _ _
  | list | group => exact .opening _ _
  | neg inner tight ih => exact .minus _ (tokens_not_equals inner joint rest)
  | arith lhs _ _ _ singleLeft _ _ ihLeft _ =>
    rw [tokens, List.append_assoc]
    exact ihLeft singleLeft false _
  | range => cases single

theorem Start.not_end {ts : List Token} (h : Start ts) : isEnd ts = false := by
  cases h <;> rfl

theorem isEnd_tokens {x : Operand} (h : x.Canonical) (joint : Bool) (rest : List Token) :
    isEnd (x.tokens joint ++ rest) = false := by
  cases single : x.isRange with
  | false => exact (start_tokens h single joint rest).not_end
  | true =>
    cases h with
    | @range lo hi lower _ singleLower =>
      rw [tokens, List.append_assoc]
      cases lo with
      | none => rfl
      | some y => exact (start_tokens (lower y rfl) (singleLower y rfl) true _).not_end
    | _ => cases single

/-! ### Reading operands -/

/-- The tokens can follow the operand: they do not take it apart, and a range at its end goes on
with none of them. -/
structure Follows (x : Operand) (rest : List Token) : Prop where
  boundary : Boundary rest
  loose : JoinsAtMost x.tightness rest
  bounded : x.endsBounded = true → JoinsAtMost Precedence.range.level rest
  opened : x.Opened rest

namespace Follows

variable {x : Operand} {rest : List Token}

/-- What closes brackets, and commas, follow every operand. -/
theorem of_ends (boundary : Boundary rest) (none : junction? rest = none)
    (ends : endsOpenRange true rest = true) : Follows x rest where
  boundary := boundary
  loose := joinsAtMost_of_none none _
  bounded _ := joinsAtMost_of_none none _
  opened _ := ends

theorem closing (d : Delimiter) (ts : List Token) : Follows x (.closing d :: ts) :=
  of_ends (.closing d ts) rfl rfl

theorem comma (joint : Bool) (ts : List Token) : Follows x (.punct ',' joint :: ts) :=
  of_ends (.comma joint ts) rfl rfl

theorem end_ : Follows x [] :=
  of_ends .none rfl rfl

/-- An operator follows its left operand. -/
theorem operator {op : ArithOp} {a b : Operand} (h : (arith op a b).Canonical) (ts : List Token) :
    Follows a (.punct op.mark false :: ts) := by
  cases h with
  | arith lhs rhs left right single unbounded plus =>
    refine ⟨.operator op ts, (joinsAtMost_operator op ts).mono left, fun bounded => ?_,
      fun opened => ?_⟩
    · rw [unbounded] at bounded
      cases bounded
    · rw [plus opened]
      rfl

/-- A range operator follows its lower bound. -/
theorem dots (closed : x.endsOpen = false) (joint : Bool) (ts : List Token) :
    Follows x (.punct '.' true :: .punct '.' joint :: ts) := by
  refine ⟨.dots joint ts, (joinsAtMost_dots joint ts).mono x.range_le_tightness,
    fun _ => joinsAtMost_dots joint ts, fun opened => ?_⟩
  rw [closed] at opened
  cases opened

/-- What follows an operation follows its right operand. -/
theorem right {op : ArithOp} {a b : Operand} {l : Option String}
    (h : Follows (arith op a b l) rest) (tight : op.precedence.level < b.tightness) :
    Follows b rest :=
  ⟨h.boundary, h.loose.mono (Nat.le_of_lt tight), h.bounded, h.opened⟩

/-- What follows a range follows its upper bound. -/
theorem upper {lo : Option Operand} {l : Option String}
    (h : Follows (Operand.range lo (some x) l) rest) : Follows x rest := by
  have bounded : JoinsAtMost Precedence.range.level rest := h.bounded rfl
  exact ⟨h.boundary, bounded.mono x.range_le_tightness, fun _ => bounded, h.opened⟩

theorem negated {l : Option String} (h : Follows (neg x l) rest)
    (tight : Precedence.cast.level < x.tightness) : Follows x rest :=
  ⟨h.boundary, h.loose.mono tight, h.bounded, h.opened⟩

end Follows

/-- **What the readers of expressions do with the tokens of an operand.**  An operand in which no
operator is outermost is read at once.  Of any other one the leftmost operand is read at first, and
the reader that goes on from there comes to its end; what it does after that is left open. -/
structure Reads (x : Operand) : Prop where
  unary : Precedence.cast.level < x.tightness → ∀ {joint : Bool} {rest : List Token},
    Follows x rest → ∀ {n : Nat}, 8 * x.size ≤ n →
      Source.unary n true (x.tokens joint ++ rest) = some (x.toExpr, rest)
  climb : x.isRange = false → ∀ {joint : Bool} {rest : List Token}, Follows x rest →
    ∀ {base : Precedence} (least : Nat) {outcome : Option (Expr × List Token)},
      base.level ≤ x.tightness →
      (∀ n, least ≤ n → Source.climb n true base x.toExpr rest = outcome) →
      ∀ {n : Nat}, least + 8 * x.size ≤ n →
        (Source.unary n true >>= Source.climb n true base) (x.tokens joint ++ rest) = outcome
  /-- The run of operators that are as tight as the outermost one is read in one go. -/
  run : ∀ {op : ArithOp} {a b : Operand} {l : Option String}, x = arith op a b l →
    ∀ {joint : Bool} {rest : List Token}, Follows x rest →
    ∀ {p : Precedence} {longer : Expr} {after : List Token} {least : Nat}
      {outcome : Option (Expr × List Token)},
      Precedence.assign.level < p.level → p.level < op.precedence.level →
      (∀ n, least ≤ n →
        Source.climb n true op.precedence x.toExpr rest = some (longer, after)) →
      after.length ≤ rest.length →
      (∀ n, least ≤ n → Source.extend n true p longer after = outcome) →
      ∀ {n : Nat}, least + 8 * x.size ≤ n →
        (Source.unary n true >>= Source.extend n true p) (x.tokens joint ++ rest) = outcome
  expression : ∀ (joint : Bool) {rest : List Token}, Follows x rest → junction? rest = none →
    ∀ {n : Nat}, 8 * x.size + 2 ≤ n →
      Source.expression n true (x.tokens joint ++ rest) = some (x.toExpr, rest)

namespace Reads

variable {x : Operand}

/-- Where nothing can be joined, an expression is what climbing from its first operand gives. -/
theorem expression_of_climb
    (climb : ∀ {joint : Bool} {rest : List Token}, Follows x rest →
      ∀ (least : Nat) {outcome : Option (Expr × List Token)},
      (∀ n, least ≤ n → Source.climb n true .jump x.toExpr rest = outcome) →
      ∀ {n : Nat}, least + 8 * x.size ≤ n →
        (Source.unary n true >>= Source.climb n true .jump) (x.tokens joint ++ rest) = outcome)
    {joint : Bool} {rest : List Token} (follows : Follows x rest) (none : junction? rest = none)
    {n : Nat} (enough : 8 * x.size + 2 ≤ n) :
    Source.expression n true (x.tokens joint ++ rest) = some (x.toExpr, rest) := by
  obtain ⟨n, rfl⟩ : ∃ m, n = m + 1 := ⟨n - 1, by omega⟩
  rw [Source.expression]
  refine climb follows 1 (fun m positive => ?_) (by omega)
  obtain ⟨m, rfl⟩ : ∃ k, m = k + 1 := ⟨m - 1, by omega⟩
  refine climb_of_looser fun j joins => ?_
  rw [none] at joins
  cases joins

/-- Without an operator that is outermost, there is only one thing to read. -/
theorem of_unary (tight : Precedence.cast.level < x.tightness)
    (read : ∀ {joint : Bool} {rest : List Token}, Follows x rest → ∀ {n : Nat}, 8 * x.size ≤ n →
      Source.unary n true (x.tokens joint ++ rest) = some (x.toExpr, rest)) : Reads x where
  unary _ := read
  climb _ joint rest follows base least outcome loose goesOn n enough := by
    rw [bind_of_some (read follows (by omega))]
    exact goesOn n (by omega)
  run {op _ _ _} same := by
    rw [same] at tight
    exact (Nat.lt_asymm tight op.precedence_lt_cast).elim
  expression joint rest follows none n enough := by
    obtain ⟨n, rfl⟩ : ∃ m, n = m + 2 := ⟨n - 2, by omega⟩
    rw [Source.expression, bind_of_some (read follows (by omega))]
    cases single : x.isRange with
    | true => exact climb_of_range (x.isRange_toExpr.trans single)
    | false =>
      refine climb_of_looser fun j joins => ?_
      rw [none] at joins
      cases joins

/-- An operand inside of a looser operator is read up to its end, where the reader goes on. -/
theorem extend (h : Reads x) {p : Precedence} (value : Precedence.assign.level < p.level)
    (tight : p.level < x.tightness) {joint : Bool} {rest : List Token} (follows : Follows x rest)
    (ends : ∀ j, junction? rest = some j → j.precedence.level < x.tightness) (least : Nat)
    {outcome : Option (Expr × List Token)}
    (goesOn : ∀ n, least ≤ n → Source.extend n true p x.toExpr rest = outcome)
    (positive : 0 < least) {n : Nat} (enough : least + 8 * x.size ≤ n) :
    (Source.unary n true >>= Source.extend n true p) (x.tokens joint ++ rest) = outcome := by
  by_cases whole : Precedence.cast.level < x.tightness
  · rw [bind_of_some (h.unary whole follows (by omega))]
    exact goesOn n (by omega)
  · cases x with
    | arith op a b l =>
      have stops : ∀ m, least ≤ m →
          Source.climb m true op.precedence (arith op a b l).toExpr rest =
            some ((arith op a b l).toExpr, rest) := by
        intro m large
        obtain ⟨m, rfl⟩ : ∃ k, m = k + 1 := ⟨m - 1, by omega⟩
        exact climb_of_looser ends
      exact h.run rfl follows value tight stops (Nat.le_refl _) goesOn enough
    | range lo hi l =>
      cases lo with
      | none => exact (whole (Nat.lt_succ_self _)).elim
      | some y =>
        have bounds : Precedence.assign.level + 1 = Precedence.range.level := rfl
        have loosest : p.level < Precedence.range.level := tight
        omega
    | _ => exact (whole (Nat.lt_succ_self _)).elim

/-- **The right operand of an operator is read up to the next one that is not tighter.** -/
theorem operand (h : Reads x) {p : Precedence} (value : Precedence.assign.level < p.level)
    (tight : p.level < x.tightness) (joint : Bool) {rest : List Token} (follows : Follows x rest)
    (joins : JoinsAtMost p.level rest) {n : Nat} (enough : 8 * x.size + 2 ≤ n) :
    Source.operand n true p (x.tokens joint ++ rest) = some (x.toExpr, rest) := by
  obtain ⟨n, rfl⟩ : ∃ m, n = m + 1 := ⟨n - 1, by omega⟩
  rw [Source.operand]
  refine h.extend value tight follows (fun j joined => Nat.lt_of_le_of_lt (joins j joined) tight)
    1 (fun m positive => ?_) Nat.one_pos (by omega)
  obtain ⟨m, rfl⟩ : ∃ k, m = k + 1 := ⟨m - 1, by omega⟩
  exact extend_of_joinsAtMost value joins

theorem int {n : Int} : Reads (Operand.int n) := by
  refine of_unary (Nat.lt_succ_self _) fun {joint rest} follows {m} enough => ?_
  have size : (Operand.int n).size = 1 := rfl
  obtain ⟨m, rfl⟩ : ∃ k, m = k + 2 := ⟨m - 2, by omega⟩
  exact unary_of_atom rfl (atom_integer n.toNat false) follows.boundary

theorem group (canonical : x.Canonical) (h : Reads x) : Reads (Operand.group x) := by
  refine of_unary (Nat.lt_succ_self _) fun {joint rest} follows {m} enough => ?_
  rw [size_group] at enough
  obtain ⟨m, rfl⟩ : ∃ k, m = k + 3 := ⟨m - 3, by omega⟩
  have form : (Operand.group x).tokens joint ++ rest =
      .opening .paren :: (x.tokens false ++ .closing .paren :: rest) := by
    simp only [tokens, List.cons_append, List.append_assoc, List.nil_append]
  rw [form]
  exact unary_of_atom rfl (atom_parens (d := .paren) (isEnd_tokens canonical false _)
    (h.expression false (.closing .paren rest) rfl (by omega))) follows.boundary

theorem neg (tight : Precedence.cast.level < x.tightness) (h : Reads x) :
    Reads (Operand.neg x) := by
  refine of_unary (Nat.lt_succ_self _) fun {joint rest} follows {m} enough => ?_
  rw [size_neg] at enough
  obtain ⟨m, rfl⟩ : ∃ k, m = k + 2 := ⟨m - 2, by omega⟩
  exact unary_minus x.leads (h.unary tight (follows.negated tight) (by omega))

/-- A range operator and the upper bound, after the lower bound has been read. -/
theorem range_upper {hi : Option Operand} (upper : ∀ y ∈ hi, y.Canonical)
    (single : ∀ y ∈ hi, y.isRange = false) (h : ∀ y ∈ hi, Reads y) {lo : Option Operand}
    {joint : Bool} {rest : List Token} (follows : Follows (Operand.range lo hi) rest)
    (lower : Option Expr) {n : Nat} (enough : 8 * hi.elim 0 size + 3 ≤ n) :
    Source.range n true lower
        (.punct '.' true :: .punct '.' (boundLeads hi joint) :: (boundTokens hi joint ++ rest)) =
      some (.range lower (boundExpr hi) false, rest) := by
  obtain ⟨n, rfl⟩ : ∃ m, n = m + 1 := ⟨n - 1, by omega⟩
  cases hi with
  | none => exact range_open _ follows.boundary (follows.opened rfl)
  | some y =>
    have value : Precedence.assign.level < Precedence.range.level := by decide
    have start := start_tokens (upper y rfl) (single y rfl) joint rest
    have read := (h y rfl).operand value (range_lt_tightness (single y rfl)) joint
      follows.upper (follows.bounded rfl) (n := n) (by rw [Option.elim_some] at enough; omega)
    exact range_bounded _ start read

theorem prefix_range {hi : Option Operand} (upper : ∀ y ∈ hi, y.Canonical)
    (single : ∀ y ∈ hi, y.isRange = false) (h : ∀ y ∈ hi, Reads y) :
    Reads (Operand.range none hi) := by
  refine of_unary (Nat.lt_succ_self _) fun {joint rest} follows {m} enough => ?_
  rw [size_range] at enough
  obtain ⟨m, rfl⟩ : ∃ k, m = k + 2 := ⟨m - 2, by omega⟩
  refine unary_of_atom rfl ?_ follows.boundary
  exact (atom_dots _).trans (range_upper upper single h follows none
    (by rw [Option.elim_none] at enough; omega))

theorem infix_range {lo : Operand} {hi : Option Operand} (closed : lo.endsOpen = false)
    (singleLower : lo.isRange = false) (readLower : Reads lo)
    (upper : ∀ y ∈ hi, y.Canonical) (single : ∀ y ∈ hi, y.isRange = false)
    (h : ∀ y ∈ hi, Reads y) : Reads (Operand.range (some lo) hi) where
  unary tight := absurd tight (by
    show ¬ Precedence.cast.level < Precedence.range.level
    decide)
  climb wrong := by cases wrong
  run wrong := by cases wrong
  expression joint rest follows none n enough := by
    rw [size_range, Option.elim_some] at enough
    obtain ⟨n, rfl⟩ : ∃ m, n = m + 1 := ⟨n - 1, by omega⟩
    have form : (Operand.range (some lo) hi).tokens joint ++ rest =
        lo.tokens true ++ (.punct '.' true :: .punct '.' (boundLeads hi joint) ::
          (boundTokens hi joint ++ rest)) := by
      simp only [tokens, boundTokens, List.append_assoc, List.cons_append]
    rw [Source.expression, form]
    refine readLower.climb singleLower (Follows.dots closed _ _) (8 * hi.elim 0 size + 5)
      (Nat.zero_le _) (fun m large => ?_) (by omega)
    obtain ⟨m, rfl⟩ : ∃ k, m = k + 2 := ⟨m - 2, by omega⟩
    rw [climb_dots _ (lo.isRange_toExpr.trans singleLower) (Nat.zero_le _)
      (range_upper upper single h follows _ (by omega))]
    exact climb_of_range rfl

/-- An operator and its right operand, after the left operand has been read. -/
theorem climb_right {op : ArithOp} {a b : Operand} (single : a.isRange = false)
    (right : op.precedence.level < b.tightness) (h : Reads b) {joint : Bool} {rest : List Token}
    (follows : Follows (Operand.arith op a b) rest) {base : Precedence} {least : Nat}
    {outcome : Option (Expr × List Token)} (loose : base.level ≤ op.precedence.level)
    (goesOn : ∀ n, least ≤ n →
      Source.climb n true base (Operand.arith op a b).toExpr rest = outcome)
    {n : Nat} (enough : least + 8 * b.size + 3 ≤ n) :
    Source.climb n true base a.toExpr (.punct op.mark false :: (b.tokens joint ++ rest)) =
      outcome := by
  obtain ⟨n, rfl⟩ : ∃ m, n = m + 1 := ⟨n - 1, by omega⟩
  have value : Precedence.assign.level < op.precedence.level := by cases op <;> decide
  have read := h.operand value right joint (follows.right right) follows.loose
    (n := n) (by omega)
  rw [climb_operator op (a.isRange_toExpr.trans single) loose read]
  exact goesOn n (by omega)

theorem arith {op : ArithOp} {a b : Operand} (canonical : (Operand.arith op a b).Canonical)
    (readLeft : Reads a) (readRight : Reads b) : Reads (Operand.arith op a b) := by
  obtain ⟨lhs, rhs, left, right, single, unbounded, plus⟩ : a.Canonical ∧ b.Canonical ∧
      op.precedence.level ≤ a.tightness ∧ op.precedence.level < b.tightness ∧
      a.isRange = false ∧ a.endsBounded = false ∧ (a.endsOpen = true → op = .add) := by
    cases canonical with
    | arith lhs rhs left right single unbounded plus =>
      exact ⟨lhs, rhs, left, right, single, unbounded, plus⟩
  have size := size_arith op a b none
  have form : ∀ joint rest, (Operand.arith op a b).tokens joint ++ rest =
      a.tokens false ++ (.punct op.mark false :: (b.tokens joint ++ rest)) := by
    intro joint rest
    simp only [tokens, List.append_assoc, List.cons_append]
  have climb : ∀ {joint : Bool} {rest : List Token}, Follows (Operand.arith op a b) rest →
      ∀ {base : Precedence} {least : Nat} {outcome : Option (Expr × List Token)},
      base.level ≤ op.precedence.level →
      (∀ n, least ≤ n →
        Source.climb n true base (Operand.arith op a b).toExpr rest = outcome) →
      ∀ {n : Nat}, least + 8 * (Operand.arith op a b).size ≤ n →
        (Source.unary n true >>= Source.climb n true base)
          ((Operand.arith op a b).tokens joint ++ rest) = outcome := by
    intro joint rest follows base least outcome loose goesOn n enough
    rw [form]
    exact readLeft.climb single (.operator canonical _) _ (Nat.le_trans loose left)
      (fun m large => climb_right single right readRight follows loose goesOn large) (by omega)
  refine ⟨fun tight => (Nat.lt_asymm tight op.precedence_lt_cast).elim,
    fun _ _ _ follows _ _ _ => climb follows, ?_, ?_⟩
  · intro op' a' b' l same joint rest follows p longer after least outcome value looser climbs
      shorter goesOn n enough
    cases same
    rw [form]
    have whole : ∀ m, least + 8 * b.size + 3 ≤ m →
        Source.climb m true op.precedence a.toExpr
          (.punct op.mark false :: (b.tokens joint ++ rest)) = some (longer, after) :=
      fun m large => climb_right single right readRight follows (Nat.le_refl _) climbs large
    have notLonger : after.length ≤ (b.tokens joint ++ rest).length := by
      rw [List.length_append]
      omega
    rcases Nat.lt_or_eq_of_le left with tighter | same
    · refine readLeft.extend value (Nat.lt_trans looser tighter) (.operator canonical _)
        (fun j joins => Nat.lt_of_le_of_lt (joinsAtMost_operator op _ j joins) tighter)
        (least + 8 * b.size + 4) (fun m large => ?_) (by omega) (by omega)
      obtain ⟨m, rfl⟩ : ∃ k, m = k + 1 := ⟨m - 1, by omega⟩
      rw [extend_operator op looser (whole m (by omega)) notLonger]
      exact goesOn m (by omega)
    · obtain ⟨op', a', b', l, rfl, alike⟩ := exists_arith_of_tightness single same.symm
      rw [← alike] at looser whole
      exact readLeft.run rfl (.operator canonical _) value looser whole
        (by rw [List.length_cons]; omega) (fun m large => goesOn m (by omega)) (by omega)
  · intro joint rest follows none n enough
    exact expression_of_climb (fun follows' _ _ goesOn _ enough' =>
      climb follows' (Nat.zero_le _) goesOn enough') follows none enough

theorem isEnd_itemsTokens {items : List Operand} (some : items ≠ [])
    (all : ∀ x ∈ items, x.Canonical) (ts : List Token) :
    isEnd (itemsTokens items ++ ts) = false := by
  match items with
  | [] => exact (some rfl).elim
  | [x] => exact isEnd_tokens (all x List.mem_cons_self) false ts
  | x :: y :: rest =>
    rw [itemsTokens, List.append_assoc]
    exact isEnd_tokens (all x List.mem_cons_self) true _

theorem itemsTokens_cons_cons (x y : Operand) (items : List Operand) (ts : List Token) :
    itemsTokens (x :: y :: items) ++ ts =
      x.tokens true ++ .punct ',' y.leads :: (itemsTokens (y :: items) ++ ts) := by
  rw [itemsTokens, List.append_assoc, List.cons_append]

theorem length_itemsTokens_cons_cons (x y : Operand) (items : List Operand) :
    (itemsTokens (x :: y :: items)).length = x.size + (itemsTokens (y :: items)).length + 1 := by
  rw [itemsTokens, List.length_append, List.length_cons, length_tokens, Nat.add_assoc]

/-- The items of a list, up to the closing bracket. -/
theorem separated_items {items : List Operand} (all : ∀ x ∈ items, x.Canonical)
    (h : ∀ x ∈ items, Reads x) (d : Delimiter) (ts : List Token) {n k : Nat}
    (enough : 8 * (itemsTokens items).length + 2 ≤ n) (rounds : items.length < k) :
    separated (Source.expression n true) k (itemsTokens items ++ .closing d :: ts) =
      some (itemExprs items, .closing d :: ts) := by
  induction items generalizing k with
  | nil =>
    obtain ⟨k, rfl⟩ : ∃ m, k = m + 1 := ⟨k - 1, by omega⟩
    rfl
  | cons x items ih =>
    obtain ⟨k, rfl⟩ : ∃ m, k = m + 1 := ⟨k - 1, by omega⟩
    rw [List.forall_mem_cons] at all h
    rw [separated, bind_apply, atEnd_apply,
      isEnd_itemsTokens (List.cons_ne_nil x items) (List.forall_mem_cons.mpr all)]
    cases items with
    | nil =>
      have read := h.1.expression false (.closing d ts) rfl (n := n) enough
      simp only [itemsTokens, Bool.false_eq_true, if_false, bind_apply, read, atEnd_apply]
      rfl
    | cons y items =>
      rw [length_itemsTokens_cons_cons] at enough
      have later := ih all.2 h.2 (k := k) (by omega) (by rw [List.length_cons] at rounds; omega)
      rw [itemsTokens_cons_cons]
      generalize itemsTokens (y :: items) ++ .closing d :: ts = others at later ⊢
      have read := h.1.expression true (.comma y.leads others) rfl (n := n) (by omega)
      have comma : isMark "," (.punct ',' y.leads :: others) = true := rfl
      have goesOn : isEnd (.punct ',' y.leads :: others) = false := rfl
      have dropped : (Token.punct ',' y.leads :: others).drop ",".length = others := rfl
      simp only [Bool.false_eq_true, if_false, bind_apply, read, atEnd_apply, goesOn,
        mark_of_isMark comma, dropped, later]
      rfl

theorem size_pos (h : x.Canonical) : 0 < x.size := by
  have something := isEnd_tokens h false []
  rw [List.append_nil] at something
  rw [size, List.length_pos_iff]
  rintro none
  rw [none] at something
  cases something

theorem length_le_itemsTokens {items : List Operand} (all : ∀ x ∈ items, x.Canonical) :
    items.length ≤ (itemsTokens items).length := by
  induction items with
  | nil => exact Nat.le_refl _
  | cons x items ih =>
    rw [List.forall_mem_cons] at all
    have here := size_pos all.1
    cases items with
    | nil => exact here
    | cons y items =>
      have later := ih all.2
      rw [length_itemsTokens_cons_cons, List.length_cons]
      omega

theorem list {items : List Operand} (all : ∀ x ∈ items, x.Canonical)
    (h : ∀ x ∈ items, Reads x) : Reads (Operand.list items) := by
  refine of_unary (Nat.lt_succ_self _) fun {joint rest} follows {m} enough => ?_
  rw [size_list] at enough
  obtain ⟨m, rfl⟩ : ∃ k, m = k + 3 := ⟨m - 3, by omega⟩
  have form : (Operand.list items).tokens joint ++ rest =
      .opening .bracket :: (itemsTokens items ++ .closing .bracket :: rest) := by
    simp only [tokens, List.cons_append, List.append_assoc, List.nil_append]
  rw [form]
  refine unary_of_atom rfl ?_ follows.boundary
  show array (m + 1) (.opening .bracket :: (itemsTokens items ++ .closing .bracket :: rest)) = _
  rw [array]
  refine enclosed_apply (c := .bracket) ?_
  rw [bind_apply, atEnd_apply]
  match items with
  | [] => rfl
  | [x] =>
    have something := isEnd_itemsTokens (List.cons_ne_nil x []) all (.closing .bracket :: rest)
    have read := (h x List.mem_cons_self).expression false (.closing .bracket rest) rfl
      (n := m) (by rw [itemsTokens] at enough; have := length_tokens x false; omega)
    rw [something]
    simp only [itemsTokens, Bool.false_eq_true, if_false, bind_apply, read, atEnd_apply]
    rfl
  | x :: y :: items =>
    have something := isEnd_itemsTokens (List.cons_ne_nil x (y :: items)) all
      (.closing .bracket :: rest)
    rw [something, itemsTokens_cons_cons]
    rw [length_itemsTokens_cons_cons] at enough
    rw [List.forall_mem_cons] at all h
    have rounds := length_le_itemsTokens all.2
    have later := separated_items all.2 h.2 .bracket rest (n := m) (k := m) (by omega) (by omega)
    generalize itemsTokens (y :: items) ++ .closing .bracket :: rest = others at later ⊢
    have read := h.1.expression true (.comma y.leads others) rfl (n := m) (by omega)
    have comma : isMark "," (.punct ',' y.leads :: others) = true := rfl
    have semicolon : isMark ";" (.punct ',' y.leads :: others) = false := rfl
    have goesOn : isEnd (.punct ',' y.leads :: others) = false := rfl
    have dropped : (Token.punct ',' y.leads :: others).drop ",".length = others := rfl
    simp only [Bool.false_eq_true, if_false, bind_apply, read, atEnd_apply, goesOn,
      optionalMark_apply, semicolon, mark_of_isMark comma, dropped, later]
    rfl

end Reads

theorem reads_of_canonical {x : Operand} (h : x.Canonical) : Reads x := by
  induction h with
  | int sign fits => exact .int
  | list all ih => exact .list all ih
  | group inner ih => exact .group inner ih
  | neg inner tight ih => exact .neg tight ih
  | arith lhs rhs left right single unbounded plus ihLeft ihRight =>
    exact .arith (.arith lhs rhs left right single unbounded plus) ihLeft ihRight
  | @range lo hi lower upper singleLower singleUpper closed ihLower ihUpper =>
    cases lo with
    | none => exact .prefix_range upper singleUpper ihUpper
    | some y =>
      exact .infix_range (closed y rfl) (singleLower y rfl) (ihLower y rfl) upper singleUpper
        ihUpper

/-- **The tokens of a canonical operand are read as its expression.** -/
theorem expression_tokens {x : Operand} (h : x.Canonical) {n : Nat} (enough : 8 * x.size + 2 ≤ n) :
    expression n true (x.tokens false) = some (x.toExpr, []) := by
  have read := (reads_of_canonical h).expression false .end_ rfl enough
  rw [List.append_nil] at read
  exact read

end ArrayCells.Source
