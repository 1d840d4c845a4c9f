import ArrayCells.Proofs.Readers
import ArrayCells.Proofs.WrittenForm

/-!
# What the readers' expressions denote

Only few of the expressions that are read denote operands.  All others are `Barren`, and what is
built from them is too.

* `Lowers`, `Barren`: what an expression denotes has a property; it denotes nothing;
* `lowers_negated`, `lowers_arith`, `lowers_range`: the expressions that denote operands;
* `closure_barren`, `compound_barren`, `Trails`: the readers of the other ones;
* `Climbed`: each way in which an expression is continued, and `climb_stops`, `climb_barren`: what
  follows for all that is read.
-/

namespace ArrayCells.Source

open Reader

/-! ### What expressions denote -/

/-- A text whose tokens are read as an expression, with none left, is this expression. -/
theorem Expr.ofText_of_tokens {text : String} {ts : List Token} {e : Expr}
    (scanned : tokens? text = some ts)
    (read : expression (64 * (ts.length + 2)) true ts = some (e, [])) :
    Expr.ofText text = .ok e := by
  rw [Expr.ofText, Expr.ofText?, scanned, Option.bind_eq_bind, Option.bind_some, read]
  rfl

/-- What the expression denotes, if it is plain, has the property. -/
def Lowers (e : Expr) (p : Operand → Prop) : Prop :=
  ∀ x, e.toOperand = .ok x → x.Plain → p x

/-- The expression denotes nothing plain. -/
def Barren (e : Expr) : Prop :=
  Lowers e fun _ => False

theorem Barren.lowers {e : Expr} (h : Barren e) (p : Operand → Prop) : Lowers e p :=
  fun x denotes plain => (h x denotes plain).elim

theorem Lowers.mono {e : Expr} {p q : Operand → Prop} (h : Lowers e p) (weaker : ∀ x, p x → q x) :
    Lowers e q :=
  fun x denotes plain => weaker x (h x denotes plain)

theorem barren_of_error {e : Expr} {fault : Fault} (h : e.toOperand = .error fault) : Barren e := by
  intro x denotes
  rw [h] at denotes
  cases denotes

theorem barren_other (found : Form) : Barren (.other found) := barren_of_error rfl

theorem barren_blockLike (found : Form) : Barren (.blockLike found) := barren_of_error rfl

theorem barren_literal : Barren .literal := barren_of_error rfl

theorem barren_comparison : Barren .comparison := barren_of_error rfl

theorem barren_path (name : Option String) : Barren (.path name) := barren_of_error rfl

theorem barren_index (base index : Expr) : Barren (.index base index) := barren_of_error rfl

/-- The only calls that denote operands are those of `spread`. -/
theorem toOperand_call_of_ne {callee : Expr} (args : List Expr)
    (other : callee ≠ .path (some "spread")) :
    (Expr.call callee args).toOperand = .error (Expr.call callee args).refusal := by
  rw [Expr.toOperand] <;> simp_all

/-- A call is refused or stands for the elements of an operand. -/
theorem barren_call (callee : Expr) (args : List Expr) : Barren (.call callee args) := by
  intro x denotes plain
  by_cases named : callee = .path (some "spread")
  · rw [named, Expr.toOperand] at denotes
    obtain ⟨xs, -, last⟩ := exists_of_bind_ok denotes
    split at last
    · cases last
      exact Operand.Plain.not_spread _ _ plain.of_group
    · cases last
      exact Operand.Plain.not_spread _ _ plain.of_group
  · rw [toOperand_call_of_ne args named] at denotes
    cases denotes

theorem lowers_negated {e : Expr} {p : Operand → Prop} (h : Lowers e fun x => p (.neg x)) :
    Lowers (.negated e) p := by
  intro x denotes plain
  rw [Expr.toOperand] at denotes
  obtain ⟨y, inner, last⟩ := exists_of_bind_ok denotes
  cases last
  exact h y inner plain.of_neg

theorem lowers_paren {e : Expr} {p : Operand → Prop} (h : Lowers e fun x => p (.group x)) :
    Lowers (.paren e) p := by
  intro x denotes plain
  rw [Expr.toOperand] at denotes
  obtain ⟨y, inner, last⟩ := exists_of_bind_ok denotes
  cases last
  exact h y inner plain.of_group

theorem lowers_arith {op : ArithOp} {a b : Expr} {p q r : Operand → Prop} (left : Lowers a p)
    (right : Lowers b q)
    (joined : ∀ x y, p x → q y → x.endsBounded = false → r (.arith op x y)) :
    Lowers (.arith op a b) r := by
  intro x denotes plain
  rw [Expr.toOperand] at denotes
  obtain ⟨y, lhs, rest⟩ := exists_of_bind_ok denotes
  obtain ⟨z, rhs, last⟩ := exists_of_bind_ok rest
  cases last
  obtain ⟨plainLeft, plainRight, unbounded⟩ := plain.of_arith
  exact joined y z (left y lhs plainLeft) (right z rhs plainRight) unbounded

theorem canonical_of_toOperands {items : List Expr}
    (h : ∀ e ∈ items, Lowers e Operand.Canonical) {xs : List Operand}
    (denotes : Expr.toOperands items = .ok xs) (plain : ∀ x ∈ xs, x.Plain) :
    ∀ x ∈ xs, x.Canonical := by
  induction items generalizing xs with
  | nil =>
    cases denotes
    exact fun x among => by cases among
  | cons e items ih =>
    rw [Expr.toOperands] at denotes
    rw [List.forall_mem_cons] at h
    obtain ⟨x, first, rest⟩ := exists_of_bind_ok denotes
    obtain ⟨ys, others, last⟩ := exists_of_bind_ok rest
    cases last
    rw [List.forall_mem_cons] at plain ⊢
    exact ⟨h.1 x first plain.1, ih h.2 others plain.2⟩

theorem lowers_array {items : List Expr} {p : Operand → Prop}
    (h : ∀ e ∈ items, Lowers e Operand.Canonical)
    (all : ∀ xs : List Operand, (∀ x ∈ xs, x.Canonical) → p (.list xs)) :
    Lowers (.array items) p := by
  intro x denotes plain
  rw [Expr.toOperand] at denotes
  obtain ⟨xs, inner, last⟩ := exists_of_bind_ok denotes
  cases last
  exact all xs (canonical_of_toOperands h inner plain.of_list)

theorem mem_of_toBound {bound : Option Expr} {result : Option Operand}
    (denotes : Expr.toBound bound = .ok result) :
    (bound = none ∧ result = none) ∨
      ∃ e x, bound = some e ∧ result = some x ∧ e.toOperand = .ok x := by
  cases bound with
  | none =>
    cases denotes
    exact .inl ⟨rfl, rfl⟩
  | some e =>
    rw [Expr.toBound] at denotes
    obtain ⟨x, inner, last⟩ := exists_of_bind_ok denotes
    cases last
    exact .inr ⟨e, x, rfl, rfl, inner⟩

/-! ### Ranges -/

/-- The upper bound that a range gets; that of a closed range is one more than what is written. -/
theorem canonical_upper {upper : Option Expr} {closed : Bool} {rest : List Token}
    (hi : ∀ e ∈ upper, Lowers e fun x => x.Canonical ∧ x.Opened rest)
    (ends : upper = none → endsOpenRange true rest = true) {high : Option Operand}
    (denotes : Expr.toBound upper = .ok high) {bound : Option Operand}
    (same : bound = if closed then high.map fun x => .arith .add (.group x) (.int 1) else high)
    (plain : ∀ y ∈ bound, y.Plain) :
    (∀ y ∈ bound, y.Canonical) ∧
      (Operand.boundEndsOpen bound = true → endsOpenRange true rest = true) := by
  rcases mem_of_toBound denotes with ⟨rfl, rfl⟩ | ⟨e, y, rfl, rfl, inner⟩
  · have none : bound = none := by cases closed <;> exact same
    rw [none]
    exact ⟨fun y among => (Option.not_mem_none y among).elim, fun _ => ends rfl⟩
  · cases closed with
    | false =>
      obtain rfl : bound = some y := same
      have read := hi e rfl y inner (plain y rfl)
      refine ⟨fun z among => ?_, read.2⟩
      rw [← Option.some.inj among]
      exact read.1
    | true =>
      obtain rfl : bound = some (.arith .add (.group y) (.int 1)) := same
      have read := hi e rfl y inner (plain _ rfl).of_arith.1.of_group
      refine ⟨fun z among => ?_, fun opened => by cases opened⟩
      rw [← Option.some.inj among]
      have tight : ArithOp.add.precedence.level < Precedence.cast.level + 1 := by decide
      exact .arith (.group read.1) (.int (by decide) (by decide)) (Nat.le_of_lt tight) tight rfl
        rfl fun opened => by cases opened

/-- A range that has been read, in front of the tokens; without a lower bound nothing can take it
apart. -/
structure Ranged (lower : Option Expr) (x : Operand) (ts : List Token) : Prop where
  canonical : x.Canonical
  opened : x.Opened ts
  isRange : x.isRange = true
  tight : lower = none → Precedence.cast.level < x.tightness

theorem lowers_range {lower upper : Option Expr} {closed : Bool} {rest : List Token}
    (lo : ∀ e ∈ lower, Lowers e fun x => x.Canonical ∧ x.endsOpen = false)
    (hi : ∀ e ∈ upper, Lowers e fun x => x.Canonical ∧ x.Opened rest)
    (ends : upper = none → endsOpenRange true rest = true) :
    Lowers (.range lower upper closed) (Ranged lower · rest) := by
  intro x denotes plain
  rw [Expr.toOperand] at denotes
  obtain ⟨low, lowDenotes, others⟩ := exists_of_bind_ok denotes
  obtain ⟨high, highDenotes, last⟩ := exists_of_bind_ok others
  cases last
  obtain ⟨plainLow, plainHigh⟩ := plain.of_range
  obtain ⟨canonicalHigh, opened⟩ := canonical_upper hi ends highDenotes rfl
    fun y bound => (plainHigh y bound).1
  have canonicalLow : ∀ y ∈ low, y.Canonical ∧ y.endsOpen = false := by
    intro y bound
    rcases mem_of_toBound lowDenotes with ⟨-, rfl⟩ | ⟨e, y', rfl, rfl, inner⟩
    · cases bound
    · cases bound
      exact lo e rfl y inner (plainLow y rfl).1
  refine ⟨.range (fun y bound => (canonicalLow y bound).1) canonicalHigh
    (fun y bound => (plainLow y bound).2) (fun y bound => (plainHigh y bound).2)
    (fun y bound => (canonicalLow y bound).2), opened, rfl, ?_⟩
  rintro rfl
  cases lowDenotes
  exact Nat.lt_succ_self _

/-! ### What joins expressions -/

theorem mark_of_beginsWith {c : Char} {cs : List Char} {ts : List Token}
    (h : beginsWith (c :: cs) ts = true) :
    ∃ joint rest, ts = .punct c joint :: rest ∧
      (cs = [] ∨ joint = true ∧ beginsWith cs rest = true) := by
  rcases ts with _ | ⟨t, rest⟩
  · cases cs <;> cases h
  · cases t with
    | punct d joint =>
      cases cs with
      | nil =>
        rw [beginsWith, beq_iff_eq] at h
        exact ⟨joint, rest, by rw [h], .inl rfl⟩
      | cons c' cs =>
        rw [beginsWith, Bool.and_eq_true, Bool.and_eq_true, beq_iff_eq] at h
        · exact ⟨joint, rest, by rw [h.1.1], .inr ⟨h.1.2, h.2⟩⟩
        · exact List.cons_ne_nil c' cs
    | _ => cases cs <;> cases h

theorem binary_of_junction? {ts : List Token} {op : BinaryOperator}
    (h : junction? ts = some (.binary op)) :
    op ∈ binaryOperators ∧ beginsWith op.symbol.toList ts = true := by
  rw [junction?] at h
  split at h
  · rename_i found
    cases h
    have begins := List.find?_some found
    exact ⟨List.mem_of_find?_eq_some found, begins⟩
  · split at h
    · cases h
    · split at h
      · cases h
      · split at h <;> cases h

/-- The operators with a meaning are those of arithmetic. -/
theorem operator_of_meaning {op : BinaryOperator} (among : op ∈ binaryOperators) {m : ArithOp}
    (meaning : op.meaning = some m) : op = ⟨m.symbol, m.precedence, some m⟩ := by
  have all : ∀ op ∈ binaryOperators, ∀ m ∈ op.meaning, op = ⟨m.symbol, m.precedence, some m⟩ := by
    decide
  exact all op among m meaning

/-- A range operator does not leave an open range alone. -/
theorem not_opened_of_range {ts : List Token} (h : junction? ts = some .range) :
    endsOpenRange true ts = false := by
  have dots : beginsWith ['.', '.'] ts = true := by
    rw [junction?] at h
    split at h
    · cases h
    · split at h
      · cases h
      · split at h
        · assumption
        · split at h <;> cases h
  obtain ⟨joint, rest, rfl, absurd | ⟨rfl, second⟩⟩ := mark_of_beginsWith dots
  · cases absurd
  · obtain ⟨joint, rest, rfl, -⟩ := mark_of_beginsWith second
    rfl

/-- Where an operator of arithmetic joins, its mark is not part of an assignment. -/
theorem not_assigns_of_arith {ts : List Token} {m : ArithOp}
    (h : junction? ts = some (.binary ⟨m.symbol, m.precedence, some m⟩)) :
    beginsWith [m.mark, '='] ts = false := by
  rw [Bool.eq_false_iff]
  intro assigns
  obtain ⟨joint, rest, rfl, absurd | ⟨rfl, second⟩⟩ := mark_of_beginsWith assigns
  · cases absurd
  · obtain ⟨joint, rest, rfl, -⟩ := mark_of_beginsWith second
    have strength := congrArg (Option.map Junction.precedence) h
    cases m <;> cases strength

/-- Of the operators of arithmetic, only a plus leaves an open range alone. -/
theorem plus_of_opened {ts : List Token} {op : BinaryOperator} {m : ArithOp}
    (h : junction? ts = some (.binary op)) (meaning : op.meaning = some m)
    (opened : endsOpenRange true ts = true) : m = .add := by
  obtain ⟨among, begins⟩ := binary_of_junction? h
  have form := operator_of_meaning among meaning
  rw [form] at h begins
  have noAssignment := not_assigns_of_arith h
  rw [m.toList_symbol] at begins
  obtain ⟨joint, rest, rfl, -⟩ := mark_of_beginsWith begins
  -- A minus or a star would have to begin an assignment.
  cases m with
  | add => rfl
  | sub =>
    have assigns : (isMark "-=" (.punct '-' joint :: rest) || false) = true := opened
    rw [Bool.or_false] at assigns
    cases noAssignment.symm.trans assigns
  | mul =>
    have assigns : (isMark "*=" (.punct '*' joint :: rest) || false) = true := opened
    rw [Bool.or_false] at assigns
    cases noAssignment.symm.trans assigns

/-! ### Expressions of other forms -/

section

variable {n : Nat} {braces : Bool}

theorem closure_barren : Yields (closure n braces) Barren := by
  cases n with
  | zero => exact yields_failure
  | succ n =>
    have last : ∀ _ : Unit, Yields (pure (Expr.other .closure)) Barren :=
      fun _ => yields_pure (barren_other _)
    rw [closure]
    refine yields_bind fun _ => yields_ite (yields_bind fun _ => ?_) ?_
    all_goals
      -- The words before the parameters, the parameters, and what they return.
      refine yields_bind fun _ => yields_bind fun _ => yields_bind fun _ => yields_bind fun _ => ?_
      refine yields_bind fun _ => yields_bind fun _ => yields_bind fun _ => yields_bind fun _ => ?_
      exact yields_ite (yields_bind fun _ => yields_bind last) (yields_bind last)

theorem jump_barren : Yields (jump n braces) Barren := by
  cases n with
  | zero => exact yields_failure
  | succ n =>
    have last : ∀ _ : Unit, Yields (pure (Expr.other .unnamed)) Barren :=
      fun _ => yields_pure (barren_other _)
    rw [jump]
    refine yields_bind fun _ => yields_ite (yields_bind last) ?_
    refine yields_bind fun _ => yields_ite ?_ ?_
    · refine yields_bind fun _ => yields_bind fun _ => yields_ite (yields_bind fun _ => ?_) ?_
      all_goals
        exact yields_bind fun _ => yields_bind fun _ => yields_ite (yields_bind last) (last ())
    · refine yields_bind fun _ => yields_ite (yields_bind last) ?_
      exact yields_bind fun _ => yields_bind fun _ => yields_ite (yields_bind last) (last ())

theorem compound_barren : Yields (compound n) Barren := by
  cases n with
  | zero => exact yields_failure
  | succ n =>
    have last : ∀ (found : Form) (_ : Unit), Yields (pure (Expr.blockLike found)) Barren :=
      fun _ _ => yields_pure (barren_blockLike _)
    rw [compound]
    refine yields_bind fun _ => yields_ite ?_ (yields_bind fun _ => yields_ite ?_ ?_)
    · refine yields_bind fun _ => yields_bind fun _ => yields_bind fun _ => ?_
      refine yields_ite (yields_bind fun _ => yields_ite ?_ ?_) (last _ ())
      · exact yields_bind (last _)
      · exact yields_bind (last _)
    · exact yields_bind fun _ => yields_bind (last _)
    · refine yields_bind fun _ => yields_ite ?_ (yields_bind fun _ => yields_ite ?_ ?_)
      · exact yields_bind fun _ => yields_bind fun _ => yields_bind fun _ => yields_bind (last _)
      · exact yields_bind fun _ => yields_bind (last _)
      · exact yields_bind fun _ => yields_bind fun _ => yields_bind (last _)

theorem labelled_barren : Yields (labelled n) Barren := by
  cases n with
  | zero => exact yields_failure
  | succ n =>
    rw [labelled]
    refine yields_bind fun _ => yields_bind fun _ => yields_bind fun _ => yields_ite ?_ ?_
    · exact yields_bind fun _ => yields_pure (barren_blockLike _)
    · exact yields_bind fun _ => yields_ite compound_barren yields_failure

theorem pathExpression_barren : Yields (pathExpression n braces) Barren := by
  cases n with
  | zero => exact yields_failure
  | succ n =>
    rw [pathExpression]
    refine yields_bind fun p => yields_bind fun _ => yields_ite ?_ ?_
    · exact yields_bind fun _ => yields_bind fun _ => yields_pure (barren_other _)
    · refine yields_bind fun _ => yields_ite ?_ (yields_pure (barren_path _))
      exact yields_bind fun _ => yields_pure (barren_other _)

end

/-! ### What follows an expression at once -/

/-- After an expression there are calls, fields and indexes, which denote nothing, or nothing. -/
structure Trails (n : Nat) : Prop where
  trailers (e : Expr) (ts : List Token) :
    Gives (Source.trailers n e) ts fun e' rest => e' = e ∧ rest = ts ∨ Barren e'
  member : Yields (Source.member n) Barren
  field : Yields (Source.field n) Barren

namespace Trails

variable {n : Nat}

/-- What denotes nothing goes on to denote nothing. -/
theorem barren (h : Trails n) {e : Expr} (nothing : Barren e) :
    Yields (Source.trailers n e) Barren := by
  refine fun ts => (h.trailers e ts).mono fun e' rest => ?_
  rintro (⟨rfl, -⟩ | nothing')
  · exact nothing
  · exact nothing'

theorem step_trailers (h : Trails n) (e : Expr) (ts : List Token) :
    Gives (Source.trailers (n + 1) e) ts fun e' rest => e' = e ∧ rest = ts ∨ Barren e' := by
  have goesOn : ∀ {r : Reader Expr} {ts' : List Token}, Yields r Barren →
      Gives r ts' fun e' rest => e' = e ∧ rest = ts ∨ Barren e' :=
    fun yields => (yields _).mono fun _ _ nothing => .inr nothing
  rw [Source.trailers]
  refine gives_bind_sees (gives_ite (fun _ => goesOn ?_) fun _ => ?_)
  · exact yields_bind fun args => h.barren (barren_call e args)
  refine gives_bind_sees (gives_ite (fun _ => goesOn ?_) fun _ => ?_)
  · exact yields_bind fun index => h.barren (barren_index e index)
  refine gives_ite (fun _ => gives_pure (.inl ⟨rfl, rfl⟩)) fun _ => ?_
  refine gives_bind_sees (gives_ite (fun _ => goesOn (yields_bind fun _ => h.member)) fun _ => ?_)
  refine gives_bind_optionalMark (fun _ => goesOn (h.barren (barren_other _))) fun _ => ?_
  exact gives_pure (.inl ⟨rfl, rfl⟩)

theorem step_member (h : Trails n) : Yields (Source.member (n + 1)) Barren := by
  rw [Source.member]
  refine yields_bind fun ts => ?_
  split
  · refine yields_bind fun _ => ?_
    split
    · exact h.field
    · exact h.barren (barren_other _)
    · exact yields_failure
  · exact h.field

theorem step_field (h : Trails n) : Yields (Source.field (n + 1)) Barren := by
  rw [Source.field]
  refine yields_bind fun _ => yields_ite (h.barren (barren_other _)) ?_
  refine yields_bind fun _ => yields_ite ?_ (h.barren (barren_other _))
  refine yields_bind fun _ => yields_bind fun _ => yields_ite ?_ (h.barren (barren_other _))
  exact yields_bind fun _ => h.barren (barren_other _)

theorem all (n : Nat) : Trails n := by
  induction n with
  | zero => exact ⟨fun _ _ => gives_failure, yields_failure, yields_failure⟩
  | succ n ih => exact ⟨ih.step_trailers, ih.step_member, ih.step_field⟩

end Trails

/-! ### Single steps of the climb -/

/-- Reading after `..` makes a range of the lower bound that has been read. -/
theorem range_form {n : Nat} {braces : Bool} {lower : Option Expr} :
    Yields (range n braces lower) fun e => ∃ upper closed, e = .range lower upper closed := by
  cases n with
  | zero => exact yields_failure
  | succ n =>
    rw [range]
    refine yields_bind fun _ => yields_ite (yields_bind fun e => yields_pure ⟨_, _, rfl⟩) ?_
    refine yields_bind fun _ => yields_ite yields_failure ?_
    refine yields_bind fun _ => yields_bind fun _ => yields_ite (yields_pure ⟨_, _, rfl⟩) ?_
    exact yields_bind fun e => yields_pure ⟨_, _, rfl⟩

/-- What can come after an expression that is continued with at least the strength `base`. -/
inductive Climbed (n : Nat) (braces : Bool) (base : Precedence) (lhs : Expr) (ts : List Token) :
    Expr → List Token → Prop
  | stop (ends : lhs.isRange = true ∨
      ∀ j, junction? ts = some j → j.precedence.level < base.level) :
      Climbed n braces base lhs ts lhs ts
  | binary {op : BinaryOperator} {rhs e : Expr} {mid rest : List Token}
      (single : lhs.isRange = false) (joins : junction? ts = some (.binary op))
      (tight : base.level ≤ op.precedence.level)
      (right : operand n braces op.precedence (ts.drop op.symbol.length) = some (rhs, mid))
      (goesOn : climb n braces base (op.apply lhs rhs) mid = some (e, rest)) :
      Climbed n braces base lhs ts e rest
  | range {r e : Expr} {mid rest : List Token} (single : lhs.isRange = false)
      (joins : junction? ts = some .range) (tight : base.level ≤ Precedence.range.level)
      (upper : Source.range n braces (some lhs) ts = some (r, mid))
      (goesOn : climb n braces base r mid = some (e, rest)) :
      Climbed n braces base lhs ts e rest
  | other {found : Form} {e : Expr} {mid rest : List Token}
      (goesOn : climb n braces base (.other found) mid = some (e, rest)) :
      Climbed n braces base lhs ts e rest

theorem climbed (n : Nat) (braces : Bool) (base : Precedence) (lhs : Expr) (ts : List Token) :
    Gives (climb (n + 1) braces base lhs) ts (Climbed n braces base lhs ts) := by
  rw [climb]
  refine gives_ite (fun range => gives_pure (.stop (.inl range))) fun notRange => ?_
  have single : lhs.isRange = false := Bool.eq_false_iff.mpr notRange
  refine gives_bind_get ?_
  cases joins : junction? ts with
  | none =>
    refine gives_pure (.stop (.inr fun j absurd => ?_))
    rw [joins] at absurd
    cases absurd
  | some junction =>
    refine gives_ite (fun looser => gives_pure (.stop (.inr fun j same => ?_))) fun tight => ?_
    · rw [joins] at same
      cases same
      exact looser
    replace tight : base.level ≤ junction.precedence.level := Nat.le_of_not_lt tight
    cases junction with
    | binary op =>
      refine gives_ite (fun _ => gives_bind gives_failure) fun _ => gives_bind_skip ?_
      exact gives_bind fun rhs mid right e rest goesOn => .binary single joins tight right goesOn
    | assignment =>
      exact gives_bind_skip (gives_bind_of_all fun _ _ e rest goesOn => .other goesOn)
    | range =>
      exact gives_bind fun r mid upper e rest goesOn => .range single joins tight upper goesOn
    | cast =>
      refine gives_bind_skip (gives_bind_of_all fun _ _ => gives_bind_sees ?_)
      refine gives_ite (fun _ => gives_bind gives_failure) fun _ e rest goesOn => .other goesOn

/-- The climb ends with a range or where nothing binds tightly enough. -/
theorem climb_stops (n : Nat) (braces : Bool) (base : Precedence) (lhs : Expr) (ts : List Token) :
    Gives (climb n braces base lhs) ts fun e rest => e.isRange = true ∨
      ∀ j, junction? rest = some j → j.precedence.level < base.level := by
  induction n generalizing lhs ts with
  | zero => exact gives_failure
  | succ n ih =>
    refine (climbed n braces base lhs ts).mono fun e rest step => ?_
    cases step with
    | stop ends => exact ends
    | binary _ _ _ _ goesOn => exact ih _ _ e rest goesOn
    | range _ _ _ _ goesOn => exact ih _ _ e rest goesOn
    | other goesOn => exact ih _ _ e rest goesOn

theorem barren_apply {op : BinaryOperator} {lhs rhs : Expr}
    (h : op.meaning = none ∨ Barren lhs) : Barren (op.apply lhs rhs) := by
  rw [BinaryOperator.apply]
  cases meaning : op.meaning with
  | none =>
    by_cases compares : (op.precedence == Precedence.compare) = true
    · rw [if_pos compares]
      exact barren_comparison
    · rw [if_neg compares]
      exact barren_other _
  | some m =>
    rcases h with absurd | nothing
    · rw [meaning] at absurd
      cases absurd
    · have something : Lowers rhs fun _ => True := fun _ _ _ => trivial
      exact lowers_arith nothing something fun _ _ none _ _ => none

theorem barren_range {lower : Expr} (nothing : Barren lower) (upper : Option Expr) (closed : Bool) :
    Barren (.range (some lower) upper closed) := by
  intro x denotes plain
  rw [Expr.toOperand] at denotes
  obtain ⟨low, lowDenotes, others⟩ := exists_of_bind_ok denotes
  obtain ⟨high, -, last⟩ := exists_of_bind_ok others
  cases last
  rcases mem_of_toBound lowDenotes with ⟨absurd, -⟩ | ⟨e, y, same, rfl, inner⟩
  · cases absurd
  · cases same
    exact nothing y inner (plain.of_range.1 y rfl).1

/-- What denotes nothing is continued to what denotes nothing. -/
theorem climb_barren {n : Nat} {braces : Bool} {base : Precedence} {lhs : Expr}
    (nothing : Barren lhs) : Yields (climb n braces base lhs) Barren := by
  induction n generalizing lhs with
  | zero => exact yields_failure
  | succ n ih =>
    refine fun ts => (climbed n braces base lhs ts).mono fun e rest step => ?_
    cases step with
    | stop _ => exact nothing
    | binary _ _ _ _ goesOn => exact ih (barren_apply (.inr nothing)) _ e rest goesOn
    | range _ _ _ upper goesOn =>
      obtain ⟨_, _, rfl⟩ := range_form _ _ _ upper
      exact ih (barren_range nothing _ _) _ e rest goesOn
    | other goesOn => exact ih (barren_other _) _ e rest goesOn

/-- A cast denotes nothing. -/
theorem climb_cast {n : Nat} {braces : Bool} {lhs : Expr} {ts : List Token}
    (joins : junction? ts = some .cast) :
    Gives (climb n braces .cast lhs) ts fun e _ => e.isRange = true ∨ Barren e := by
  cases n with
  | zero => exact gives_failure
  | succ n =>
    refine (climbed n braces .cast lhs ts).mono fun e rest step => ?_
    cases step with
    | stop ends =>
      refine .inl (ends.resolve_right fun looser => ?_)
      exact Nat.lt_irrefl _ (looser .cast joins)
    | binary _ joins' =>
      rw [joins] at joins'
      cases joins'
    | range _ joins' =>
      rw [joins] at joins'
      cases joins'
    | other goesOn => exact .inr (climb_barren (barren_other _) _ e rest goesOn)

end ArrayCells.Source
