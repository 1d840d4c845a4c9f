import ArrayCells.Proofs.Denotation

/-!
# Plain operands are read in canonical form

What the readers read for a plain operand is canonical: the parentheses that the written form needs
are those of the text.  The readers call one another, so one induction on the fuel is about all of
them.

* `Single`, `Ready`, `Held`: an operand in front of what is left, read by itself, before an operator
  or after one;
* `Ready.arith`: an operator joins two of them;
* `Grammatical`: what each reader reads, with one step lemma for each;
* `canonical_of_operandOfText`: the same for a whole text.
-/

namespace ArrayCells.Source

open Reader

/-! ### What has been read so far -/

/-- An expression denotes a range just if it is one. -/
theorem isRange_of_toOperand {e : Expr} {x : Operand} (denotes : e.toOperand = .ok x)
    (plain : x.Plain) : x.isRange = e.isRange := by
  cases e with
  | call callee args => exact (barren_call callee args x denotes plain).elim
  | integer value =>
    rw [Expr.toOperand] at denotes
    split at denotes <;> cases denotes
    rfl
  | negated inner | paren inner | array items =>
    rw [Expr.toOperand] at denotes
    obtain ⟨_, -, last⟩ := exists_of_bind_ok denotes
    cases last
    rfl
  | arith op a b | range lower upper closed =>
    rw [Expr.toOperand] at denotes
    obtain ⟨_, -, others⟩ := exists_of_bind_ok denotes
    obtain ⟨_, -, last⟩ := exists_of_bind_ok others
    cases last
    rfl
  | literal | path | comparison | index | blockLike | other => cases denotes

/-- An operator of arithmetic that follows holds its operands at most as tightly. -/
def ArithAtMost (level : Nat) (ts : List Token) : Prop :=
  ∀ op, junction? ts = some (.binary op) → ∀ m, op.meaning = some m → m.precedence.level ≤ level

theorem arithAtMost_of_looser {bound level : Nat} {ts : List Token}
    (looser : ∀ j, junction? ts = some j → j.precedence.level < bound) (le : bound ≤ level + 1) :
    ArithAtMost level ts := by
  intro op joins m meaning
  have form := operator_of_meaning (binary_of_junction? joins).1 meaning
  have less : op.precedence.level < bound := looser _ joins
  rw [form] at less
  exact Nat.le_of_lt_succ (Nat.lt_of_lt_of_le less le)

/-- Every operator of arithmetic is looser than a cast. -/
theorem arithAtMost_of_cast_lt {level : Nat} (tight : Precedence.cast.level < level)
    (ts : List Token) : ArithAtMost level ts :=
  fun _ _ m _ => Nat.le_of_lt (Nat.lt_trans m.precedence_lt_cast tight)

/-- Only a cast binds more tightly than the operators. -/
theorem cast_or_loose {ts : List Token} {j : Junction} (joins : junction? ts = some j) :
    j = .cast ∨ j.precedence.level ≤ Precedence.product.level := by
  have all : ∀ op ∈ binaryOperators, op.precedence.level ≤ Precedence.product.level := by decide
  cases j with
  | binary op => exact .inr (all op (binary_of_junction? joins).1)
  | assignment | range => exact .inr (by decide)
  | cast => exact .inl rfl

/-- A climb for an operand of arithmetic leaves no operator that is tighter. -/
theorem arithAtMost_of_climb {n level : Nat} {j : Junction} {lhs : Expr} {ts : List Token}
    (joins : junction? ts = some j) (sum : Precedence.sum.level ≤ level) :
    Gives (climb n true j.precedence lhs) ts fun e rest =>
      e.isRange = true ∨ Barren e ∨ ArithAtMost level rest := by
  rcases cast_or_loose joins with rfl | loose
  · exact (climb_cast joins).mono fun e rest found => found.imp_right .inl
  · refine (climb_stops n true j.precedence lhs ts).mono fun e rest ends => ?_
    refine ends.imp_right fun looser => .inr (arithAtMost_of_looser looser ?_)
    exact Nat.le_trans loose (Nat.succ_le_succ sum)

/-- An operand in front of the tokens: they do not take it apart, unless it ends with a range that
has an upper bound, and an open range at its end does not go on with them. -/
structure Ready (x : Operand) (ts : List Token) : Prop where
  canonical : x.Canonical
  opened : x.Opened ts
  holds : x.isRange = true ∨ x.endsBounded = true ∨ ArithAtMost x.tightness ts

/-- An operand that has been read for an operator of the given strength. -/
structure Held (level : Nat) (x : Operand) (ts : List Token) : Prop where
  canonical : x.Canonical
  opened : x.Opened ts
  tight : level < x.tightness
  holds : Precedence.sum.level ≤ level → x.isRange = true ∨ ArithAtMost level ts

/-- An operand that no operator joins. -/
structure Single (x : Operand) (ts : List Token) : Prop where
  canonical : x.Canonical
  opened : x.Opened ts
  tight : Precedence.cast.level < x.tightness

theorem Single.ready {x : Operand} {ts : List Token} (h : Single x ts) : Ready x ts :=
  ⟨h.canonical, h.opened, .inr (.inr (arithAtMost_of_cast_lt h.tight ts))⟩

/-- What stands between brackets. -/
structure Closed (x : Operand) : Prop where
  canonical : x.Canonical
  closed : x.endsOpen = false
  tight : Precedence.cast.level < x.tightness

theorem Closed.single {x : Operand} (h : Closed x) (ts : List Token) : Single x ts where
  canonical := h.canonical
  opened open_ := by
    rw [h.closed] at open_
    cases open_
  tight := h.tight

theorem Single.neg {x : Operand} {ts : List Token} (h : Single x ts) : Single (.neg x) ts where
  canonical := .neg h.canonical h.tight
  opened := h.opened
  tight := Nat.lt_succ_self _

/-- An operator of arithmetic joins what stands before it and what has been read for it. -/
theorem Ready.arith {m : ArithOp} {x y : Operand} {ts mid : List Token} (left : Ready x ts)
    (single : x.isRange = false) (unbounded : x.endsBounded = false)
    (joins : junction? ts = some (.binary ⟨m.symbol, m.precedence, some m⟩))
    (right : Held m.precedence.level y mid) : Ready (.arith m x y) mid where
  canonical := by
    have holds : ArithAtMost x.tightness ts := by
      rcases left.holds with range | bounded | holds
      · rw [single] at range
        cases range
      · rw [unbounded] at bounded
        cases bounded
      · exact holds
    exact .arith left.canonical right.canonical (holds _ joins m rfl) right.tight single unbounded
      fun opened => plus_of_opened joins rfl (left.opened opened)
  opened := right.opened
  holds := by
    have sum : Precedence.sum.level ≤ m.precedence.level := by cases m <;> decide
    rcases right.holds sum with range | holds
    · cases y with
      | range lo hi l =>
        cases hi with
        | some y => exact .inr (.inl rfl)
        | none =>
          -- Only a plus leaves an open range alone, and nothing is looser.
          refine .inr (.inr fun op joins' m' meaning => ?_)
          rw [plus_of_opened joins' meaning (right.opened rfl)]
          exact sum
      | _ => cases range
    · exact .inr (.inr holds)

/-- What the readers for operands join: a range to its upper bound, an operator of arithmetic to its
right operand. -/
def Joining (p : Precedence) : Prop :=
  p = .range ∨ ∃ m : ArithOp, p = m.precedence

theorem Joining.lt_cast {p : Precedence} (h : Joining p) : p.level < Precedence.cast.level := by
  rcases h with rfl | ⟨m, rfl⟩
  · decide
  · exact m.precedence_lt_cast

theorem Joining.ne_assign {p : Precedence} (h : Joining p) : p ≠ .assign := by
  rintro rfl
  rcases h with absurd | ⟨m, absurd⟩
  · cases absurd
  · cases m <;> cases absurd

/-! ### All readers of operands -/

/-- What the readers read, if it denotes something plain. -/
structure Grammatical (n : Nat) : Prop where
  expression : Yields (Source.expression n true) fun e => Lowers e Operand.Canonical
  climb (base : Precedence) {lhs : Expr} {ts : List Token} (ready : Lowers lhs (Ready · ts)) :
    Gives (Source.climb n true base lhs) ts fun e rest => Lowers e fun x =>
      Ready x rest ∧ (base.level ≤ x.tightness ∨ e = lhs ∧ rest = ts)
  operand {p : Precedence} (joining : Joining p) (ts : List Token) :
    Gives (Source.operand n true p) ts fun e rest => Lowers e (Held p.level · rest)
  extend {p : Precedence} (joining : Joining p) {rhs : Expr} {ts : List Token}
    (ready : Lowers rhs fun x => Ready x ts ∧ p.level < x.tightness) :
    Gives (Source.extend n true p rhs) ts fun e rest => Lowers e (Held p.level · rest)
  range {lower : Option Expr}
    (lo : ∀ e ∈ lower, Lowers e fun x => x.Canonical ∧ x.endsOpen = false) (ts : List Token) :
    Gives (Source.range n true lower) ts fun e rest => Lowers e (Ranged lower · rest)
  unary (ts : List Token) :
    Gives (Source.unary n true) ts fun e rest => Lowers e (Single · rest)
  atom (ts : List Token) :
    Gives (Source.atom n true) ts fun e rest => Lowers e (Single · rest)
  parenthesized : Yields (Source.parenthesized n) fun e => Lowers e Closed
  array : Yields (Source.array n) fun e => Lowers e Closed

namespace Grammatical

variable {n : Nat}

theorem step_parenthesized (h : Grammatical n) :
    Yields (Source.parenthesized (n + 1)) fun e => Lowers e Closed := by
  have tuple : Lowers (.other .tuple) Closed := (barren_other _).lowers _
  rw [Source.parenthesized]
  refine yields_enclosed (yields_bind fun _ => yields_ite (yields_pure tuple) ?_)
  refine yields_bind_of h.expression fun first canonical => yields_bind fun _ => yields_ite ?_ ?_
  · refine yields_pure (lowers_paren (canonical.mono fun x inner => ?_))
    exact ⟨.group inner, rfl, Nat.lt_succ_self _⟩
  · exact yields_bind fun _ => yields_bind fun _ => yields_pure tuple

theorem step_array (h : Grammatical n) :
    Yields (Source.array (n + 1)) fun e => Lowers e Closed := by
  have array : ∀ items : List Expr, (∀ e ∈ items, Lowers e Operand.Canonical) →
      Lowers (.array items) Closed :=
    fun items canonical => lowers_array canonical fun xs all =>
      ⟨.list all, rfl, Nat.lt_succ_self _⟩
  rw [Source.array]
  refine yields_enclosed (yields_bind fun _ => yields_ite (yields_pure (array [] ?_)) ?_)
  · exact fun e among => by cases among
  refine yields_bind_of h.expression fun first here => yields_bind fun _ => ?_
  refine yields_ite (yields_pure (array _ (List.forall_mem_singleton.mpr here))) ?_
  refine yields_bind fun _ => yields_ite ?_ (yields_bind fun _ => ?_)
  · exact yields_bind fun _ => yields_pure ((barren_other _).lowers _)
  · refine yields_bind_of (yields_separated h.expression n) fun items later => yields_pure ?_
    exact array _ (List.forall_mem_cons.mpr ⟨here, later⟩)

theorem step_expression (h : Grammatical n) :
    Yields (Source.expression (n + 1) true) fun e => Lowers e Operand.Canonical := by
  intro ts
  rw [Source.expression]
  refine gives_bind fun e rest read => ?_
  have single := h.unary ts e rest read
  refine (h.climb .jump (single.mono fun x => Single.ready)).mono fun e' rest' whole => ?_
  exact whole.mono fun x facts => facts.1.canonical

theorem step_operand (h : Grammatical n) {p : Precedence} (joining : Joining p)
    (ts : List Token) :
    Gives (Source.operand (n + 1) true p) ts fun e rest => Lowers e (Held p.level · rest) := by
  rw [Source.operand]
  refine gives_bind fun e rest read => h.extend joining ?_
  have single := h.unary ts e rest read
  exact single.mono fun x alone => ⟨alone.ready, Nat.lt_trans joining.lt_cast alone.tight⟩

theorem step_range (h : Grammatical n) {lower : Option Expr}
    (lo : ∀ e ∈ lower, Lowers e fun x => x.Canonical ∧ x.endsOpen = false) (ts : List Token) :
    Gives (Source.range (n + 1) true lower) ts fun e rest => Lowers e (Ranged lower · rest) := by
  have bounded : ∀ (closed : Bool) (ts' : List Token),
      Gives (Source.operand n true .range >>= fun upper => pure (.range lower (some upper) closed))
        ts' fun e rest => Lowers e (Ranged lower · rest) := by
    intro closed ts'
    refine gives_bind fun upper rest read => gives_pure ?_
    refine lowers_range lo ?_ fun none => by cases none
    intro e same
    rw [Option.mem_some_iff] at same
    rw [← same]
    have bound := h.operand (.inl rfl) ts' upper rest read
    exact bound.mono fun x held => ⟨held.canonical, held.opened⟩
  rw [Source.range]
  refine gives_bind_optionalMark (fun _ => bounded true _) fun _ => ?_
  refine gives_bind_sees (gives_ite (fun _ => gives_failure) fun _ => ?_)
  refine gives_bind_of_all fun _ rest => gives_bind_sees (gives_ite (fun ends => ?_) fun _ => ?_)
  · exact gives_pure (lowers_range lo (fun e none => by cases none) fun _ => ends)
  · exact bounded false rest

/-- Each round of the climb joins what is ready to what has been held for it; all that denotes
nothing stays so to the end. -/
theorem step_climb (h : Grammatical n) (base : Precedence) {lhs : Expr} {ts : List Token}
    (ready : Lowers lhs (Ready · ts)) :
    Gives (Source.climb (n + 1) true base lhs) ts fun e rest => Lowers e fun x =>
      Ready x rest ∧ (base.level ≤ x.tightness ∨ e = lhs ∧ rest = ts) := by
  refine (climbed n true base lhs ts).mono fun e rest step => ?_
  cases step with
  | stop => exact ready.mono fun x facts => ⟨facts, .inr ⟨rfl, rfl⟩⟩
  | other goesOn => exact (climb_barren (barren_other _) _ e rest goesOn).lowers _
  | @binary op rhs _ mid _ single joins tight right goesOn =>
    cases meaning : op.meaning with
    | none => exact (climb_barren (barren_apply (.inl meaning)) _ e rest goesOn).lowers _
    | some m =>
      have form := operator_of_meaning (binary_of_junction? joins).1 meaning
      subst form
      have held := h.operand (.inr ⟨m, rfl⟩) _ rhs mid right
      have left : Lowers lhs fun x => Ready x ts ∧ x.isRange = false := fun x denotes plain =>
        ⟨ready x denotes plain, (isRange_of_toOperand denotes plain).trans single⟩
      have joined : Lowers (.arith m lhs rhs) fun x => Ready x mid ∧ base.level ≤ x.tightness :=
        lowers_arith left held fun x y ready held unbounded =>
          ⟨ready.1.arith ready.2 unbounded joins held, tight⟩
      intro x denotes plain
      obtain ⟨facts, loose | ⟨rfl, rfl⟩⟩ :=
        h.climb base (joined.mono fun _ => And.left) e rest goesOn x denotes plain
      · exact ⟨facts, .inl loose⟩
      · exact ⟨facts, .inl (joined x denotes plain).2⟩
  | @range r _ mid _ single joins tight upper goesOn =>
    -- An open range at the end of the lower bound would have taken in the operator.
    have closed : ∀ e ∈ some lhs, Lowers e fun x => x.Canonical ∧ x.endsOpen = false := by
      intro e same x denotes plain
      cases same
      have facts := ready x denotes plain
      refine ⟨facts.canonical, Bool.eq_false_iff.mpr fun open_ => ?_⟩
      have opened := facts.opened open_
      rw [not_opened_of_range joins] at opened
      cases opened
    have read := h.range closed ts r mid upper
    have readied : Lowers r (Ready · mid) :=
      read.mono fun x facts => ⟨facts.canonical, facts.opened, .inl facts.isRange⟩
    refine (h.climb base readied e rest goesOn).mono fun x facts => ?_
    exact ⟨facts.1, .inl (Nat.le_trans tight x.range_le_tightness)⟩

/-- An operand takes in what is tighter than its operator.  It is over where nothing is, or where a
range begins it: a range joins nothing further, and the climb stands still. -/
theorem step_extend (h : Grammatical n) {p : Precedence} (joining : Joining p) {rhs : Expr}
    {ts : List Token} (ready : Lowers rhs fun x => Ready x ts ∧ p.level < x.tightness) :
    Gives (Source.extend (n + 1) true p rhs) ts fun e rest => Lowers e (Held p.level · rest) := by
  have stop : (∀ j, junction? ts = some j → j.precedence.level < p.level + 1) →
      Lowers rhs (Held p.level · ts) := fun looser =>
    ready.mono fun x facts => ⟨facts.1.canonical, facts.1.opened, facts.2, fun _ =>
      .inr (arithAtMost_of_looser looser (Nat.le_refl _))⟩
  rw [Source.extend]
  refine gives_bind_get ?_
  cases joins : junction? ts with
  | none =>
    refine gives_pure (stop fun j absurd => ?_)
    rw [joins] at absurd
    cases absurd
  | some j =>
    refine gives_ite (fun goesOn => ?_) fun stops => gives_pure (stop fun j' same => ?_)
    · have tighter : p.level < j.precedence.level := by
        rw [Bool.or_eq_true, Bool.and_eq_true, beq_iff_eq, beq_iff_eq] at goesOn
        rcases goesOn with tighter | ⟨-, absurd⟩
        · exact of_decide_eq_true tighter
        · exact (joining.ne_assign absurd).elim
      refine gives_bind_get (gives_bind fun longer rest read => gives_bind_get ?_)
      have whole := h.climb j.precedence (ready.mono fun _ => And.left) longer rest read
      have readied : Lowers longer fun x => Ready x rest ∧ p.level < x.tightness := by
        intro x denotes plain
        obtain ⟨facts, tight | ⟨rfl, rfl⟩⟩ := whole x denotes plain
        · exact ⟨facts, Nat.lt_of_lt_of_le tighter tight⟩
        · exact ready x denotes plain
      refine gives_ite (fun _ => gives_pure ?_) fun _ => h.extend joining readied
      intro x denotes plain
      obtain ⟨facts, tight⟩ := readied x denotes plain
      refine ⟨facts.canonical, facts.opened, tight, fun sum => ?_⟩
      rcases arithAtMost_of_climb joins sum longer rest read with range | nothing | holds
      · exact .inl ((isRange_of_toOperand denotes plain).trans range)
      · exact (nothing x denotes plain).elim
      · exact .inr holds
    · rw [joins] at same
      cases same
      rw [Bool.or_eq_true, not_or] at stops
      exact Nat.lt_succ_of_le (Nat.le_of_not_lt fun less => stops.1 (decide_eq_true less))

theorem step_unary (h : Grammatical n) (ts : List Token) :
    Gives (Source.unary (n + 1) true) ts fun e rest => Lowers e (Single · rest) := by
  have other : ∀ (found : Form) (ts' : List Token),
      Gives (pure (Expr.other found)) ts' fun e rest => Lowers e (Single · rest) :=
    fun found ts' => gives_pure ((barren_other found).lowers _)
  rw [Source.unary]
  refine gives_bind_of_all fun _ _ => gives_bind_of_all fun _ _ => ?_
  refine gives_bind_of_all fun _ _ => gives_ite (fun _ => ?_) fun _ => ?_
  · refine gives_bind_of_all fun _ _ => gives_ite (fun _ => ?_) fun _ => ?_
    · exact gives_bind_of_all fun _ _ => gives_bind_of_all fun _ _ => other _ _
    · exact gives_bind_of_all fun _ _ => gives_bind_of_all fun _ _ => other _ _
  refine gives_bind_of_all fun _ _ => gives_ite (fun _ => ?_) fun _ => ?_
  · refine gives_bind fun e rest read => gives_pure (lowers_negated ?_)
    exact (h.unary _ e rest read).mono fun x => Single.neg
  refine gives_bind_of_all fun _ _ => gives_bind_of_all fun _ _ => ?_
  refine gives_ite (fun _ => ?_) fun _ => ?_
  · exact gives_bind_of_all fun _ _ => gives_bind_of_all fun _ _ => other _ _
  · refine gives_bind fun a mid first => gives_bind fun e rest read => ?_
    have single : Lowers e (Single · rest) := by
      rcases (Trails.all n).trailers a mid e rest read with ⟨rfl, rfl⟩ | nothing
      · exact h.atom _ e rest first
      · exact nothing.lowers _
    exact gives_ite (fun _ => gives_bind gives_failure) fun _ => gives_pure single

theorem step_atom (h : Grammatical n) (ts : List Token) :
    Gives (Source.atom (n + 1) true) ts fun e rest => Lowers e (Single · rest) := by
  have nothing : ∀ {r : Reader Expr} (ts' : List Token), Yields r Barren →
      Gives r ts' fun e rest => Lowers e (Single · rest) :=
    fun ts' yields => (yields ts').mono fun _ _ barren => barren.lowers _
  have closed : ∀ {r : Reader Expr} (ts' : List Token), Yields r (fun e => Lowers e Closed) →
      Gives r ts' fun e rest => Lowers e (Single · rest) :=
    fun ts' yields => (yields ts').mono fun _ rest low => low.mono fun x inner => inner.single rest
  rw [Source.atom]
  refine gives_bind_get ?_
  split
  · refine gives_bind_skip (gives_pure fun x denotes plain => ?_)
    rw [Expr.toOperand] at denotes
    split at denotes
    · rename_i value _ _ fits
      cases denotes
      exact Closed.single ⟨.int (Int.natCast_nonneg value) fits, rfl, Nat.lt_succ_self _⟩ _
    · cases denotes
  -- Other literals, brackets, blocks, labels and the underscore.
  · exact nothing _ (yields_bind fun _ => yields_pure barren_literal)
  · exact nothing _ (yields_bind fun _ => yields_pure barren_literal)
  · exact nothing _ (yields_bind fun _ => yields_pure barren_literal)
  · exact nothing _ (yields_bind fun _ => yields_pure barren_literal)
  · exact nothing _ (yields_bind fun _ => yields_pure barren_literal)
  · exact closed _ h.parenthesized
  · exact closed _ h.array
  · exact nothing _ (yields_bind fun _ => yields_pure (barren_blockLike _))
  · exact nothing _ labelled_barren
  · exact nothing _ (yields_bind fun _ => yields_pure (barren_other _))
  -- What keywords and marks begin; of all this only a range can be an operand.
  · refine gives_ite (fun _ => nothing _ ?_) fun _ => gives_ite (fun _ => nothing _ ?_) fun _ => ?_
    · exact yields_bind fun _ => yields_bind fun _ => yields_bind fun _ =>
        yields_pure (barren_other _)
    · exact yields_bind fun _ => yields_bind fun _ => yields_pure (barren_blockLike _)
    refine gives_ite (fun _ => nothing _ closure_barren) fun _ => ?_
    refine gives_ite (fun _ => nothing _ ?_) fun _ => ?_
    · exact yields_bind fun _ => yields_pure (barren_other _)
    refine gives_ite (fun _ => nothing _ pathExpression_barren) fun _ => ?_
    refine gives_ite (fun _ => nothing _ jump_barren) fun _ => ?_
    refine gives_bind_of_all fun _ rest => gives_ite (fun _ => nothing _ ?_) fun _ => ?_
    · exact yields_bind fun _ => yields_bind fun _ => yields_bind fun _ => yields_bind fun _ =>
        yields_pure (barren_other _)
    refine gives_ite (fun _ => ?_) fun _ => nothing _ compound_barren
    refine (h.range (fun e none => by cases none) rest).mono fun e rest' low => ?_
    exact low.mono fun x facts => ⟨facts.canonical, facts.opened, facts.tight rfl⟩

theorem all (n : Nat) : Grammatical n := by
  induction n with
  | zero =>
    exact ⟨yields_failure, fun _ _ _ _ => gives_failure, fun _ _ => gives_failure,
      fun _ _ _ _ => gives_failure, fun _ _ => gives_failure, fun _ => gives_failure,
      fun _ => gives_failure, yields_failure, yields_failure⟩
  | succ n ih =>
    exact ⟨ih.step_expression, ih.step_climb, ih.step_operand, ih.step_extend, ih.step_range,
      ih.step_unary, ih.step_atom, ih.step_parenthesized, ih.step_array⟩

end Grammatical

/-- **Every plain operand that a text denotes is canonical.** -/
theorem canonical_of_operandOfText {text : String} {x : Operand}
    (denotes : operandOfText text = .ok x) (plain : x.Plain) : x.Canonical := by
  rw [operandOfText] at denotes
  obtain ⟨e, whole, lowered⟩ := exists_of_bind_ok denotes
  rw [Expr.ofText] at whole
  split at whole
  · rename_i e' found
    cases whole
    rw [Expr.ofText?, Option.bind_eq_bind, Option.bind_eq_some_iff] at found
    obtain ⟨ts, -, found⟩ := found
    rw [Option.bind_eq_bind, Option.bind_eq_some_iff] at found
    obtain ⟨⟨e', rest⟩, read, found⟩ := found
    have low := (Grammatical.all _).expression ts e' rest read
    split at found
    · rename_i same
      cases same
      cases found
      exact low x lowered plain
    · cases found
  · cases whole

end ArrayCells.Source
