import ArrayCells.Environment.Access
import ArrayCells.Proofs.Agreement
import ArrayCells.Proofs.Denotation
import ArrayCells.Proofs.DerivedShapes
import ArrayCells.Proofs.EnvironmentRuns
import ArrayCells.Store.Plain

/-!
# Where faults get their place

The library raises faults without a place; the operations of an environment attach the place of the
evaluation to whatever they pass on.  No fault gets a place twice, so the one that is reported is
exactly the one that the same operation reports where no place is known, with the place attached.

* `PlacelessStore`: the stores that neither look at the place nor attach one, which are all stores of
  this library;
* `Binding.placelessRead_item`, `Bound.endsBare_assign`, `Source.failsBare_accessOfText`: reads,
  writes and the translation of texts raise faults without a place;
* `Placed`: what is promised of the operations of an environment;
* `Environment.faults_placed`: writes keep the promise, and so do accesses whose text can be
  translated;
* `Environment.access_untranslated`: an index expression that cannot be translated is refused without
  a place.
-/

namespace ArrayCells

/-! ### Stores -/

open CellStore

/-- A read that does not look at the place of the evaluation, and fails without one. -/
structure PlacelessRead (read : Context → Except Fault Operand) : Prop where
  place : ∀ ctx place, read { ctx with place } = read ctx
  bare : ∀ ctx, FailsBare (read ctx)

/-- Stores that leave the place of the evaluation to their callers. -/
class PlacelessStore (σ : Type) [CellStore σ] : Prop where
  items : ∀ (store : σ) c, PlacelessRead (readItem store c)
  constants : ∀ (store : σ) c, PlacelessRead (readConstItem store c)
  rows : ∀ (store : σ) c row content, FailsBare (writeRow store c row content)

/-- The default read tells the label of its context and nothing else. -/
theorem ReadsByDefault.placeless {σ : Type} [CellStore σ] (default : ReadsByDefault σ) (store : σ)
    (c : CellId) : PlacelessRead (readItem store c) where
  place ctx place := by rw [default, default]
  bare ctx := by
    rw [default]
    split
    · exact .ok _
    · exact .error rfl

instance : PlacelessStore Memory where
  items := ReadsByDefault.placeless fun _ _ _ => rfl
  constants := ReadsByDefault.placeless (σ := Memory) fun _ _ _ => rfl
  rows memory c row content := by
    show FailsBare (memory.writeRow c row content)
    unfold Memory.writeRow
    split
    · exact .ok _
    · exact .error rfl

instance : PlacelessStore PlainCells where
  items := ReadsByDefault.placeless fun _ _ _ => rfl
  constants := ReadsByDefault.placeless (σ := PlainCells) fun _ _ _ => rfl
  rows _ _ _ _ := .error rfl

instance : PlacelessStore RowsAnnounced where
  items := ReadsByDefault.placeless fun _ _ _ => rfl
  constants := ReadsByDefault.placeless (σ := RowsAnnounced) fun _ _ _ => rfl
  rows _ _ _ _ := .error rfl

instance : PlacelessStore NegatedConstants where
  items := ReadsByDefault.placeless fun _ _ _ => rfl
  constants store c :=
    { place := fun _ _ => rfl
      bare := fun ctx => by
        simp only [readConstItem]
        split
        · exact (Operand.failsBare_toInt _).bind fun _ => .ok _
        · exact .error rfl }
  rows _ _ _ _ := .error rfl

variable {σ : Type} [CellStore σ]

/-! ### Reading through a binding -/

theorem Shape.failsBare_narrow (shape : Shape) (t : List Int) (base : CellId)
    (lower upper : Option Int) : FailsBare (shape.narrow t base lower upper) := by
  intro fault failed
  obtain ⟨t', rfl⟩ := outOfShape_of_narrow failed
  rfl

namespace Binding

variable (b : Binding)

theorem failsBare_readRow (store : σ) (label : String) (c : CellId) (row : Int) :
    FailsBare (Binding.readRow store label c row) := by
  unfold Binding.readRow
  split
  · exact .ok _
  · exact .error rfl

theorem placelessRead_readCell [PlacelessStore σ] (store : σ) (c : CellId) :
    PlacelessRead (b.readCell store c) := by
  unfold readCell
  cases b.isConstant with
  | true => exact PlacelessStore.constants store c
  | false => exact PlacelessStore.items store c

theorem failsBare_itemOfArray [PlacelessStore σ] (store : σ) (shape : Shape) (access : Access)
    (label : String) (ctx : Context) :
    FailsBare (b.itemOfArray store shape access label ctx) := by
  have narrow := shape.failsBare_narrow access.fixed b.base
  simp only [itemOfArray]
  split
  · split
    · exact (shape.failsBare_locate _ _).bind fun c => (b.placelessRead_readCell store c).bare ctx
    · exact (narrow _ _).bind fun _ => .ok _
  · split
    · exact (shape.failsBare_locate _ _).bind fun c => failsBare_readRow store label c _
    · exact (narrow _ _).bind fun _ => .ok _
  · exact (narrow _ _).bind fun _ => .ok _

theorem failsBare_itemOfScalar [PlacelessStore σ] (store : σ) (access : Access) (label : String)
    (ctx : Context) : FailsBare (b.itemOfScalar store access label ctx) := by
  unfold itemOfScalar
  split
  · exact (b.placelessRead_readCell store b.base).bare ctx
  · split
    · exact failsBare_readRow store label b.base _
    · exact .error rfl
  · exact .error rfl

/-- **Reads through a binding** leave the place to their callers, too. -/
theorem placelessRead_item [PlacelessStore σ] (store : σ) (indexes : List Operand) :
    PlacelessRead (b.item store indexes) where
  place ctx place := by
    have cells (c : CellId) := (b.placelessRead_readCell store c).place ctx place
    simp only [item, itemOfArray, itemOfScalar, cells]
  bare ctx := by
    refine (Access.failsBare_ofOperandsFrom 0 _ indexes).bind fun access => ?_
    dsimp only
    split
    · exact (b.failsBare_itemOfArray store _ access _ ctx).bind fun _ => .ok _
    · exact (b.failsBare_itemOfScalar store access _ ctx).bind fun _ => .ok _

end Binding

/-! ### Elements of operands -/

theorem View.failsBare_item [PlacelessStore σ] (store : σ) (view : View) (t : List Int) :
    FailsBare (view.item store t) := by
  unfold item
  split
  · exact (view.shape.failsBare_locate _ _).bind fun c => (PlacelessStore.items store c).bare {}
  · exact (view.shape.failsBare_narrow _ _ _ _).bind fun _ => .ok _

/-- The search for an element fails with a fault of its own, or as one of the views of the operand
does. -/
theorem Operand.failsBare_item [PlacelessStore σ] (store : σ) (x : Operand) (t : List Int) :
    FailsBare (x.item store t) := by
  refine item.induct (fun x t => FailsBare (x.item store t))
    (fun outside items k t => outside.Bare → FailsBare (itemOf store outside items k t))
    ?whole ?negative ?listed ?viewed ?grouped ?other ?absent ?here ?further x t
  case whole =>
    intro x
    rw [item_nil]
    exact .ok x
  case negative =>
    intro items title label i rest low
    simp only [item, if_pos low]
    exact .error rfl
  case listed =>
    intro items title label i rest outside high found
    simp only [item, if_neg high]
    exact found rfl
  case viewed =>
    intro view label t nonempty
    rw [item_view store view label nonempty]
    exact view.failsBare_item store t
  case grouped =>
    intro x label t nonempty inner
    cases t with
    | nil => exact (nonempty rfl).elim
    | cons i t => simpa only [item] using inner
  case other =>
    intro x i t noList noView noGroup
    cases x with
    | list items title label => exact (noList items title label rfl).elim
    | view view label => exact (noView view label rfl).elim
    | group x label => exact (noGroup x label rfl).elim
    | _ =>
      simp only [item]
      exact .error rfl
  case absent =>
    intro outside k t bare
    simpa only [itemOf] using .error bare
  case here =>
    intro outside x xs rest found bare
    simpa only [itemOf] using found
  case further =>
    intro outside x xs k rest found bare
    simpa only [itemOf] using found bare

theorem RightSide.failsBare_element [PlacelessStore σ] (store : σ) (name : String) (t : List Int)
    (lengths : List Nat) (position : Nat) (relative : List Int) (value : RightSide) :
    FailsBare (value.element store name t lengths position relative) := by
  cases value with
  | single => exact .error rfl
  | indexable source => exact (source.failsBare_item store relative).map _
  | sequence contents =>
    simp only [element]
    split
    · exact .ok _
    · exact .error rfl

/-! ### Writes -/

/-- The action did not fail with a fault that has a place. -/
def EndsBare {ρ α : Type} (r : EStateM.Result Fault ρ α) : Prop :=
  ∀ fault s, r = .error fault s → fault.Bare

namespace EndsBare

variable {ρ α : Type}

theorem ok (a : α) (s : ρ) : EndsBare (.ok a s) := by
  rintro _ _ ⟨⟩

theorem error {fault : Fault} {s : ρ} (h : fault.Bare) : EndsBare (α := α) (.error fault s) := by
  rintro fault' s' ⟨⟩
  exact h

end EndsBare

/-- Both faults are the same one, which has no place. -/
def Fault.SameBare (fault fault' : Fault) : Prop :=
  fault = fault' ∧ fault.Bare

/-- A calculation that fails without a place agrees with itself in this sense. -/
theorem FailsBare.agree {α : Type} {x : Except Fault α} (h : FailsBare x) :
    Agree Fault.SameBare Eq x x := by
  cases x with
  | ok a => exact .ok rfl
  | error fault => exact .error ⟨rfl, h fault rfl⟩

namespace Bound

theorem lockstep_sameBare [PlacelessStore σ] :
    Lockstep Fault.SameBare Eq (Eq : σ → σ → Prop) where
  faults _ bare := ⟨rfl, bare⟩
  rows := congrArg hasRows
  writes := by
    rintro store _ rfl content _ rfl a
    cases a with
    | cell c => exact .ok rfl
    | row id => exact (PlacelessStore.rows store id.cell id.row content).agree

theorem pairs_sameBare [PlacelessStore σ] (value : RightSide) :
    value.Pairs Fault.SameBare Eq (Eq : σ → σ → Prop) value where
  single name := (value.failsBare_asSingle name).agree
  excess _ := rfl
  element := by
    rintro store _ rfl name t lengths position relative
    exact (value.failsBare_element store name t lengths position relative).agree

/-- **Writes fail without a place**, whatever they are given: such a write agrees with itself on
faults that have none. -/
theorem endsBare_assign [PlacelessStore σ] (value : RightSide) (t : List Int) (ctx : Context)
    (s : Bound σ) : EndsBare (assign value t ctx s) := by
  have itself := lockstep_sameBare.assign (rfl : s.store = s.store) s.binding
    (pairs_sameBare value) t (rfl : ctx.forceInit = ctx.forceInit)
  intro fault s' failed
  rw [failed] at itself
  cases itself with
  | error faults => exact faults.2

end Bound

/-! ### Texts of accesses -/

namespace Source

mutual

/-- No translation of an expression fails with a place. -/
theorem Expr.failsBare_toOperand (e : Expr) : FailsBare e.toOperand := by
  cases e with
  | integer value =>
    rw [toOperand]
    split
    · exact .ok _
    · exact .error rfl
  | negated e | paren e =>
    rw [toOperand]
    exact e.failsBare_toOperand.bind fun _ => .ok _
  | arith op a b =>
    rw [toOperand]
    exact a.failsBare_toOperand.bind fun _ => b.failsBare_toOperand.bind fun _ => .ok _
  | array items =>
    rw [toOperand]
    exact (Expr.failsBare_toOperands items).bind fun _ => .ok _
  | range lower upper closed =>
    rw [toOperand]
    exact (Expr.failsBare_toBound lower).bind fun _ =>
      (Expr.failsBare_toBound upper).bind fun _ => .ok _
  | call callee args =>
    by_cases named : callee = .path (some "spread")
    · rw [named, toOperand]
      refine (Expr.failsBare_toOperands args).bind fun items => ?_
      split <;> exact .ok _
    · rw [toOperand_call_of_ne args named]
      exact .error rfl
  | _ => exact .error rfl

theorem Expr.failsBare_toBound (bound : Option Expr) : FailsBare (Expr.toBound bound) := by
  cases bound with
  | none => exact .ok none
  | some e =>
    rw [toBound]
    exact e.failsBare_toOperand.bind fun _ => .ok _

theorem Expr.failsBare_toOperands (items : List Expr) : FailsBare (Expr.toOperands items) := by
  cases items with
  | nil => exact .ok []
  | cons e rest =>
    rw [toOperands]
    exact e.failsBare_toOperand.bind fun _ =>
      (Expr.failsBare_toOperands rest).bind fun _ => .ok _

end

theorem Expr.failsBare_accessFrom (e : Expr) (later : List Operand) :
    FailsBare (e.accessFrom later) := by
  fun_induction Expr.accessFrom e later with
  | case1 base i later rest => exact i.failsBare_toOperand.bind rest
  | case2 e later inner => exact inner
  | case3 name later => exact .ok _
  | case4 => exact .error rfl
  | case5 => exact .error rfl

/-- **The translation of a text fails without a place.** -/
theorem failsBare_accessOfText (text : String) : FailsBare (accessOfText text) := by
  have whole : FailsBare (Expr.ofText text) := by
    unfold Expr.ofText
    split
    · exact .ok _
    · exact .error rfl
  refine whole.bind fun e => ?_
  unfold Expr.toAccess
  split
  · exact Expr.failsBare_accessFrom _ []
  · exact Expr.failsBare_accessFrom _ []
  · exact .error rfl

end Source

/-! ### Placed operations -/

/-- The faults of a calculation have the place that it is given: each is exactly the fault without a
place, with this place attached. -/
structure Placed {α : Type} (run : Option Place → Except Fault α) : Prop where
  bare : FailsBare (run none)
  located : ∀ place, run (some place) = (run none).mapError (.located place)

/-- The same of an operation, which leaves the same state wherever the evaluation stands. -/
structure EndsPlaced {ρ α : Type} (run : Option Place → EStateM.Result Fault ρ α) : Prop where
  bare : EndsBare (run none)
  located : ∀ place, run (some place) =
    match run none with
    | .ok a s => .ok a s
    | .error fault s => .error (.located place fault) s

theorem FailsBare.placed {α : Type} {x : Except Fault α} (h : FailsBare x) :
    Placed fun place => x.mapError (·.within place) := by
  cases x with
  | ok a => exact ⟨.ok a, fun place => rfl⟩
  | error fault =>
    have bare := h fault rfl
    refine ⟨?_, fun place => ?_⟩
    · show FailsBare (.error (fault.within none))
      rw [fault.within_none]
      exact h
    · show Except.error (fault.within (some place)) = .error (.located place (fault.within none))
      rw [bare.within, fault.within_none]

namespace Environment

section

omit [CellStore σ]

theorem endsPlaced_placed {α : Type} {act : EStateM Fault (Environment σ) α}
    {env : Environment σ} (h : EndsBare (act env)) (ctx : Context) :
    EndsPlaced fun place => placed { ctx with place } act env := by
  simp only [placed, EStateM.adaptExcept]
  cases ended : act env with
  | ok a env' => exact ⟨.ok a env', fun place => rfl⟩
  | error fault env' =>
    have bare := h fault env' ended
    refine ⟨?_, fun place => ?_⟩
    · simp only [fault.within_none]
      exact .error bare
    · simp only [bare.within, fault.within_none]

theorem endsBare_through {α : Type} {act : Writing σ α} (each : ∀ s, EndsBare (act s))
    (name : String) (env : Environment σ) : EndsBare (through name act env) := by
  rcases unbound_or_newest name env.bindings with unbound | ⟨newer, b, older, split, named, others⟩
  · rw [through_of_unbound unbound]
    exact .error rfl
  · rw [through_of_bound split named others]
    simp only [onBinding]
    cases ended : act ⟨b, env.store⟩ with
    | ok a s => exact .ok a _
    | error fault s => exact .error (each _ fault s ended)

theorem failsBare_lookup (env : Environment σ) (name : String) : FailsBare (env.lookup name) := by
  unfold lookup
  split
  · exact .ok _
  · exact .error rfl

end

/-- A read of a name with given indexes has its faults placed. -/
theorem placed_read [PlacelessStore σ] (env : Environment σ) (name : String)
    (indexes : List Operand) (ctx : Context) :
    Placed fun place => env.read name indexes { ctx with place } := by
  have items (b : Binding) := b.placelessRead_item env.store indexes
  have bare : FailsBare (do
      let b ← env.lookup name
      b.item env.store indexes { ctx with label := some name }) :=
    (env.failsBare_lookup name).bind fun b => (items b).bare _
  have elsewhere (b : Binding) := (items b).place { ctx with label := some name }
  simpa only [read, elsewhere] using bare.placed

/-- **The faults of an environment have the place of the evaluation.**  Writes through a name, first
or later ones, always keep this promise.  An access that is given as a text keeps it just if the text
can be translated into a name and index operands; the fault of the translation is passed on without a
place, whatever the context says. -/
theorem faults_placed [PlacelessStore σ] (env : Environment σ) (ctx : Context) :
    (∀ name value t,
      (EndsPlaced fun place => assign name value t { ctx with place } env) ∧
        EndsPlaced fun place => assignFirst name value t { ctx with place } env) ∧
    ∀ text,
      ((Placed fun place => env.access text { ctx with place }) ↔
        ∃ access, Source.accessOfText text = .ok access) ∧
      ∀ fault, Source.accessOfText text = .error fault →
        fault.Bare ∧ ∀ place, env.access text { ctx with place } = .error fault := by
  refine ⟨fun name value t => ⟨?_, ?_⟩, fun text => ?_⟩
  · exact endsPlaced_placed
      (endsBare_through (Bound.endsBare_assign value t ctx) name env) ctx
  · exact endsPlaced_placed
      (endsBare_through (Bound.endsBare_assign value t { ctx with forceInit := true }) name env) ctx
  · cases translated : Source.accessOfText text with
    | ok access =>
      have reads (ctx : Context) : env.access text ctx = env.read access.1 access.2 ctx := by
        rw [Environment.access, translated]
        rfl
      simp only [reads]
      refine ⟨⟨fun _ => ⟨access, rfl⟩, fun _ => env.placed_read access.1 access.2 ctx⟩, ?_⟩
      rintro _ ⟨⟩
    | error fault =>
      have refused (ctx : Context) : env.access text ctx = .error fault := by
        rw [Environment.access, translated]
        rfl
      have bare := Source.failsBare_accessOfText text fault translated
      simp only [refused]
      refine ⟨⟨fun placed => ?_, fun ⟨_, kept⟩ => ?_⟩, ?_⟩
      · have located := placed.located ⟨"", 0, 0⟩
        cases Except.error.inj located
      · cases kept
      · rintro fault' ⟨⟩
        exact ⟨bare, fun _ => rfl⟩

/-- A write to a name without a binding, and an access beyond the end of an array, both at a place
that their faults report. -/
theorem faults_placed_beyond_end :
    let env : Environment Memory :=
      Operation.after (.declare "A" "int" [3] false) { store := {} }
    let place : Place := ⟨"main.pil", 3, 7⟩
    assign "x" (.single (.number 1)) [] { place := some place } env =
        .error (.located place (.undefinedReference "x")) env ∧
      env.access "A[5]" { place := some place } =
        .error (.located place (.indexOutOfShape [5] [3])) := by
  intro env place
  obtain ⟨writes, texts⟩ := faults_placed env {}
  have scanned : Source.tokens? "A[5]" =
      some [.name "A", .opening .bracket, .integer 5 false, .closing .bracket] := by
    decide +kernel
  have whole := Source.Expr.ofText_of_tokens scanned
    (e := .index (.path (some "A")) (.integer 5)) rfl
  have translated : Source.accessOfText "A[5]" = .ok ("A", [.int 5]) := by
    rw [Source.accessOfText, whole]
    rfl
  have bare : env.access "A[5]" {} = .error (.indexOutOfShape [5] [3]) := by
    rw [Environment.access, translated]
    rfl
  refine ⟨(writes "x" (.single (.number 1)) []).1.located place, ?_⟩
  rw [((texts "A[5]").1.mpr ⟨_, translated⟩).located place, bare]
  rfl

/-- **An index expression is refused without a place.**  The index is a name, which denotes no
operand, and the place in the context is lost. -/
theorem access_untranslated :
    let env : Environment Memory :=
      Operation.after (.declare "A" "int" [3] false) { store := {} }
    let place : Place := ⟨"main.pil", 3, 7⟩
    Source.Expr.ofText "A[i]" = .ok (.index (.path (some "A")) (.path (some "i"))) ∧
      env.access "A[i]" { place := some place } = .error (.unsupported (.form .path)) := by
  intro env place
  have scanned : Source.tokens? "A[i]" =
      some [.name "A", .opening .bracket, .name "i", .closing .bracket] := by
    decide +kernel
  have whole := Source.Expr.ofText_of_tokens scanned
    (e := .index (.path (some "A")) (.path (some "i"))) rfl
  refine ⟨whole, ?_⟩
  rw [Environment.access, Source.accessOfText, whole]
  rfl

end Environment

end ArrayCells
