import ArrayCells.Proofs.EnvironmentRuns

/-!
# What a scope guard undoes

`Environment.inScope` opens a scope, runs a body and closes a scope at the end.  It keeps no note of
the scope that it opened: what it closes is the scope that happens to be the innermost one.  The
body can open and close scopes itself, so this need not be the same.

* `GuardStep.after_eq`: guards are pairs of an opening and a closing operation;
* `Environment.Layered`, `Layered.pop_cases`: every scope lies on top of the scopes that were opened
  before it, and closing the innermost one takes away its frame and its bindings;
* `Environment.UndoesOwnScope`, `undoesOwnScope_pop_iff`: when closing a scope undoes the scope of a
  given guard and nothing else;
* `Environment.inScope_undoesOwnScope_iff`: this for every guard in every run, and that a body whose
  operations are balanced is always undone;
* `Environment.inScope_misses`: bodies that leave a scope open or close one too many.
-/

namespace ArrayCells

open CellStore

variable {σ : Type} [CellStore σ]

/-! ### Steps with guards -/

/-- A step of an evaluation that uses guards: an operation, or a guard and the steps that are done
through it. -/
inductive GuardStep where
  | op (operation : Operation)
  | guard (steps : List GuardStep)

namespace GuardStep

mutual

def run : GuardStep → StateM (Environment σ) Unit
  | op operation => modify operation.after
  | guard steps => Environment.inScope (runAll steps)

def runAll : List GuardStep → StateM (Environment σ) Unit
  | [] => pure ()
  | step :: steps => do
    run step
    runAll steps

end

/-- The environment that steps leave. -/
def after (steps : List GuardStep) (env : Environment σ) : Environment σ :=
  (runAll steps env).2

mutual

/-- The operations of a step, in which a guard is a push and a pop. -/
def operations : GuardStep → List Operation
  | op operation => [operation]
  | guard steps => .push :: (allOperations steps ++ [.pop])

def allOperations : List GuardStep → List Operation
  | [] => []
  | step :: steps => operations step ++ allOperations steps

end

end GuardStep

/-- Does the operations of a list, one after the other. -/
def Operation.run (ops : List Operation) (env : Environment σ) : Environment σ :=
  ops.foldl (fun env op => op.after env) env

theorem Operation.run_append (ops later : List Operation) (env : Environment σ) :
    run (ops ++ later) env = run later (run ops env) :=
  List.foldl_append

namespace GuardStep

theorem inScope_apply (steps : List GuardStep) (env : Environment σ) :
    (Environment.inScope (runAll steps) env).2 = (after steps env.push.2).pop := rfl

theorem after_cons (step : GuardStep) (steps : List GuardStep) (env : Environment σ) :
    after (step :: steps) env = after steps (run step env).2 := rfl

mutual

theorem run_eq : ∀ (step : GuardStep) (env : Environment σ),
    (run step env).2 = Operation.run step.operations env
  | op operation, env => by
    rw [run, operations]
    rfl
  | guard steps, env => by
    rw [run, operations, inScope_apply, after_eq steps env.push.2]
    show _ = Operation.run (allOperations steps ++ [.pop]) env.push.2
    rw [Operation.run_append]
    rfl

/-- **Guards are pushes and pops.** -/
theorem after_eq : ∀ (steps : List GuardStep) (env : Environment σ),
    after steps env = Operation.run (allOperations steps) env
  | [], env => rfl
  | step :: steps, env => by
    rw [after_cons, allOperations, Operation.run_append, run_eq step env,
      after_eq steps (Operation.run step.operations env)]

end

end GuardStep

/-! ### Writes keep what a binding is -/

namespace Writing

/-- In every store, the action changes no more of the binding than its record. -/
def KeepsBinding {α : Type} (act : Writing σ α) : Prop :=
  ∀ s, (Writing.after act s).binding.cleared = s.binding.cleared

omit [CellStore σ] in
theorem KeepsBinding.forM {β : Type} {round : β → Writing σ Unit}
    (each : ∀ x, KeepsBinding (round x)) (items : List β) : KeepsBinding (items.forM round) := by
  intro s
  induction items generalizing s with
  | nil => rfl
  | cons x items ih =>
    have here := each x s
    rw [Writing.after] at here ⊢
    rw [forM_cons_apply]
    cases outcome : round x s with
    | ok _ s' =>
      rw [outcome] at here
      exact (ih s').trans here
    | error e s' =>
      rw [outcome] at here
      exact here

end Writing

namespace Bound

open Writing

theorem keepsBinding_put (content : Content) (t : List Int) :
    KeepsBinding (put content t : Writing σ Unit) := by
  intro s
  rw [Writing.after, put_eq]
  cases s.binding.target (hasRows s.store) t with
  | error e => rfl
  | ok target =>
    dsimp only
    cases writeAt s.store content target.address <;> rfl

theorem keepsBinding_mark (t : List Int) : KeepsBinding (mark t : Writing σ Unit) := by
  intro s
  rw [Writing.after, mark_eq]
  cases marked : s.binding.mark (hasRows s.store) t with
  | error e => rfl
  | ok b => exact Binding.cleared_mark marked

theorem keepsBinding_assignOne (content : Content) (t : List Int) (ctx : Context) :
    KeepsBinding (assignOne content t ctx : Writing σ Unit) := by
  intro s
  have written := keepsBinding_put content t s
  rw [Writing.after] at written ⊢
  rw [assignOne_eq]
  cases s.binding.isMarked (hasRows s.store) t with
  | true =>
    cases ctx.forceInit with
    | true => rfl
    | false =>
      cases s.binding.isConstant with
      | true => rfl
      | false => exact written
  | false =>
    rw [if_neg Bool.false_ne_true]
    cases outcome : put content t s with
    | error e s' =>
      rw [outcome] at written
      exact written
    | ok _ s' =>
      rw [outcome] at written
      exact (keepsBinding_mark t s').trans written

theorem keepsBinding_assign (value : RightSide) (t : List Int) (ctx : Context) :
    KeepsBinding (assign value t ctx : Writing σ Unit) := by
  intro s
  rw [Writing.after, assign_eq]
  cases s.binding.opened (hasRows s.store) t with
  | error e => rfl
  | ok answer =>
    cases answer with
    | none =>
      cases value.asSingle s.binding.name with
      | error e => rfl
      | ok content => exact keepsBinding_assignOne content t ctx s
    | some lengths =>
      simp only [assignRegion_eq]
      cases value.excess? lengths with
      | some count => rfl
      | none =>
        refine KeepsBinding.forM (fun cell s' => ?_) _ s
        rw [Writing.after, assignCell_eq]
        cases value.element s'.store s'.binding.name t lengths cell.2 cell.1 with
        | error e => rfl
        | ok content => exact keepsBinding_assignOne content (t ++ cell.1) ctx s'

end Bound

/-- A call keeps the scope of the binding. -/
theorem Assignment.scope_after (call : Assignment) (s : Bound σ) :
    (call.after s).binding.scope = s.binding.scope := by
  rw [Assignment.after, Assignment.act_eq]
  have kept := Bound.keepsBinding_assign call.value call.indexes
    { call.ctx with forceInit := call.forced } s
  have scopes := congrArg Binding.scope kept
  exact scopes

/-! ### Layers -/

/-- The frames lie on top of each other.  Each starts where the bindings of the scopes around it
end, its own bindings carry its number, and its number is above those of the scopes around it. -/
inductive Layers : List Frame → List Binding → Prop
  | global {bindings : List Binding} (here : ∀ b ∈ bindings, b.scope.number = 0) :
      Layers [] bindings
  | scope {frame : Frame} {around : List Frame} {own older : List Binding}
      (outer : Layers around older) (start : frame.start = older.length)
      (here : ∀ b ∈ own, b.scope = frame.scope)
      (newer : ∀ f ∈ around, f.scope.number < frame.scope.number)
      (positive : 0 < frame.scope.number) : Layers (frame :: around) (own ++ older)

namespace Layers

variable {frames : List Frame} {bindings : List Binding}

theorem bindings_below (h : Layers frames bindings) {n : Nat} (positive : 0 < n)
    (all : ∀ frame ∈ frames, frame.scope.number < n) : ∀ b ∈ bindings, b.scope.number < n := by
  induction h with
  | global here =>
    intro b bound
    rw [here b bound]
    exact positive
  | scope outer start here newer _ ih =>
    rw [List.forall_mem_cons] at all
    intro b bound
    rcases List.mem_append.mp bound with mine | outside
    · rw [here b mine]
      exact all.1
    · exact ih all.2 b outside

/-- Only the numbers of the bindings matter. -/
theorem congr (h : Layers frames bindings) {bindings' : List Binding}
    (same : bindings'.map (·.scope) = bindings.map (·.scope)) : Layers frames bindings' := by
  induction h generalizing bindings' with
  | @global bindings here =>
    refine .global fun b bound => ?_
    have moved : b.scope ∈ bindings.map (·.scope) := same ▸ List.mem_map_of_mem bound
    obtain ⟨b', bound', number⟩ := List.mem_map.mp moved
    rw [← number, here b' bound']
  | @scope frame around own older outer start here newer positive ih =>
    rw [List.map_append, List.map_eq_append_iff] at same
    obtain ⟨mine, others, rfl, sameOwn, sameOlder⟩ := same
    refine .scope (ih sameOlder) ?_ (fun b bound => ?_) newer positive
    · rw [start, ← List.length_map, ← sameOlder, List.length_map]
    · have moved : b.scope ∈ own.map (·.scope) := sameOwn ▸ List.mem_map_of_mem bound
      obtain ⟨b', bound', number⟩ := List.mem_map.mp moved
      rw [← number, here b' bound']

end Layers

namespace Environment

/-- The scopes lie on top of each other and have numbers below the next one. -/
structure Layered (env : Environment σ) : Prop where
  layers : Layers env.frames env.bindings
  below : ∀ frame ∈ env.frames, frame.scope.number < env.nextScope
  positive : 0 < env.nextScope

namespace Layered

variable {env : Environment σ}

omit [CellStore σ] in
theorem start (store : σ) : Layered { store } where
  layers := .global fun b bound => by cases bound
  below := fun frame member => by cases member
  positive := Nat.zero_lt_one

omit [CellStore σ] in
theorem push (h : env.Layered) : env.push.2.Layered where
  layers := by
    show Layers (_ :: env.frames) ([] ++ env.bindings)
    exact .scope h.layers rfl (fun b bound => by cases bound) h.below h.positive
  below := by
    show ∀ frame ∈ _ :: _, _
    rw [List.forall_mem_cons]
    exact ⟨Nat.lt_succ_self _, fun frame member => Nat.lt_succ_of_lt (h.below frame member)⟩
  positive := Nat.succ_pos _

omit [CellStore σ] in
theorem bind (h : env.Layered) (b : Binding) : (env.bind b).Layered := by
  refine ⟨?_, h.below, h.positive⟩
  rcases env with ⟨bindings, frames, nextScope, store⟩
  cases h.layers with
  | global here => exact .global (List.forall_mem_cons.mpr ⟨rfl, here⟩)
  | @scope frame around own older outer start here newer positive =>
    show Layers _ (({ b with scope := frame.scope } :: own) ++ older)
    exact .scope outer start (List.forall_mem_cons.mpr ⟨rfl, here⟩) newer positive

/-- **Closing a scope** takes away the innermost frame and the bindings that carry its number; all
that is left has lower numbers.  At the global scope there is nothing to close. -/
theorem pop_cases (h : env.Layered) :
    (env.frames = [] ∧ env.pop = env) ∨
      ∃ frame around own older, env.frames = frame :: around ∧ env.bindings = own ++ older ∧
        env.pop.frames = around ∧ env.pop.bindings = older ∧ env.pop.nextScope = env.nextScope ∧
        Layers around older ∧ 0 < frame.scope.number ∧
        (∀ b ∈ own, b.scope = frame.scope) ∧
        (∀ f ∈ around, f.scope.number < frame.scope.number) := by
  rcases env with ⟨bindings, frames, nextScope, store⟩
  cases h.layers with
  | global here => exact .inl ⟨rfl, rfl⟩
  | @scope frame around own older outer start here newer positive =>
    refine .inr ⟨frame, around, own, older, rfl, rfl, rfl, ?_, rfl, outer, positive, here, newer⟩
    show (own ++ older).drop ((own ++ older).length - frame.start) = older
    rw [start, List.length_append, Nat.add_sub_cancel, List.drop_left]

theorem pop (h : env.Layered) : env.pop.Layered := by
  rcases h.pop_cases with ⟨-, same⟩ |
    ⟨frame, around, own, older, frames, -, frames', bindings', next, layers, -, -, -⟩
  · rw [same]
    exact h
  · have below := h.below
    rw [frames, List.forall_mem_cons] at below
    refine ⟨?_, ?_, ?_⟩
    · rw [frames', bindings']
      exact layers
    · rw [frames', next]
      exact below.2
    · rw [next]
      exact h.positive

theorem write (h : env.Layered) (name : String) (call : Assignment) :
    (env.write name call).Layered := by
  rcases write_cases name call env with ⟨-, same⟩ | ⟨newer, b, older, split, -, -, written⟩
  · rw [same]
    exact h
  · rw [written]
    refine ⟨h.layers.congr ?_, h.below, h.positive⟩
    simp only [split, List.map_append, List.map_cons, call.scope_after]

theorem after (h : env.Layered) (op : Operation) : (op.after env).Layered := by
  cases op with
  | push => exact h.push
  | pop => exact h.pop
  | declare name typeName lengths constant =>
    have reserved : Layered { env with store := (reserve env.store
        (Shape.ofDeclaration lengths).2).2 } := ⟨h.layers, h.below, h.positive⟩
    exact reserved.bind _
  | bind b => exact h.bind b
  | write name call => exact h.write name call

theorem run (h : env.Layered) (ops : List Operation) : (Operation.run ops env).Layered := by
  induction ops generalizing env with
  | nil => exact h
  | cons op ops ih => exact ih (h.after op)

end Layered

/-! ### Undoing a scope -/

/-- What the end of a guard should do: if the frame of the guard is still there, it goes with its
bindings, and so does all that lies above it; the frames and the bindings that lie below it stay. -/
structure UndoesOwnScope (guard : Frame) (inside after : Environment σ) : Prop where
  frames : guard ∈ inside.frames →
    ∀ frame ∈ after.frames, frame.scope.number < guard.scope.number
  bindings : guard ∈ inside.frames →
    ∀ b ∈ after.bindings, b.scope.number < guard.scope.number
  keepsFrames : (after.frames.filter fun frame => frame.scope.number < guard.scope.number) =
    inside.frames.filter fun frame => frame.scope.number < guard.scope.number
  keepsBindings : (after.bindings.filter fun b => b.scope.number < guard.scope.number) =
    inside.bindings.filter fun b => b.scope.number < guard.scope.number

/-- **Closing the innermost scope undoes the guard's** if that is the innermost one, or if it has
been closed already and there is no scope or a newer one in its place; and in no other case. -/
theorem undoesOwnScope_pop_iff {inside : Environment σ} (layered : inside.Layered) {guard : Frame}
    (own : ∀ frame ∈ inside.frames, frame.scope = guard.scope → frame = guard) :
    UndoesOwnScope guard inside inside.pop ↔
      inside.frames.head? = some guard ∨
        guard ∉ inside.frames ∧
          ∀ frame ∈ inside.frames.head?, guard.scope.number < frame.scope.number := by
  rcases layered.pop_cases with ⟨none, same⟩ |
    ⟨frame, around, mine, older, frames, bindings, frames', bindings', -, layers, positive, here,
      newer⟩
  · rw [same, none]
    refine ⟨fun _ => .inr ⟨List.not_mem_nil, fun frame member => by cases member⟩, fun _ => ?_⟩
    refine ⟨fun present => ?_, fun present => ?_, rfl, rfl⟩
    · rw [none] at present
      cases present
    · rw [none] at present
      cases present
  · -- what goes belongs to one scope, which is the guard's, a newer or an older one
    have goes : ∀ b ∈ mine, b.scope.number = frame.scope.number := fun b bound =>
      congrArg ScopeId.number (here b bound)
    have lower := layers.bindings_below positive newer
    constructor
    · intro undoes
      rw [frames, List.head?_cons]
      by_cases present : guard ∈ inside.frames
      · have left := undoes.frames present
        rw [frames] at present
        rw [frames'] at left
        rcases List.mem_cons.mp present with rfl | outside
        · exact .inl rfl
        · exact (Nat.lt_irrefl _ (left guard outside)).elim
      · refine .inr ⟨frames ▸ present, fun top same => ?_⟩
        obtain rfl := Option.some.inj same
        rcases Nat.lt_trichotomy frame.scope.number guard.scope.number with older | same | newer'
        · -- an older frame would have been taken away
          have kept := congrArg List.length undoes.keepsFrames
          rw [frames, frames', List.filter_cons_of_pos, List.length_cons] at kept
          · exact (Nat.succ_ne_self _ kept.symm).elim
          · exact decide_eq_true older
        · have itself := own frame (frames ▸ List.mem_cons_self) (congrArg ScopeId.mk same)
          rw [frames, itself] at present
          exact (present List.mem_cons_self).elim
        · exact newer'
    · intro position
      have notOlder : ¬ frame.scope.number < guard.scope.number := by
        rw [frames, List.head?_cons] at position
        rcases position with top | ⟨-, top⟩
        · rw [Option.some.inj top]
          exact Nat.lt_irrefl _
        · exact Nat.lt_asymm (top frame rfl)
      have innermost : guard ∈ inside.frames → frame = guard := by
        intro present
        rcases position with top | ⟨absent, -⟩
        · rw [frames, List.head?_cons] at top
          exact Option.some.inj top
        · exact (absent present).elim
      refine ⟨fun present => ?_, fun present => ?_, ?_, ?_⟩
      · rw [frames', ← innermost present]
        exact newer
      · rw [bindings', ← innermost present]
        exact lower
      · rw [frames, frames', List.filter_cons_of_neg]
        exact fun older => notOlder (of_decide_eq_true older)
      · have nothing : (mine.filter fun b => b.scope.number < guard.scope.number) = [] := by
          rw [List.filter_eq_nil_iff]
          intro b bound
          rw [goes b bound, decide_eq_true_eq]
          exact notOlder
        rw [bindings, bindings', List.filter_append, nothing, List.nil_append]

/-! ### Runs inside a guard -/

/-- Since an environment was as it is, frames were at most taken away or added with new numbers. -/
structure Since (env inside : Environment σ) : Prop where
  next : env.nextScope ≤ inside.nextScope
  frames : ∀ frame ∈ inside.frames, frame ∈ env.frames ∨ env.nextScope ≤ frame.scope.number

namespace Since

variable {env inside : Environment σ}

omit [CellStore σ] in
theorem refl (env : Environment σ) : Since env env :=
  ⟨Nat.le_refl _, fun _ member => .inl member⟩

theorem after (h : Since env inside) (op : Operation) : Since env (op.after inside) := by
  cases op with
  | push =>
    refine ⟨Nat.le_succ_of_le h.next, ?_⟩
    exact List.forall_mem_cons.mpr ⟨.inr h.next, h.frames⟩
  | pop =>
    show Since env inside.pop
    rw [Environment.pop]
    cases frames : inside.frames with
    | nil => exact h
    | cons frame around =>
      exact ⟨h.next, fun f member => h.frames f (frames ▸ List.mem_cons_of_mem _ member)⟩
  | declare name typeName lengths constant => exact ⟨h.next, h.frames⟩
  | bind b => exact ⟨h.next, h.frames⟩
  | write name call =>
    show Since env (inside.write name call)
    rcases write_cases name call inside with ⟨-, same⟩ | ⟨newer, b, older, -, -, -, written⟩
    · rw [same]
      exact h
    · rw [written]
      exact ⟨h.next, h.frames⟩

theorem run (h : Since env inside) (ops : List Operation) :
    Since env (Operation.run ops inside) := by
  induction ops generalizing inside with
  | nil => exact h
  | cons op ops ih => exact ih (h.after op)

end Since

end Environment

namespace GuardStep

/-- Steps whose own openings and closings are balanced. -/
inductive Balanced : List GuardStep → Prop
  | nil : Balanced []
  | op {operation : Operation} (opens : operation ≠ .push) (closes : operation ≠ .pop)
      {rest : List GuardStep} (balanced : Balanced rest) : Balanced (.op operation :: rest)
  | guard {body rest : List GuardStep} (inside : Balanced body) (balanced : Balanced rest) :
      Balanced (.guard body :: rest)
  | block {body rest : List GuardStep} (inside : Balanced body) (balanced : Balanced rest) :
      Balanced (.op .push :: body ++ .op .pop :: rest)

theorem after_append (steps later : List GuardStep) (env : Environment σ) :
    after (steps ++ later) env = after later (after steps env) := by
  induction steps generalizing env with
  | nil => rfl
  | cons step steps ih => exact ih (run step env).2

theorem frames_after_of_no_scope {operation : Operation} (opens : operation ≠ .push)
    (closes : operation ≠ .pop) (env : Environment σ) :
    (operation.after env).frames = env.frames := by
  cases operation with
  | push => exact (opens rfl).elim
  | pop => exact (closes rfl).elim
  | declare name typeName lengths constant => rfl
  | bind b => rfl
  | write name call =>
    show (env.write name call).frames = env.frames
    rcases Environment.write_cases name call env with
      ⟨-, same⟩ | ⟨newer, b, older, -, -, -, written⟩
    · rw [same]
    · rw [written]

theorem frames_pop {env : Environment σ} {frame : Frame} {around : List Frame}
    (frames : env.frames = frame :: around) : env.pop.frames = around := by
  rw [Environment.pop, frames]

/-- **Balanced steps keep the frames.**  The induction follows the nesting of guards and blocks. -/
theorem Balanced.frames {steps : List GuardStep} (h : Balanced steps) (env : Environment σ) :
    (after steps env).frames = env.frames := by
  induction h generalizing env with
  | nil => rfl
  | @op operation opens closes rest balanced ih =>
    exact (ih (operation.after env)).trans (frames_after_of_no_scope opens closes env)
  | @guard body rest inside balanced ihInside ihRest =>
    have closed : (after body env.push.2).pop.frames = env.frames :=
      frames_pop (ihInside env.push.2)
    exact (ihRest (after body env.push.2).pop).trans closed
  | @block body rest inside balanced ihInside ihRest =>
    have closed : (after body env.push.2).pop.frames = env.frames :=
      frames_pop (ihInside env.push.2)
    rw [after_append]
    exact (ihRest (after body env.push.2).pop).trans closed

end GuardStep

namespace Environment

/-- **When a guard undoes its own scope.**  At the end of a guard there are its own frame, frames
from before it and frames with higher numbers, as far as they have not been closed.  The end undoes
the scope of the guard and no other if that scope is the innermost one, or if it has been closed and
nothing older is innermost; not in any other case.  If the steps are balanced, the scope of the
guard is the innermost one, and the frames after the guard are those from before it. -/
theorem inScope_undoesOwnScope_iff (store : σ) (earlier steps : List GuardStep) :
    let env := GuardStep.after earlier ({ store } : Environment σ)
    let guard : Frame := ⟨env.push.1, env.bindings.length⟩
    let inside := GuardStep.after steps env.push.2
    let dropped := (inScope (GuardStep.runAll steps) env).2
    (∀ frame ∈ inside.frames,
      frame = guard ∨ frame ∈ env.frames ∨ guard.scope.number < frame.scope.number) ∧
      (UndoesOwnScope guard inside dropped ↔
        inside.frames.head? = some guard ∨
          guard ∉ inside.frames ∧
            ∀ frame ∈ inside.frames.head?, guard.scope.number < frame.scope.number) ∧
      (GuardStep.Balanced steps →
        UndoesOwnScope guard inside dropped ∧ inside.frames = guard :: env.frames ∧
          dropped.frames = env.frames) := by
  intro env guard inside dropped
  have layered : env.Layered := by
    rw [show env = _ from GuardStep.after_eq earlier { store }]
    exact (Layered.start store).run _
  have layeredInside : inside.Layered := by
    rw [show inside = _ from GuardStep.after_eq steps env.push.2]
    exact layered.push.run _
  have since : Since env.push.2 inside := by
    rw [show inside = _ from GuardStep.after_eq steps env.push.2]
    exact (Since.refl env.push.2).run _
  have present : ∀ frame ∈ inside.frames,
      frame = guard ∨ frame ∈ env.frames ∨ guard.scope.number < frame.scope.number := by
    intro frame member
    rcases since.frames frame member with before | newer
    · rcases List.mem_cons.mp before with itself | outside
      · exact .inl itself
      · exact .inr (.inl outside)
    · exact .inr (.inr newer)
  have own : ∀ frame ∈ inside.frames, frame.scope = guard.scope → frame = guard := by
    intro frame member same
    rcases present frame member with itself | outside | newer
    · exact itself
    · have lower := layered.below frame outside
      rw [same] at lower
      exact (Nat.lt_irrefl _ lower).elim
    · rw [same] at newer
      exact (Nat.lt_irrefl _ newer).elim
  have criterion := undoesOwnScope_pop_iff layeredInside own
  refine ⟨present, criterion, fun balanced => ?_⟩
  have frames : inside.frames = guard :: env.frames := balanced.frames env.push.2
  exact ⟨criterion.mpr (.inl (by rw [frames, List.head?_cons])), frames,
    GuardStep.frames_pop frames⟩

/-- **Guards that miss their scope.**  A scope that is opened through the guard and left open is
closed in place of the guard's.  After a closing through the guard, its end closes the scope around
it with all that is declared there. -/
theorem inScope_misses :
    (let env : Environment Memory := { store := {} }
      let guard : Frame := ⟨env.push.1, env.bindings.length⟩
      let steps : List GuardStep := [.op .push]
      let dropped := (inScope (GuardStep.runAll steps) env).2
      dropped.frames = [guard] ∧
        ¬ UndoesOwnScope guard (GuardStep.after steps env.push.2) dropped) ∧
    (let env : Environment Memory :=
        GuardStep.after [.op .push, .op (.declare "x" "int" [] false)] { store := {} }
      let guard : Frame := ⟨env.push.1, env.bindings.length⟩
      let steps : List GuardStep := [.op .pop]
      let dropped := (inScope (GuardStep.runAll steps) env).2
      env.frames.length = 1 ∧ env.bindings.map (·.name) = ["x"] ∧ dropped.frames = [] ∧
        dropped.bindings = [] ∧
        ¬ UndoesOwnScope guard (GuardStep.after steps env.push.2) dropped) := by
  constructor
  · intro env guard steps dropped
    have left : dropped.frames = [guard] := rfl
    refine ⟨left, fun undoes => ?_⟩
    have below := undoes.frames (List.mem_cons_of_mem _ List.mem_cons_self) guard
      (left ▸ List.mem_cons_self)
    exact Nat.lt_irrefl _ below
  · intro env guard steps dropped
    refine ⟨rfl, rfl, rfl, rfl, fun undoes => ?_⟩
    have kept := congrArg List.length undoes.keepsFrames
    cases kept

end Environment

end ArrayCells
