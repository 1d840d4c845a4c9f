import ArrayCells.Proofs.EnvironmentRuns

/-!
# The flat table of bindings as a stack of scopes

An environment keeps all bindings in one list and remembers only where each scope begins.  A
`ScopeStack` keeps the scopes apart, each with its number and a list of its own, and `flatten` lays
them out one after the other.  The two behave alike:

* `ScopeChange.run_flatten`: whatever is done to the scopes, the environment is the stack laid out;
* `ScopeStack.Numbered`: numbers rise from the global scope inwards and are all below the next one,
  and every binding carries the number of its scope;
* `find?_flatten`, `currentBindings_flatten`: names are looked up scope by scope;
* `Environment.through_cases`: an action through a name runs on the binding that is found;
* `ScopeChange.run_block_of_added`, `ScopeChange.Balanced.run`: a balanced block leaves no trace in
  the bindings and the frames;
* `Environment.refines_scopeStack`: all of this for every run from a new environment.
-/

namespace ArrayCells

/-- A scope and its bindings, the oldest first. -/
structure Scope where
  id : ScopeId
  bindings : List Binding

/-- The latest binding of a name in the scope. -/
def Scope.latest? (scope : Scope) (name : String) : Option Binding :=
  scope.bindings.reverse.find? (·.name == name)

/-- The open scopes above the global one, the innermost first, and the bindings of the global one,
the oldest first. -/
structure ScopeStack (σ : Type) where
  inner : List Scope := []
  global : List Binding := []
  /-- The number of the next scope. -/
  nextScope : Nat := 1
  store : σ

/-! ### Stacks of scopes -/

namespace ScopeStack

section

variable {σ : Type}

/-- All open scopes, the innermost first; the global one has number 0. -/
def scopes (stack : ScopeStack σ) : List Scope :=
  stack.inner ++ [⟨{}, stack.global⟩]

/-- The innermost scope. -/
def top (stack : ScopeStack σ) : Scope :=
  match stack.inner with
  | scope :: _ => scope
  | [] => ⟨{}, stack.global⟩

def push (stack : ScopeStack σ) : ScopeStack σ :=
  { stack with
    inner := ⟨⟨stack.nextScope⟩, []⟩ :: stack.inner
    nextScope := stack.nextScope + 1 }

/-- Adds a binding to the innermost scope. -/
def bind (stack : ScopeStack σ) (b : Binding) : ScopeStack σ :=
  let b := { b with scope := stack.top.id }
  match stack.inner with
  | scope :: outer => { stack with inner := ⟨scope.id, scope.bindings ++ [b]⟩ :: outer }
  | [] => { stack with global := stack.global ++ [b] }

/-- The latest binding of a name in the innermost scope that has one. -/
def find? (stack : ScopeStack σ) (name : String) : Option Binding :=
  stack.scopes.findSome? (·.latest? name)

end

variable {σ : Type} [CellStore σ]

/-- Closes the innermost scope, whose bindings release what they own; the global scope stays. -/
def pop (stack : ScopeStack σ) : ScopeStack σ :=
  match stack.inner with
  | scope :: outer =>
    { stack with
      inner := outer
      store := scope.bindings.foldl Environment.releaseOwned stack.store }
  | [] => stack

/-- Declares a variable or a constant with cells of its own in the innermost scope. -/
def declare (stack : ScopeStack σ) (name typeName : String) (lengths : List Nat)
    (constant : Bool) : ScopeStack σ :=
  let (shape, count) := Shape.ofDeclaration lengths
  let (base, store) := CellStore.reserve stack.store count
  { stack with store }.bind { name, typeName, shape, base, flags := { constant } }

end ScopeStack

/-- What is done to scopes. -/
inductive ScopeChange where
  | push
  | pop
  | declare (name typeName : String) (lengths : List Nat) (constant : Bool)
  | bind (b : Binding)

namespace ScopeChange

variable {σ : Type} [CellStore σ]

/-- The change as an operation on an environment. -/
def operation : ScopeChange → Operation
  | push => .push
  | pop => .pop
  | declare name typeName lengths constant => .declare name typeName lengths constant
  | bind b => .bind b

/-- The change of a stack of scopes. -/
def onStack : ScopeChange → ScopeStack σ → ScopeStack σ
  | push, stack => stack.push
  | pop, stack => stack.pop
  | declare name typeName lengths constant, stack => stack.declare name typeName lengths constant
  | bind b, stack => stack.bind b

/-- Makes the changes of a list in an environment, one after the other. -/
def run (changes : List ScopeChange) (env : Environment σ) : Environment σ :=
  changes.foldl (fun env change => change.operation.after env) env

/-- Makes the changes of a list in a stack of scopes. -/
def runOnStack (changes : List ScopeChange) (stack : ScopeStack σ) : ScopeStack σ :=
  changes.foldl (fun stack change => change.onStack stack) stack

theorem run_append (changes later : List ScopeChange) (env : Environment σ) :
    run (changes ++ later) env = run later (run changes env) :=
  List.foldl_append

theorem runOnStack_append (changes later : List ScopeChange) (stack : ScopeStack σ) :
    runOnStack (changes ++ later) stack = runOnStack later (runOnStack changes stack) :=
  List.foldl_append

end ScopeChange

/-! ### Laying out the scopes -/

namespace ScopeStack

section

variable {σ : Type}

/-- The bindings of a list of scopes and of the global one below them, the newest first. -/
def layout (global : List Binding) (inner : List Scope) : List Binding :=
  inner.flatMap (·.bindings.reverse) ++ global.reverse

/-- A scope begins after all bindings of the scopes around it. -/
def frames (global : List Binding) : List Scope → List Frame
  | [] => []
  | scope :: outer => ⟨scope.id, (layout global outer).length⟩ :: frames global outer

/-- The environment in which the scopes lie one after the other. -/
def flatten (stack : ScopeStack σ) : Environment σ where
  bindings := layout stack.global stack.inner
  frames := frames stack.global stack.inner
  nextScope := stack.nextScope
  store := stack.store

theorem layout_cons (global : List Binding) (scope : Scope) (outer : List Scope) :
    layout global (scope :: outer) = scope.bindings.reverse ++ layout global outer := by
  rw [layout, List.flatMap_cons, List.append_assoc]
  rfl

theorem currentScope_flatten (stack : ScopeStack σ) :
    stack.flatten.currentScope = stack.top.id := by
  rcases stack with ⟨inner, global, nextScope, store⟩
  cases inner <;> rfl

/-- The list of bindings is cut where the innermost scope begins. -/
theorem take_layout_cons (global : List Binding) (scope : Scope) (outer : List Scope) :
    (layout global (scope :: outer)).take
        ((layout global (scope :: outer)).length - (layout global outer).length) =
      scope.bindings.reverse := by
  rw [layout_cons, List.length_append, Nat.add_sub_cancel, List.take_left]

theorem drop_layout_cons (global : List Binding) (scope : Scope) (outer : List Scope) :
    (layout global (scope :: outer)).drop
        ((layout global (scope :: outer)).length - (layout global outer).length) =
      layout global outer := by
  rw [layout_cons, List.length_append, Nat.add_sub_cancel, List.drop_left]

/-- **The current bindings are those of the innermost scope.** -/
theorem currentBindings_flatten (stack : ScopeStack σ) :
    stack.flatten.currentBindings = stack.top.bindings := by
  rcases stack with ⟨inner, global, nextScope, store⟩
  cases inner with
  | nil =>
    show ((layout global []).take ((layout global []).length - 0)).reverse = global
    rw [Nat.sub_zero, List.take_length]
    exact List.reverse_reverse global
  | cons scope outer =>
    have cut := take_layout_cons global scope outer
    show (List.take _ _).reverse = scope.bindings
    rw [← List.reverse_reverse scope.bindings, ← cut]
    rfl

theorem bind_flatten (stack : ScopeStack σ) (b : Binding) :
    stack.flatten.bind b = (stack.bind b).flatten := by
  rcases stack with ⟨inner, global, nextScope, store⟩
  cases inner with
  | nil =>
    simp only [Environment.bind, bind, flatten, layout, List.reverse_append]
    rfl
  | cons scope outer =>
    simp only [Environment.bind, bind, flatten, layout_cons, List.reverse_append]
    rfl

end

variable {σ : Type} [CellStore σ]

theorem pop_flatten (stack : ScopeStack σ) : stack.flatten.pop = stack.pop.flatten := by
  have here := currentBindings_flatten stack
  rcases stack with ⟨inner, global, nextScope, store⟩
  cases inner with
  | nil => rfl
  | cons scope outer =>
    let stack : ScopeStack σ := ⟨scope :: outer, global, nextScope, store⟩
    let all := layout global (scope :: outer)
    calc stack.flatten.pop
      _ = ⟨all.drop (all.length - (layout global outer).length), frames global outer, nextScope,
            stack.flatten.currentBindings.foldl Environment.releaseOwned store⟩ := rfl
      _ = stack.pop.flatten := by
        rw [drop_layout_cons, here]
        rfl

theorem declare_flatten (stack : ScopeStack σ) (name typeName : String) (lengths : List Nat)
    (constant : Bool) :
    stack.flatten.declare name typeName lengths constant =
      (stack.declare name typeName lengths constant).flatten := by
  rw [Environment.declare, declare, ← bind_flatten]
  rfl

end ScopeStack

namespace ScopeChange

variable {σ : Type} [CellStore σ]

/-- **Every change commutes with laying out the scopes.** -/
theorem after_flatten (change : ScopeChange) (stack : ScopeStack σ) :
    change.operation.after stack.flatten = (change.onStack stack).flatten := by
  cases change with
  | push => rfl
  | pop => exact stack.pop_flatten
  | declare name typeName lengths constant =>
    exact stack.declare_flatten name typeName lengths constant
  | bind b => exact stack.bind_flatten b

theorem run_flatten (changes : List ScopeChange) (stack : ScopeStack σ) :
    run changes stack.flatten = (runOnStack changes stack).flatten := by
  induction changes generalizing stack with
  | nil => rfl
  | cons change changes ih =>
    show run changes (change.operation.after stack.flatten) = _
    rw [after_flatten]
    exact ih (change.onStack stack)

end ScopeChange

/-! ### Frames and names of a stack that is laid out -/

namespace ScopeStack

variable {σ : Type}

/-- A scope begins after the scopes around it. -/
theorem start_le_of_mem_frames (global : List Binding) (inner : List Scope) {frame : Frame}
    (member : frame ∈ frames global inner) : frame.start ≤ (layout global inner).length := by
  induction inner with
  | nil => cases member
  | cons scope outer ih =>
    rw [layout_cons, List.length_append]
    rcases List.mem_cons.mp member with rfl | member
    · exact Nat.le_add_left _ _
    · exact Nat.le_trans (ih member) (Nat.le_add_left _ _)

theorem pairwise_frames (global : List Binding) (inner : List Scope) :
    (frames global inner).Pairwise fun frame around => around.start ≤ frame.start := by
  induction inner with
  | nil => exact .nil
  | cons scope outer ih =>
    exact .cons (fun _ member => start_le_of_mem_frames global outer member) ih

theorem bindings_flatten (stack : ScopeStack σ) :
    stack.flatten.bindings = stack.scopes.flatMap (·.bindings.reverse) := by
  show layout stack.global stack.inner = _
  rw [scopes, List.flatMap_append, List.flatMap_singleton, layout]

/-- **A name is looked up scope by scope.** -/
theorem find?_flatten (stack : ScopeStack σ) (name : String) :
    stack.flatten.find? name = stack.find? name := by
  rw [Environment.find?, bindings_flatten, List.find?_flatMap]
  rfl

theorem find?_eq_none_iff (stack : ScopeStack σ) (name : String) :
    stack.find? name = none ↔ ∀ scope ∈ stack.scopes, ∀ b ∈ scope.bindings, b.name ≠ name := by
  simp only [find?, Scope.latest?, List.findSome?_eq_none_iff, List.find?_eq_none,
    List.mem_reverse, beq_iff_eq]

/-! ### Numbers of scopes -/

/-- Numbers rise from the global scope inwards and are all below the next one, and every binding
carries the number of the scope in which it lies. -/
structure Numbered (stack : ScopeStack σ) : Prop where
  rising : stack.scopes.Pairwise fun scope around => around.id.number < scope.id.number
  below : ∀ scope ∈ stack.scopes, scope.id.number < stack.nextScope
  own : ∀ scope ∈ stack.scopes, ∀ b ∈ scope.bindings, b.scope = scope.id

theorem numbered_start (store : σ) : Numbered { store } where
  rising := List.pairwise_singleton _ _
  below := by
    intro scope member
    rw [List.mem_singleton.mp member]
    exact Nat.zero_lt_one
  own := by
    intro scope member b bound
    rw [List.mem_singleton.mp member] at bound
    cases bound

theorem scopes_push (stack : ScopeStack σ) :
    stack.push.scopes = ⟨⟨stack.nextScope⟩, []⟩ :: stack.scopes := rfl

theorem Numbered.push {stack : ScopeStack σ} (h : stack.Numbered) : stack.push.Numbered where
  rising := by
    rw [scopes_push, List.pairwise_cons]
    exact ⟨h.below, h.rising⟩
  below := by
    rw [scopes_push, List.forall_mem_cons]
    exact ⟨Nat.lt_succ_self _, fun scope member => Nat.lt_succ_of_lt (h.below scope member)⟩
  own := by
    rw [scopes_push, List.forall_mem_cons]
    exact ⟨fun b bound => (List.not_mem_nil bound).elim, h.own⟩

/-- A new binding goes to the innermost scope and carries its number. -/
theorem scopes_bind (stack : ScopeStack σ) (b : Binding) :
    ∃ outer, stack.scopes = stack.top :: outer ∧
      (stack.bind b).scopes =
        ⟨stack.top.id, stack.top.bindings ++ [{ b with scope := stack.top.id }]⟩ :: outer := by
  rcases stack with ⟨inner, global, nextScope, store⟩
  cases inner with
  | nil => exact ⟨[], rfl, rfl⟩
  | cons scope outer => exact ⟨outer ++ [⟨{}, global⟩], rfl, rfl⟩

theorem nextScope_bind (stack : ScopeStack σ) (b : Binding) :
    (stack.bind b).nextScope = stack.nextScope := by
  rcases stack with ⟨inner, global, nextScope, store⟩
  cases inner <;> rfl

theorem Numbered.bind {stack : ScopeStack σ} (h : stack.Numbered) (b : Binding) :
    (stack.bind b).Numbered := by
  obtain ⟨outer, before, after⟩ := scopes_bind stack b
  obtain ⟨rising, below, own⟩ := h
  rw [before] at rising below own
  rw [List.forall_mem_cons] at below own
  refine ⟨?_, ?_, ?_⟩
  · rw [after]
    exact .cons (fun _ member => List.rel_of_pairwise_cons rising member) rising.of_cons
  · rw [after, nextScope_bind, List.forall_mem_cons]
    exact below
  · rw [after, List.forall_mem_cons]
    refine ⟨fun x bound => ?_, own.2⟩
    rcases List.mem_append.mp bound with old | new
    · exact own.1 x old
    · rw [List.mem_singleton.mp new]

section

variable [CellStore σ]

/-- A declaration binds what it makes, over a store with cells reserved for it. -/
theorem declare_eq_bind (stack : ScopeStack σ) (name typeName : String) (lengths : List Nat)
    (constant : Bool) :
    ∃ (b : Binding) (store : σ), stack.declare name typeName lengths constant =
      ScopeStack.bind { stack with store } b :=
  ⟨_, _, rfl⟩

theorem Numbered.declare {stack : ScopeStack σ} (h : stack.Numbered) (name typeName : String)
    (lengths : List Nat) (constant : Bool) :
    (stack.declare name typeName lengths constant).Numbered := by
  obtain ⟨b, store, declared⟩ := declare_eq_bind stack name typeName lengths constant
  have reserved : Numbered { stack with store } := ⟨h.rising, h.below, h.own⟩
  rw [declared]
  exact reserved.bind b

theorem Numbered.pop {stack : ScopeStack σ} (h : stack.Numbered) : stack.pop.Numbered := by
  rcases stack with ⟨inner, global, nextScope, store⟩
  cases inner with
  | nil => exact h
  | cons scope outer =>
    exact ⟨h.rising.of_cons, fun x member => h.below x (List.mem_cons_of_mem _ member),
      fun x member => h.own x (List.mem_cons_of_mem _ member)⟩

theorem Numbered.onStack {stack : ScopeStack σ} (h : stack.Numbered) (change : ScopeChange) :
    (change.onStack stack).Numbered := by
  cases change with
  | push => exact h.push
  | pop => exact h.pop
  | declare name typeName lengths constant => exact h.declare name typeName lengths constant
  | bind b => exact h.bind b

theorem Numbered.run {stack : ScopeStack σ} (h : stack.Numbered) (changes : List ScopeChange) :
    (ScopeChange.runOnStack changes stack).Numbered := by
  induction changes generalizing stack with
  | nil => exact h
  | cons change changes ih => exact ih (h.onStack change)

end

end ScopeStack

/-- Numbers of scopes are not given out again. -/
theorem ScopeChange.nextScope_le_onStack {σ : Type} [CellStore σ] (change : ScopeChange)
    (stack : ScopeStack σ) : stack.nextScope ≤ (change.onStack stack).nextScope := by
  cases change with
  | push => exact Nat.le_succ _
  | pop =>
    rcases stack with ⟨inner, global, nextScope, store⟩
    cases inner <;> exact Nat.le_refl _
  | declare name typeName lengths constant =>
    obtain ⟨b, store, declared⟩ :=
      ScopeStack.declare_eq_bind stack name typeName lengths constant
    rw [onStack, declared, ScopeStack.nextScope_bind]
  | bind b => exact Nat.le_of_eq (stack.nextScope_bind b).symm

theorem ScopeChange.nextScope_le_run {σ : Type} [CellStore σ] (changes : List ScopeChange)
    (stack : ScopeStack σ) : stack.nextScope ≤ (runOnStack changes stack).nextScope := by
  induction changes generalizing stack with
  | nil => exact Nat.le_refl _
  | cons change changes ih =>
    exact Nat.le_trans (change.nextScope_le_onStack stack) (ih (change.onStack stack))

/-! ### Actions through names -/

namespace Environment

variable {σ : Type}

/-- **An action through a name runs on the binding that is found**, and what it makes of the binding
takes its place.  If none is found, the name is undefined and nothing changes. -/
theorem through_cases {α : Type} (name : String) (act : Writing σ α) (env : Environment σ) :
    (env.find? name = none ∧ through name act env = .error (.undefinedReference name) env) ∨
      ∃ newer b older, env.find? name = some b ∧ env.bindings = newer ++ b :: older ∧
        through name act env = onBinding act env newer b older := by
  rcases unbound_or_newest name env.bindings with unbound | ⟨newer, b, older, split, named, others⟩
  · refine .inl ⟨?_, through_of_unbound unbound act⟩
    rw [find?, List.find?_eq_none]
    intro b bound
    rw [beq_iff_eq]
    exact unbound b bound
  · refine .inr ⟨newer, b, older, ?_, split, through_of_bound split named others act⟩
    have skipped : newer.find? (·.name == name) = none := by
      rw [List.find?_eq_none]
      intro x member
      rw [beq_iff_eq]
      exact others x member
    rw [find?, split, List.find?_append, skipped, Option.none_or, List.find?_cons_of_pos]
    rw [beq_iff_eq]
    exact named

end Environment

/-! ### Balanced blocks -/

namespace ScopeChange

/-- Changes that close all the scopes that they open, and no others. -/
inductive Balanced : List ScopeChange → Prop
  | nil : Balanced []
  | declare (name typeName : String) (lengths : List Nat) (constant : Bool)
      {rest : List ScopeChange} (balanced : Balanced rest) :
      Balanced (.declare name typeName lengths constant :: rest)
  | bind (b : Binding) {rest : List ScopeChange} (balanced : Balanced rest) :
      Balanced (.bind b :: rest)
  | block {body rest : List ScopeChange} (inside : Balanced body) (balanced : Balanced rest) :
      Balanced (.push :: body ++ .pop :: rest)

variable {σ : Type} [CellStore σ]

theorem declare_eq_bind (env : Environment σ) (name typeName : String) (lengths : List Nat)
    (constant : Bool) :
    ∃ (b : Binding) (store : σ), env.declare name typeName lengths constant =
      Environment.bind { env with store } b :=
  ⟨_, _, rfl⟩

/-- Closing a scope in which bindings were at most added takes them all away. -/
theorem pop_of_added {env inside : Environment σ} {added : List Binding}
    (frames : inside.frames = env.push.2.frames)
    (bindings : inside.bindings = added ++ env.push.2.bindings) :
    inside.pop.frames = env.frames ∧ inside.pop.bindings = env.bindings := by
  have top : inside.frames = ⟨⟨env.nextScope⟩, env.bindings.length⟩ :: env.frames := frames
  have all : inside.bindings = added ++ env.bindings := bindings
  simp only [Environment.pop, top, all, List.length_append, Nat.add_sub_cancel, List.drop_left,
    and_self]

/-- **A block leaves no trace** in the bindings and the frames if what is done inside of it keeps
the frames and at most adds bindings. -/
theorem run_block_of_added {body : List ScopeChange} {env : Environment σ}
    (inside : (run body env.push.2).frames = env.push.2.frames ∧
      ∃ added, (run body env.push.2).bindings = added ++ env.push.2.bindings) :
    (run (.push :: body ++ [.pop]) env).frames = env.frames ∧
      (run (.push :: body ++ [.pop]) env).bindings = env.bindings := by
  obtain ⟨frames, added, bindings⟩ := inside
  have closed : run (.push :: body ++ [.pop]) env = (run body env.push.2).pop :=
    run_append (.push :: body) [.pop] env
  rw [closed]
  exact pop_of_added frames bindings

/-- Balanced changes keep the frames and at most add bindings.  The induction follows the nesting of
the blocks. -/
theorem Balanced.run {changes : List ScopeChange} (h : Balanced changes) (env : Environment σ) :
    (ScopeChange.run changes env).frames = env.frames ∧
      ∃ added, (ScopeChange.run changes env).bindings = added ++ env.bindings := by
  induction h generalizing env with
  | nil => exact ⟨rfl, [], rfl⟩
  | declare name typeName lengths constant balanced ih =>
    obtain ⟨b, store, declared⟩ := declare_eq_bind env name typeName lengths constant
    obtain ⟨frames, added, bindings⟩ := ih (env.declare name typeName lengths constant)
    rw [declared] at frames bindings
    refine ⟨?_, added ++ [{ b with scope := env.currentScope }], ?_⟩
    · show (ScopeChange.run _ (env.declare name typeName lengths constant)).frames = _
      rw [declared]
      exact frames
    · show (ScopeChange.run _ (env.declare name typeName lengths constant)).bindings = _
      rw [declared, List.append_assoc]
      exact bindings
  | bind b balanced ih =>
    obtain ⟨frames, added, bindings⟩ := ih (env.bind b)
    refine ⟨frames, added ++ [{ b with scope := env.currentScope }], ?_⟩
    rw [List.append_assoc]
    exact bindings
  | @block body rest inside balanced ihInside ihRest =>
    obtain ⟨closedFrames, closedBindings⟩ := run_block_of_added (ihInside env.push.2)
    have split : ScopeChange.run (.push :: body ++ .pop :: rest) env =
        ScopeChange.run rest (ScopeChange.run (.push :: body ++ [.pop]) env) := by
      rw [← run_append, List.append_assoc]
      rfl
    obtain ⟨frames, added, bindings⟩ := ihRest (ScopeChange.run (.push :: body ++ [.pop]) env)
    rw [split, frames, bindings, closedFrames, closedBindings]
    exact ⟨rfl, added, rfl⟩

end ScopeChange

/-! ### Runs from a new environment -/

namespace Environment

variable {σ : Type}

/-- The environment shows the bindings and the scopes of a stack. -/
structure Shows (env : Environment σ) (stack : ScopeStack σ) : Prop where
  /-- The list holds the bindings of all scopes, the newest first. -/
  bindings : env.bindings = stack.scopes.flatMap (·.bindings.reverse)
  /-- Every scope above the global one has a frame, which starts after the bindings of the scopes
  around it. -/
  frames : env.frames = ScopeStack.frames stack.global stack.inner
  scopes : env.frames.map (·.scope) = stack.inner.map (·.id)
  starts : env.frames.Pairwise fun frame around => around.start ≤ frame.start
  within : ∀ frame ∈ env.frames, frame.start ≤ env.bindings.length
  currentScope : env.currentScope = stack.top.id
  find : ∀ name, env.find? name = stack.find? name
  lookup : ∀ name, env.lookup name =
    match stack.find? name with
    | some b => .ok b
    | none => .error (.undefinedReference name)
  undefined : ∀ name, env.lookup name = .error (.undefinedReference name) ↔
    ∀ scope ∈ stack.scopes, ∀ b ∈ scope.bindings, b.name ≠ name
  containsHere : ∀ name, env.containsHere name = stack.top.bindings.any (·.name == name)
  namesHere : env.namesHere = stack.top.bindings.map (·.name)

theorem map_scope_frames (global : List Binding) (inner : List Scope) :
    (ScopeStack.frames global inner).map (·.scope) = inner.map (·.id) := by
  induction inner with
  | nil => rfl
  | cons scope outer ih => rw [ScopeStack.frames, List.map_cons, List.map_cons, ih]

theorem shows_flatten (stack : ScopeStack σ) : stack.flatten.Shows stack := by
  have lookup : ∀ name, stack.flatten.lookup name =
      match stack.find? name with
      | some b => .ok b
      | none => .error (.undefinedReference name) := by
    intro name
    cases found : stack.find? name with
    | none => simp only [Environment.lookup, stack.find?_flatten, found]
    | some b => simp only [Environment.lookup, stack.find?_flatten, found]
  refine ⟨stack.bindings_flatten, rfl, map_scope_frames _ _, ScopeStack.pairwise_frames _ _,
    fun frame member => ScopeStack.start_le_of_mem_frames _ _ member, stack.currentScope_flatten,
    stack.find?_flatten, lookup, fun name => ?_, fun name => ?_, ?_⟩
  · rw [lookup, ← stack.find?_eq_none_iff]
    cases stack.find? name with
    | none => exact ⟨fun _ => rfl, fun _ => rfl⟩
    | some b => simp only [reduceCtorEq]
  · rw [containsHere, stack.currentBindings_flatten]
  · rw [namesHere, stack.currentBindings_flatten]

variable [CellStore σ]

/-- **The flat table refines a stack of scopes.**  After any changes of a new environment, the table
shows what the stack of scopes holds after the same changes, and the scopes are numbered upwards
with a number of its own for each.  The next scope gets a number that no scope has had before in the
run.  An action through a name runs on the binding that the stack finds.  At the global scope
there is nothing to close, and a balanced block leaves the bindings and the frames exactly as they
were. -/
theorem refines_scopeStack (store : σ) (changes : List ScopeChange) :
    let env := ScopeChange.run changes ({ store } : Environment σ)
    let stack := ScopeChange.runOnStack changes ({ store } : ScopeStack σ)
    env.Shows stack ∧ stack.Numbered ∧
      (∀ earlier later, changes = earlier ++ later →
        ∀ scope ∈ (ScopeChange.runOnStack earlier ({ store } : ScopeStack σ)).scopes,
          scope.id ≠ env.push.1) ∧
      (∀ {α : Type} (name : String) (act : Writing σ α),
        (stack.find? name = none ∧ through name act env = .error (.undefinedReference name) env) ∨
          ∃ newer b older, stack.find? name = some b ∧ env.bindings = newer ++ b :: older ∧
            through name act env = onBinding act env newer b older) ∧
      (env.isGlobal = true → env.pop = env) ∧
      ∀ body, ScopeChange.Balanced body →
        (ScopeChange.run (.push :: body ++ [.pop]) env).frames = env.frames ∧
          (ScopeChange.run (.push :: body ++ [.pop]) env).bindings = env.bindings := by
  intro env stack
  have laidOut : env = stack.flatten := ScopeChange.run_flatten changes { store }
  have shown : env.Shows stack := by
    rw [laidOut]
    exact shows_flatten stack
  have numbered : stack.Numbered := (ScopeStack.numbered_start store).run changes
  refine ⟨shown, numbered, ?_, ?_, ?_, ?_⟩
  · intro earlier later split scope live same
    -- the number is below the next one of its time, and that has only risen since
    have before := ((ScopeStack.numbered_start store).run earlier).below scope live
    have risen := ScopeChange.nextScope_le_run later
      (ScopeChange.runOnStack earlier ({ store } : ScopeStack σ))
    rw [← ScopeChange.runOnStack_append, ← split] at risen
    have next : scope.id.number = stack.nextScope := by
      rw [same, laidOut]
      rfl
    exact Nat.lt_irrefl _ (Nat.lt_of_lt_of_le (next ▸ before) risen)
  · intro α name act
    rw [← shown.find]
    exact through_cases name act env
  · intro isGlobal
    have none : env.frames = [] := List.isEmpty_iff.mp isGlobal
    rw [pop, none]
  · intro body balanced
    exact ScopeChange.run_block_of_added (balanced.run env.push.2)

end Environment

end ArrayCells
