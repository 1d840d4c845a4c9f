import ArrayCells.Binding.Write

/-!
The environment of an evaluation: all bindings in one list, the newest first, and the frames of the
open scopes above the global one, the innermost first.  A frame remembers how many bindings there
were when it was pushed, so popping it drops the newer ones and releases the cells that they own;
aliases release nothing.  A name means the newest binding of that name.
-/

namespace ArrayCells

/-- An open scope above the global one. -/
structure Frame where
  scope : ScopeId
  /-- How many bindings were there before. -/
  start : Nat
deriving DecidableEq

/-- Bindings, scopes and the store that all bindings share. -/
structure Environment (σ : Type) where
  bindings : List Binding := []
  frames : List Frame := []
  /-- The number of the next scope. -/
  nextScope : Nat := 1
  store : σ

namespace Environment

variable {σ : Type} [CellStore σ]

/-- How many scopes are open, the global one included. -/
def depth (env : Environment σ) : Nat :=
  env.frames.length + 1

def isGlobal (env : Environment σ) : Bool :=
  env.frames.isEmpty

/-- The innermost scope; the global one has number 0. -/
def currentScope (env : Environment σ) : ScopeId :=
  match env.frames with
  | frame :: _ => frame.scope
  | [] => {}

/-- How many bindings lie outside the innermost scope. -/
def currentStart (env : Environment σ) : Nat :=
  match env.frames with
  | frame :: _ => frame.start
  | [] => 0

/-- Opens a scope with a number that no scope had before. -/
def push (env : Environment σ) : ScopeId × Environment σ :=
  let scope : ScopeId := ⟨env.nextScope⟩
  (scope,
    { env with
      frames := ⟨scope, env.bindings.length⟩ :: env.frames
      nextScope := env.nextScope + 1 })

/-- The bindings that are newer than the oldest `start` ones. -/
def newerThan (env : Environment σ) (start : Nat) : List Binding :=
  env.bindings.take (env.bindings.length - start)

/-- Releases the cells of a binding that owns them. -/
def releaseOwned (store : σ) (b : Binding) : σ :=
  if b.isAlias then store else CellStore.release store b.base b.size

/-- Closes the innermost scope and drops its bindings, the oldest first; the global scope stays. -/
def pop (env : Environment σ) : Environment σ :=
  match env.frames with
  | [] => env
  | frame :: frames =>
    { env with
      bindings := env.bindings.drop (env.bindings.length - frame.start)
      frames := frames
      store := (env.newerThan frame.start).reverse.foldl releaseOwned env.store }

/-- Runs `body` inside a scope of its own, which ends with it. -/
def inScope {α : Type} (body : StateM (Environment σ) α) : StateM (Environment σ) α := do
  modify fun env => env.push.2
  let result ← body
  modify pop
  return result

/-- Adds a binding to the innermost scope. -/
def bind (env : Environment σ) (b : Binding) : Environment σ :=
  { env with bindings := { b with scope := env.currentScope } :: env.bindings }

/-- Declares a variable or a constant with cells of its own; without lengths it is a scalar. -/
def declare (env : Environment σ) (name typeName : String) (lengths : List Nat)
    (constant : Bool) : Environment σ :=
  let (shape, count) := Shape.ofDeclaration lengths
  let (base, store) := CellStore.reserve env.store count
  { env with store }.bind { name, typeName, shape, base, flags := { constant } }

/-- The newest binding of a name. -/
def find? (env : Environment σ) (name : String) : Option Binding :=
  env.bindings.find? (·.name == name)

/-- The newest binding of a name, which has to exist. -/
def lookup (env : Environment σ) (name : String) : Except Fault Binding :=
  match env.find? name with
  | some b => .ok b
  | none => .error (.undefinedReference name)

def contains (env : Environment σ) (name : String) : Bool :=
  env.bindings.any (·.name == name)

/-- The bindings of the innermost scope, the oldest first. -/
def currentBindings (env : Environment σ) : List Binding :=
  (env.newerThan env.currentStart).reverse

def containsHere (env : Environment σ) (name : String) : Bool :=
  env.currentBindings.any (·.name == name)

/-- The names bound in the innermost scope, in the order of their bindings. -/
def namesHere (env : Environment σ) : List String :=
  env.currentBindings.map (·.name)

/-- Runs an action on the newest binding of a name and on the store. -/
def through {α : Type} (name : String) (act : Writing σ α) :
    EStateM Fault (Environment σ) α := fun env =>
  match env.bindings.span (·.name != name) with
  | (_, []) => .error (.undefinedReference name) env
  | (newer, b :: older) =>
    let updated (after : Bound σ) : Environment σ :=
      { env with bindings := newer ++ after.binding :: older, store := after.store }
    match act ⟨b, env.store⟩ with
    | .ok result after => .ok result (updated after)
    | .error fault after => .error fault (updated after)

/-- Gives the faults of an action the place of the evaluation. -/
def placed {α : Type} (ctx : Context) (act : EStateM Fault (Environment σ) α) :
    EStateM Fault (Environment σ) α :=
  act.adaptExcept (·.within ctx.place)

/-- Writes to what a name and a tuple address. -/
def assign (name : String) (value : RightSide) (indexes : List Int) (ctx : Context) :
    EStateM Fault (Environment σ) Unit :=
  placed ctx (through name (Bound.assign value indexes ctx))

/-- Writes what a name and a tuple address for the first time. -/
def assignFirst (name : String) (value : RightSide) (indexes : List Int) (ctx : Context) :
    EStateM Fault (Environment σ) Unit :=
  placed ctx (through name (Bound.assignFirst value indexes ctx))

/-- Reads an access to a name, which also labels the result. -/
def read (env : Environment σ) (name : String) (indexes : List Operand) (ctx : Context) :
    Except Fault Operand :=
  let outcome := do
    let b ← env.lookup name
    b.item env.store indexes { ctx with label := some name }
  outcome.mapError (·.within ctx.place)

end Environment

end ArrayCells
