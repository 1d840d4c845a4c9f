import Mathlib.Data.List.TakeDrop
import Mathlib.Data.List.TakeWhile
import ArrayCells.Environment
import ArrayCells.Proofs.Journal

/-!
# Runs of an environment

An `Operation` is what an evaluation does to an environment: it opens and closes scopes, declares
variables, binds aliases and writes through names.  A write may fail and then keeps what it did
before it failed.

* `write_cases`: a write changes the newest binding of its name as the same call through that
  binding would, and nothing else but the store;
* `Reachable`: the states of all runs from an environment over a new store, in which aliases are
  made of variables that are alive.
-/

namespace ArrayCells

open CellStore

namespace Environment

variable {σ : Type} [CellStore σ]

section

omit [CellStore σ]

/-- The environment that an action leaves, whether it fails or not. -/
def after {α : Type} (act : EStateM Fault (Environment σ) α) (env : Environment σ) :
    Environment σ :=
  match act env with
  | .ok _ env' => env'
  | .error _ env' => env'

/-- Places change the faults of an action and not what it does. -/
theorem after_placed {α : Type} (ctx : Context) (act : EStateM Fault (Environment σ) α)
    (env : Environment σ) : after (placed ctx act) env = after act env := by
  simp only [after, placed, EStateM.adaptExcept]
  cases act env <;> rfl

theorem through_of_unbound {α : Type} {name : String} {env : Environment σ}
    (unbound : ∀ b ∈ env.bindings, b.name ≠ name) (act : Writing σ α) :
    through name act env = .error (.undefinedReference name) env := by
  have nothing : env.bindings.dropWhile (·.name != name) = [] := by
    rw [List.dropWhile_eq_nil_iff]
    intro b hb
    exact bne_iff_ne.mpr (unbound b hb)
  simp only [through, List.span_eq_takeWhile_dropWhile, nothing]

/-- An action on the binding that lies between newer and older ones; what it makes of the binding
takes its place. -/
def onBinding {α : Type} (act : Writing σ α) (env : Environment σ) (newer : List Binding)
    (b : Binding) (older : List Binding) : EStateM.Result Fault (Environment σ) α :=
  let updated (s : Bound σ) : Environment σ :=
    { env with bindings := newer ++ s.binding :: older, store := s.store }
  match act ⟨b, env.store⟩ with
  | .ok result s => .ok result (updated s)
  | .error fault s => .error fault (updated s)

theorem through_of_bound {α : Type} {name : String} {env : Environment σ}
    {newer older : List Binding} {b : Binding} (split : env.bindings = newer ++ b :: older)
    (named : b.name = name) (others : ∀ x ∈ newer, x.name ≠ name) (act : Writing σ α) :
    through name act env = onBinding act env newer b older := by
  have pass : ∀ x ∈ newer, (x.name != name) = true := fun x hx => bne_iff_ne.mpr (others x hx)
  have stop : (b.name != name) = false := by rw [named, bne_self_eq_false]
  have front : env.bindings.takeWhile (·.name != name) = newer := by
    rw [split, List.takeWhile_append_of_pos pass, List.takeWhile_cons, stop]
    simp
  have back : env.bindings.dropWhile (·.name != name) = b :: older := by
    rw [split, List.dropWhile_append_of_pos pass, List.dropWhile_cons, stop]
    simp
  simp only [through, List.span_eq_takeWhile_dropWhile, front, back]
  rfl

/-- The newest binding of a name, if there is one. -/
theorem unbound_or_newest (name : String) (bindings : List Binding) :
    (∀ b ∈ bindings, b.name ≠ name) ∨
      ∃ newer b older, bindings = newer ++ b :: older ∧ b.name = name ∧
        ∀ x ∈ newer, x.name ≠ name := by
  induction bindings with
  | nil => exact .inl fun b hb => by cases hb
  | cons b bindings ih =>
    by_cases named : b.name = name
    · exact .inr ⟨[], b, bindings, rfl, named, fun x hx => by cases hx⟩
    · rcases ih with unbound | ⟨newer, b', older, rfl, named', others⟩
      · refine .inl fun x hx => ?_
        rcases List.mem_cons.mp hx with rfl | hx
        · exact named
        · exact unbound x hx
      · refine .inr ⟨b :: newer, b', older, rfl, named', fun x hx => ?_⟩
        rcases List.mem_cons.mp hx with rfl | hx
        · exact named
        · exact others x hx

end

/-- The environment after a call through the newest binding of a name. -/
def write (name : String) (call : Assignment) (env : Environment σ) : Environment σ :=
  if call.first then after (assignFirst name call.value call.indexes call.ctx) env
  else after (assign name call.value call.indexes call.ctx) env

theorem write_eq (name : String) (call : Assignment) (env : Environment σ) :
    write name call env = after (through name call.act) env := by
  rcases call with ⟨value, indexes, ctx, first⟩
  cases first <;> exact after_placed ctx _ env

/-- **A write is a call through the newest binding of its name**; without such a binding nothing
happens. -/
theorem write_cases (name : String) (call : Assignment) (env : Environment σ) :
    ((∀ b ∈ env.bindings, b.name ≠ name) ∧ write name call env = env) ∨
      ∃ newer b older, env.bindings = newer ++ b :: older ∧ b.name = name ∧
        (∀ x ∈ newer, x.name ≠ name) ∧
        write name call env =
          { env with
            bindings := newer ++ (call.after ⟨b, env.store⟩).binding :: older
            store := (call.after ⟨b, env.store⟩).store } := by
  rw [write_eq]
  rcases unbound_or_newest name env.bindings with unbound | ⟨newer, b, older, split, named, others⟩
  · exact .inl ⟨unbound, by rw [after, through_of_unbound unbound]⟩
  · refine .inr ⟨newer, b, older, split, named, others, ?_⟩
    rw [after, through_of_bound split named others]
    simp only [onBinding, Assignment.after, Writing.after]
    cases (call.act : Writing σ Unit) ⟨b, env.store⟩ <;> rfl

end Environment

/-! ### Operations -/

/-- What an evaluation does to an environment. -/
inductive Operation where
  | push
  | pop
  | declare (name typeName : String) (lengths : List Nat) (constant : Bool)
  | bind (b : Binding)
  | write (name : String) (call : Assignment)

namespace Operation

def after {σ : Type} [CellStore σ] : Operation → Environment σ → Environment σ
  | push, env => env.push.2
  | pop, env => env.pop
  | declare name typeName lengths constant, env => env.declare name typeName lengths constant
  | bind b, env => env.bind b
  | write name call, env => env.write name call

end Operation

/-- All cells of the binding are cells of the other one. -/
def Binding.Within (b owner : Binding) : Prop :=
  owner.base.number ≤ b.base.number ∧ b.base.number + b.size ≤ owner.base.number + owner.size

/-- The operations that are at liberty: bindings that come from elsewhere have to be aliases within
a variable that is alive. -/
def Operation.Permitted {σ : Type} (env : Environment σ) : Operation → Prop
  | bind b => b.isAlias = true ∧ ∃ owner ∈ env.bindings, owner.isAlias = false ∧ b.Within owner
  | _ => True

/-- The environments of all runs over a store in memory, with or without rows. -/
inductive Reachable : Environment Memory → Prop
  | start (packsRows : Bool) : Reachable { store := { packsRows } }
  | step {env : Environment Memory} (op : Operation) (before : Reachable env)
      (permitted : op.Permitted env) : Reachable (op.after env)

end ArrayCells
