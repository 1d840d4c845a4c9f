import Mathlib
import ArrayCells.Proofs.Journal
import ArrayCells.Proofs.Reading

/-!
# The last writer of a cell or row

Bindings can share a store, and the regions of their cells can overlap in any way.  A `Sharing` is a
family of bindings over one store, and its `history` lists everything that calls through any of them
have written, in order; calls that fail midway count for what they wrote before.  The store holds
what the history tells.

* `Trail.readAt_eq`: after a trail an address holds what the trail wrote there last, or what it held
  before;
* `Sharing.run_readAt`: so it does after a run of calls through the bindings of a family;
* `latest?_cell`, `latest?_row`: the writes of cells and the writes of rows do not concern each
  other;
* `Sharing.read_latest`: whichever binding is read, it reads what was written last at the address
  that its tuple leads to.
-/

namespace ArrayCells

open CellStore ArrayCells.Bound

/-! ### Histories -/

/-- What was noted last for a key. -/
def latest? {κ β : Type} [DecidableEq κ] (entries : List (κ × β)) (key : κ) : Option β :=
  entries.reverse.lookup key

/-- The cells that were written, and what was written to them. -/
def cellWrites (history : List (Address × Content)) : List (CellId × Content) :=
  history.filterMap fun
    | (.cell c, content) => some (c, content)
    | (.row _, _) => none

/-- The rows that were written, and what was written to them. -/
def rowWrites (history : List (Address × Content)) : List (RowId × Content) :=
  history.filterMap fun
    | (.row id, content) => some (id, content)
    | (.cell _, _) => none

section

variable {κ β : Type} [DecidableEq κ]

/-- Later entries hide earlier ones. -/
theorem latest?_append (entries later : List (κ × β)) (key : κ) :
    latest? (entries ++ later) key = (latest? later key).or (latest? entries key) := by
  rw [latest?, List.reverse_append, List.lookup_append]
  rfl

theorem latest?_cons (first key : κ) (x : β) (later : List (κ × β)) :
    latest? ((first, x) :: later) key =
      (latest? later key).or (if key = first then some x else none) := by
  rw [← List.singleton_append, latest?_append]
  congr 1
  by_cases same : key = first
  · rw [if_pos same, same]
    exact List.lookup_cons_self
  · rw [if_neg same]
    show List.lookup key [(first, x)] = none
    rw [List.lookup_cons, beq_false_of_ne same]
    rfl

theorem latest?_of_not_mem {entries : List (κ × β)} {key : κ}
    (unnoted : key ∉ entries.map Prod.fst) : latest? entries key = none := by
  induction entries with
  | nil => rfl
  | cons entry entries ih =>
    rw [List.map_cons, List.mem_cons, not_or] at unnoted
    rw [latest?_cons entry.1 key entry.2, ih unnoted.2, if_neg unnoted.1, Option.or_none]

end

/-- **Writes of rows do not concern cells.** -/
theorem latest?_cell (history : List (Address × Content)) (c : CellId) :
    latest? history (.cell c) = latest? (cellWrites history) c := by
  induction history with
  | nil => rfl
  | cons entry history ih =>
    obtain ⟨a, content⟩ := entry
    cases a with
    | cell c' =>
      show _ = latest? ((c', content) :: cellWrites history) c
      simp only [latest?_cons, ih, Address.cell.injEq]
    | row id =>
      show _ = latest? (cellWrites history) c
      simp only [latest?_cons, ih, reduceCtorEq, if_false, Option.or_none]

/-- **Writes of cells do not concern rows.** -/
theorem latest?_row (history : List (Address × Content)) (id : RowId) :
    latest? history (.row id) = latest? (rowWrites history) id := by
  induction history with
  | nil => rfl
  | cons entry history ih =>
    obtain ⟨a, content⟩ := entry
    cases a with
    | row id' =>
      show _ = latest? ((id', content) :: rowWrites history) id
      simp only [latest?_cons, ih, Address.row.injEq]
    | cell c =>
      show _ = latest? (rowWrites history) id
      simp only [latest?_cons, ih, reduceCtorEq, if_false, Option.or_none]

/-- **A trail leaves what it wrote last.**  The induction follows the trail from its first step;
what a step writes is hidden by the later writes of its address. -/
theorem Bound.Trail.readAt_eq {forced : Bool} {s s' : Bound Memory}
    {writes : List (Address × Content)} (h : Trail forced s writes s') (a : Address) :
    readAt s'.store a = (latest? writes a).or (readAt s.store a) := by
  induction h with
  | nil s => rfl
  | cons first rest ih =>
    rw [ih, Memory.readAt_writeAt first.stored, latest?_cons, Option.or_assoc]
    split <;> rfl

/-! ### Bindings over one store -/

/-- A family of bindings over one store.  Nothing is said about where their cells lie. -/
structure Sharing (ι : Type) where
  binding : ι → Binding
  store : Memory

namespace Sharing

variable {ι : Type} [DecidableEq ι]

/-- A binding of the family together with the store. -/
def bound (g : Sharing ι) (i : ι) : Bound Memory :=
  ⟨g.binding i, g.store⟩

/-- The family after a call through one of its bindings, which may have failed. -/
def after (g : Sharing ι) (i : ι) (call : Assignment) : Sharing ι where
  binding := Function.update g.binding i (call.after (g.bound i)).binding
  store := (call.after (g.bound i)).store

/-- Makes the calls of a list one after the other, each through the binding that it names. -/
def run : List (ι × Assignment) → Sharing ι → Sharing ι
  | [], g => g
  | (i, call) :: calls, g => run calls (g.after i call)

/-- All that the calls of a list write, in order. -/
def history : List (ι × Assignment) → Sharing ι → List (Address × Content)
  | [], _ => []
  | (i, call) :: calls, g => call.writes (g.bound i) ++ history calls (g.after i call)

theorem binding_after_self (g : Sharing ι) (i : ι) (call : Assignment) :
    (g.after i call).binding i = (call.after (g.bound i)).binding :=
  Function.update_self i _ g.binding

theorem binding_after_of_ne (g : Sharing ι) {i k : ι} (call : Assignment) (other : k ≠ i) :
    (g.after i call).binding k = g.binding k :=
  Function.update_of_ne other _ g.binding

/-- What a call leaves at an address was written by it last, or was there before. -/
theorem after_readAt (g : Sharing ι) (i : ι) (call : Assignment) (a : Address) :
    readAt (g.after i call).store a =
      (latest? (call.writes (g.bound i)) a).or (readAt g.store a) :=
  (call.trail (g.bound i)).readAt_eq a

/-- A call changes nothing about the bindings but their records. -/
theorem after_cleared (g : Sharing ι) (i : ι) (call : Assignment) (j : ι) :
    ((g.after i call).binding j).cleared = (g.binding j).cleared := by
  by_cases same : j = i
  · subst same
    rw [binding_after_self]
    exact (call.trail (g.bound j)).cleared
  · rw [binding_after_of_ne g call same]

theorem after_hasRows (g : Sharing ι) (i : ι) (call : Assignment) :
    hasRows (g.after i call).store = hasRows g.store :=
  (call.trail (g.bound i)).hasRows

theorem run_cleared (calls : List (ι × Assignment)) (g : Sharing ι) (j : ι) :
    ((run calls g).binding j).cleared = (g.binding j).cleared := by
  induction calls generalizing g with
  | nil => rfl
  | cons entry calls ih => exact (ih (g.after entry.1 entry.2)).trans (g.after_cleared _ _ j)

theorem run_hasRows (calls : List (ι × Assignment)) (g : Sharing ι) :
    hasRows (run calls g).store = hasRows g.store := by
  induction calls generalizing g with
  | nil => rfl
  | cons entry calls ih => exact (ih (g.after entry.1 entry.2)).trans (g.after_hasRows _ _)

/-- Tuples lead to the same targets in all states. -/
theorem run_target (calls : List (ι × Assignment)) (g : Sharing ι) (j : ι) (t : List Int) :
    ((run calls g).binding j).target (hasRows (run calls g).store) t =
      (g.binding j).target (hasRows g.store) t := by
  rw [run_hasRows, ← Binding.target_cleared, run_cleared, Binding.target_cleared]

/-- **What a run leaves** at an address was written last in its history, or was there before. -/
theorem run_readAt (calls : List (ι × Assignment)) (g : Sharing ι) (a : Address) :
    readAt (run calls g).store a = (latest? (history calls g) a).or (readAt g.store a) := by
  induction calls generalizing g with
  | nil => rfl
  | cons entry calls ih =>
    obtain ⟨i, call⟩ := entry
    rw [run, history, ih, after_readAt, latest?_append, Option.or_assoc]

/-- **The last writer wins.**  Whatever calls are made through the bindings of a family over an
empty store, a binding then reads from a tuple what was written last to the cell or row that the
tuple leads to, through whichever binding, and fails if nothing was ever written there.  What a cell
holds is told by the writes of cells alone, and what a row holds by the writes of rows. -/
theorem read_latest (g : Sharing ι) (empty : ∀ a, readAt g.store a = none)
    (calls : List (ι × Assignment)) (i : ι) (t : List Int) (target : Target)
    (leads : (g.binding i).target (hasRows g.store) t = .ok target) :
    (((run calls g).binding i).read (run calls g).store t =
      match latest? (history calls g) target.address with
      | some content => .ok content
      | none => .error ((g.binding i).unread t target.address)) ∧
    (∀ c : CellId, CellStore.read (run calls g).store c =
      latest? (cellWrites (history calls g)) c) ∧
    ∀ id : RowId, readRow (run calls g).store id.cell id.row =
      latest? (rowWrites (history calls g)) id := by
  have held : ∀ a, readAt (run calls g).store a = latest? (history calls g) a := by
    intro a
    rw [run_readAt, empty, Option.or_none]
  refine ⟨?_, fun c => ?_, fun id => ?_⟩
  · rw [← run_target calls] at leads
    have unread : ((run calls g).binding i).unread t target.address =
        (g.binding i).unread t target.address := by
      cases target.address <;> rw [Binding.unread, Binding.unread,
        Binding.name_congr (run_cleared calls g i)]
    have read := Binding.read_of_target leads
    rw [held, unread] at read
    exact read
  · rw [← latest?_cell]
    exact held (.cell c)
  · rw [← latest?_row]
    exact held (.row id)

/-- A line of four cells and a table of two by two begin one cell apart.  The line is filled, and a
sequence for the table stops after two of four values, the second of which goes to the third cell
of the line.  A row written through the table is read through the line. -/
theorem read_latest_overlap :
    let line : Binding :=
      { name := "a", typeName := "int", shape := some (.fresh [4]), base := ⟨3⟩ }
    let table : Binding :=
      { name := "b", typeName := "int", shape := some (.fresh [2, 2]), base := ⟨4⟩ }
    let g : Sharing Bool := ⟨fun i => if i then table else line, { packsRows := true, next := 8 }⟩
    let calls : List (Bool × Assignment) :=
      [(false, { value := .sequence [.number 1, .number 2, .number 3, .number 4], indexes := [] }),
        (true, { value := .sequence [.number 8, .number 9], indexes := [] }),
        (true, { value := .single (.number 5), indexes := [0, 1, 6] })]
    ((run calls g).binding false).read (run calls g).store [2] = .ok (.number 9) ∧
      ((run calls g).binding false).read (run calls g).store [3] = .ok (.number 4) ∧
      ((run calls g).binding false).read (run calls g).store [2, 6] = .ok (.number 5) := by
  intro line table g calls
  have empty : ∀ a, readAt g.store a = none := Memory.readAt_new true 8
  have third := read_latest g empty calls false [2] (.indexed ⟨5⟩) rfl
  have fourth := read_latest g empty calls false [3] (.indexed ⟨6⟩) rfl
  have row := read_latest g empty calls false [2, 6] (.row ⟨5⟩ 6) rfl
  have written : history calls g =
      [(.cell ⟨3⟩, .number 1), (.cell ⟨4⟩, .number 2), (.cell ⟨5⟩, .number 3),
        (.cell ⟨6⟩, .number 4), (.cell ⟨4⟩, .number 8), (.cell ⟨5⟩, .number 9),
        (.row ⟨⟨5⟩, 6⟩, .number 5)] := by
    cbv
  rw [written] at third fourth row
  exact ⟨third.1, fourth.1, row.1⟩

end Sharing

end ArrayCells
