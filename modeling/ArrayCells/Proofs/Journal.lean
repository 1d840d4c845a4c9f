import ArrayCells.Proofs.Simulation
import ArrayCells.Proofs.Trail

/-!
# What an assignment has written

To tell what an assignment writes, it is run on a store that passes everything on to another store
and keeps a journal of the cells and rows that were written, in order.  The code of the writes is
the same for all stores, so nothing has to be repeated for the purpose:

* `Journaled.simulation`: a store with a journal answers as the store inside of it;
* `after_plain`: forgetting the journal gives the run on the plain store;
* `Assignment.trail`: the writes in the journal of an assignment are a trail from the state before
  it to the state after it;
* `Action.run_cleared`, `Action.run_hasRows`: runs leave all else as it was.

`Assignment` is a call that writes through a binding, and `Action` also allows a tuple to be marked
directly.  Runs of either go on after a failure, from the state that it left.
-/

namespace ArrayCells

/-- A store, and what has been written to it since the journal was begun. -/
structure Journaled (σ : Type) where
  store : σ
  entries : List (Address × Content) := []

namespace Journaled

open CellStore ArrayCells.Bound

variable {σ : Type} [CellStore σ]

instance : CellStore (Journaled σ) where
  read j := read j.store
  write j c content := ⟨write j.store c content, j.entries ++ [(.cell c, content)]⟩
  reserve j count := let (first, store) := reserve j.store count; (first, { j with store })
  hasRows j := hasRows j.store
  readRow j := readRow j.store
  writeRow j c row content :=
    (writeRow j.store c row content).map (⟨·, j.entries ++ [(.row ⟨c, row⟩, content)]⟩)
  readItem j := readItem j.store
  readConstItem j := readConstItem j.store
  release j first count := { j with store := release j.store first count }

theorem writeAt_eq (j : Journaled σ) (content : Content) (a : Address) :
    writeAt j content a =
      (writeAt j.store content a).map (⟨·, j.entries ++ [(a, content)]⟩) := by
  cases a <;> rfl

theorem of_writeAt {j j' : Journaled σ} {content : Content} {a : Address}
    (h : writeAt j content a = .ok j') :
    writeAt j.store content a = .ok j'.store ∧ j'.entries = j.entries ++ [(a, content)] := by
  rw [writeAt_eq] at h
  cases written : writeAt j.store content a with
  | error e =>
    rw [written] at h
    cases h
  | ok store =>
    rw [written] at h
    cases h
    exact ⟨rfl, rfl⟩

instance [SteadyRows σ] : SteadyRows (Journaled σ) where
  hasRows_write j c content := SteadyRows.hasRows_write j.store c content
  hasRows_writeRow {j j' c row content} h := by
    have written : writeRow j.store c row content = .ok j'.store :=
      (of_writeAt (a := .row ⟨c, row⟩) h).1
    show hasRows j'.store = hasRows j.store
    exact SteadyRows.hasRows_writeRow written

/-! ### Forgetting the journal -/

/-- The state without the journal. -/
def plain (s : Bound (Journaled σ)) : Bound σ :=
  ⟨s.binding, s.store.store⟩

/-- The outcome of an action without the journal. -/
def plainResult {α : Type} :
    EStateM.Result Fault (Bound (Journaled σ)) α → EStateM.Result Fault (Bound σ) α
  | .ok a s => .ok a (plain s)
  | .error e s => .error e (plain s)

/-- **A store with a journal answers as the store inside of it.** -/
theorem simulation :
    Simulation (fun (j : Journaled σ) (store : σ) => j.store = store) fun _ => True where
  rows := by
    rintro j store rfl
    rfl
  views := by
    rintro j store rfl view - t
    exact View.item_congr (fun _ _ => rfl) view t
  writes := by
    rintro j store rfl content a
    rw [writeAt_eq]
    cases writeAt j.store content a with
    | ok store => exact .ok rfl
    | error e => exact .error e

/-- The stores are related and the journals are the same. -/
def Both {τ : Type} (R : σ → τ → Prop) (j : Journaled σ) (j' : Journaled τ) : Prop :=
  R j.store j'.store ∧ j.entries = j'.entries

/-- Stores that answer alike still do when both keep a journal. -/
theorem simulation_both {τ : Type} [CellStore τ] {R : σ → τ → Prop} {p : View → Prop}
    (sim : Simulation R p) : Simulation (Both R) p where
  rows := fun h => sim.rows h.1
  views := fun h => sim.views h.1
  writes := by
    rintro j j' ⟨related, entries⟩ content a
    have written := sim.writes related content a
    rw [writeAt_eq, writeAt_eq, entries]
    generalize writeAt j.store content a = left at written ⊢
    generalize writeAt j'.store content a = right at written ⊢
    cases written with
    | ok related' => exact .ok ⟨related', rfl⟩
    | error e => exact .error e

/-- **Keeping a journal changes nothing else.** -/
theorem assign_plain (value : RightSide) (t : List Int) (ctx : Context)
    (s : Bound (Journaled σ)) :
    assign value t ctx (plain s) = plainResult (assign value t ctx s) := by
  have any : value.AllViews fun _ => True := value.allViews_of_forall fun _ => trivial
  have inside : s.store.store = s.store.store := rfl
  have same := simulation.assign inside s.binding any t ctx
  show assign value t ctx ⟨s.binding, s.store.store⟩ = plainResult (assign value t ctx s)
  generalize assign value t ctx s = journaled at same ⊢
  generalize assign value t ctx ⟨s.binding, s.store.store⟩ = direct at same ⊢
  cases same with
  | ok _ b h => exact h ▸ rfl
  | error e b h => exact h ▸ rfl

theorem after_plain (value : RightSide) (t : List Int) (ctx : Context)
    (s : Bound (Journaled σ)) :
    Writing.after (assign value t ctx) (plain s) =
      plain (Writing.after (assign value t ctx) s) := by
  rw [Writing.after, assign_plain, Writing.after]
  cases assign value t ctx s <;> rfl

/-! ### Trails of the journaled store -/

theorem writeStep_plain {forced : Bool} {s s' : Bound (Journaled σ)} {t : List Int} {a : Address}
    {content : Content} (h : WriteStep forced s t a content s') :
    WriteStep forced (plain s) t a content (plain s') :=
  ⟨h.selects, h.allowed, (of_writeAt h.stored).1, h.marked⟩

/-- Along a trail the journal grows by what is written. -/
theorem trail_plain {forced : Bool} {s s' : Bound (Journaled σ)}
    {writes : List (Address × Content)} (h : Trail forced s writes s') :
    Trail forced (plain s) writes (plain s') ∧
      s'.store.entries = s.store.entries ++ writes := by
  induction h with
  | nil s => exact ⟨.nil _, (List.append_nil _).symm⟩
  | cons first rest ih =>
    refine ⟨.cons (writeStep_plain first) ih.1, ?_⟩
    rw [ih.2, (of_writeAt first.stored).2, List.append_assoc]
    rfl

end Journaled

/-! ### Assignments and runs -/

/-- A call that writes through a binding. -/
structure Assignment where
  value : RightSide
  indexes : List Int
  ctx : Context := {}
  /-- Whether it is the call that has to make the first write to every cell. -/
  first : Bool := false

namespace Assignment

open CellStore ArrayCells.Bound

variable {σ : Type} [CellStore σ]

def act (call : Assignment) : Writing σ Unit :=
  if call.first then assignFirst call.value call.indexes call.ctx
  else assign call.value call.indexes call.ctx

/-- Whether initialized cells are refused, by the kind of the call or by its context. -/
def forced (call : Assignment) : Bool :=
  call.first || call.ctx.forceInit

theorem act_eq (call : Assignment) :
    (call.act : Writing σ Unit) =
      assign call.value call.indexes { call.ctx with forceInit := call.forced } := by
  rcases call with ⟨value, indexes, ctx, first⟩
  cases first <;> rfl

/-- The state after the call, which may have failed. -/
def after (call : Assignment) (s : Bound σ) : Bound σ :=
  Writing.after call.act s

/-- What the call writes when it is made in the given state, in order. -/
def writes (call : Assignment) (s : Bound σ) : List (Address × Content) :=
  (call.after (⟨s.binding, ⟨s.store, []⟩⟩ : Bound (Journaled σ))).store.entries

/-- Whether the call writes the cell or row at the address. -/
def Writes (call : Assignment) (s : Bound σ) (a : Address) : Prop :=
  a ∈ (call.writes s).map Prod.fst

/-- **The journal of a call is a trail** from the state before the call to the one after it. -/
theorem trail [SteadyRows σ] (call : Assignment) (s : Bound σ) :
    Trail call.forced s (call.writes s) (call.after s) := by
  have begun : s = Journaled.plain ⟨s.binding, ⟨s.store, []⟩⟩ := rfl
  obtain ⟨written, path⟩ := assign_trail call.value call.indexes
    { call.ctx with forceInit := call.forced } (⟨s.binding, ⟨s.store, []⟩⟩ : Bound (Journaled σ))
  obtain ⟨plainPath, journal⟩ := Journaled.trail_plain path
  rw [List.nil_append] at journal
  have sameEnd : call.after s = Journaled.plain (Writing.after (assign call.value call.indexes
      { call.ctx with forceInit := call.forced }) ⟨s.binding, ⟨s.store, []⟩⟩) := by
    rw [after, act_eq, ← Journaled.after_plain]
    rfl
  rw [writes, after, act_eq, journal, sameEnd]
  exact plainPath

/-- **Calls over related stores** end alike. -/
theorem act_alike {τ : Type} [CellStore τ] {R : σ → τ → Prop} {p : View → Prop}
    (sim : Simulation R p) (call : Assignment) (all : call.value.AllViews p) (b : Binding)
    {store : σ} {store' : τ} (h : R store store') :
    EndsAlike R (call.act ⟨b, store⟩) (call.act ⟨b, store'⟩) := by
  rw [act_eq, act_eq]
  exact sim.assign h b all call.indexes { call.ctx with forceInit := call.forced }

/-- Calls over related stores write the same. -/
theorem writes_alike {τ : Type} [CellStore τ] {R : σ → τ → Prop} {p : View → Prop}
    (sim : Simulation R p) (call : Assignment) (all : call.value.AllViews p) (b : Binding)
    {store : σ} {store' : τ} (h : R store store') :
    call.writes ⟨b, store⟩ = call.writes ⟨b, store'⟩ := by
  have begun : Journaled.Both R ⟨store, []⟩ ⟨store', []⟩ := ⟨h, rfl⟩
  have same := call.act_alike (Journaled.simulation_both sim) all b begun
  rw [writes, writes, after, after, Writing.after, Writing.after]
  generalize (call.act : Writing (Journaled σ) Unit) ⟨b, ⟨store, []⟩⟩ = left at same ⊢
  generalize (call.act : Writing (Journaled τ) Unit) ⟨b, ⟨store', []⟩⟩ = right at same ⊢
  cases same with
  | ok _ b' ended => exact ended.2
  | error e b' ended => exact ended.2

/-- Makes the calls of a list one after the other, whether they fail or not. -/
def run (calls : List Assignment) (s : Bound σ) : Bound σ :=
  calls.foldl (fun s call => call.after s) s

end Assignment

/-- What can be done to a bound: a call that writes, or marking a tuple without writing. -/
inductive Action where
  | assign (call : Assignment)
  | mark (indexes : List Int)

namespace Action

variable {σ : Type} [CellStore σ]

def after : Action → Bound σ → Bound σ
  | assign call, s => call.after s
  | mark indexes, s => Writing.after (Bound.mark indexes) s

def run (actions : List Action) (s : Bound σ) : Bound σ :=
  actions.foldl (fun s action => action.after s) s

/-- Marking a tuple fails and changes nothing, or changes the record alone. -/
theorem mark_after (t : List Int) (s : Bound σ) :
    (mark t).after s = s ∨
      ∃ b, s.binding.mark (CellStore.hasRows s.store) t = .ok b ∧
        (mark t).after s = ⟨b, s.store⟩ := by
  show Writing.after (Bound.mark t) s = s ∨ ∃ b, _ ∧ Writing.after (Bound.mark t) s = _
  rw [Writing.after, Bound.mark_eq]
  cases s.binding.mark (CellStore.hasRows s.store) t with
  | error e => exact .inl rfl
  | ok b => exact .inr ⟨b, rfl, rfl⟩

variable [CellStore.SteadyRows σ]

theorem after_cleared (action : Action) (s : Bound σ) :
    (action.after s).binding.cleared = s.binding.cleared := by
  cases action with
  | assign call => exact (call.trail s).cleared
  | mark t =>
    rcases mark_after t s with same | ⟨b, hb, changed⟩
    · rw [same]
    · rw [changed]
      exact Binding.cleared_mark hb

theorem after_hasRows (action : Action) (s : Bound σ) :
    CellStore.hasRows (action.after s).store = CellStore.hasRows s.store := by
  cases action with
  | assign call => exact (call.trail s).hasRows
  | mark t =>
    rcases mark_after t s with same | ⟨b, hb, changed⟩
    · rw [same]
    · rw [changed]

/-- **Runs change nothing but the record and the contents.** -/
theorem run_cleared (actions : List Action) (s : Bound σ) :
    (run actions s).binding.cleared = s.binding.cleared := by
  induction actions generalizing s with
  | nil => rfl
  | cons action actions ih => exact (ih (action.after s)).trans (action.after_cleared s)

theorem run_hasRows (actions : List Action) (s : Bound σ) :
    CellStore.hasRows (run actions s).store = CellStore.hasRows s.store := by
  induction actions generalizing s with
  | nil => rfl
  | cons action actions ih => exact (ih (action.after s)).trans (action.after_hasRows s)

/-- Tuples select in all states what they select in the first one. -/
theorem run_selects (actions : List Action) {s : Bound σ} {t : List Int} {a : Address}
    (selects : s.binding.Selects (CellStore.hasRows s.store) t a) :
    (run actions s).binding.Selects (CellStore.hasRows (run actions s).store) t a := by
  rw [run_hasRows]
  exact selects.congr (run_cleared actions s)

end Action

/-- A run of calls is a run of actions none of which marks. -/
theorem Assignment.run_eq {σ : Type} [CellStore σ] (calls : List Assignment) (s : Bound σ) :
    run calls s = Action.run (calls.map .assign) s := by
  rw [Action.run, List.foldl_map]
  rfl

end ArrayCells
