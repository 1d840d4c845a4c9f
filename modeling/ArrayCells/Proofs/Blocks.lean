import ArrayCells.Environment.Access
import ArrayCells.Proofs.Confinement

/-!
# Blocks that keep to their own variables

A block opens a scope, does something inside of it and closes the scope again.  If it writes only
through bindings of its own, it can be taken out of a run: nobody can tell afterwards whether it was
there.

* `BlockRun`: what may be done inside of a block, with further blocks nested in it;
* `Encloses`: what surrounds the block is still there, and all that is new lies beyond it;
* `Encloses.declare`, `Encloses.bind`, `Encloses.write`, `Encloses.pop`: every operation of a block
  keeps that, and so `BlockRun.encloses` for all of them;
* `Environment.read_of_encloses`: reads of what surrounds a block come out as before it;
* `Environment.block_invisible`: so does every access given as text, after the block is closed.

Cells are never reserved twice, so the cells of a block are told apart by their numbers alone.
-/

namespace ArrayCells

open CellStore Memory

namespace Environment

/-- The name means a binding that is newer than the oldest `start` ones. -/
def MeansNewer (env : Environment Memory) (start : Nat) (name : String) : Prop :=
  ∃ b ∈ env.newerThan start, b.name = name

/-- All cells of the binding have been reserved since `first` was the next cell. -/
def ReservedSince (env : Environment Memory) (first : Nat) (b : Binding) : Prop :=
  first ≤ b.base.number ∧ b.base.number + b.size ≤ env.store.next

/-- What is done inside of a block, up to its end.  There were `start` bindings before the block,
and `first` was the next cell.  Names are written only while they mean a binding of the block, and
bindings that come from elsewhere stand for cells that were reserved in the block.  A block inside
of it opens a scope and closes it.  Reads are not listed, for they change nothing. -/
inductive BlockRun (start first : Nat) : Environment Memory → Environment Memory → Prop
  | done (env : Environment Memory) : BlockRun start first env env
  | declare {env last : Environment Memory} (name typeName : String) (lengths : List Nat)
      (constant : Bool)
      (rest : BlockRun start first (env.declare name typeName lengths constant) last) :
      BlockRun start first env last
  | bind {env last : Environment Memory} (b : Binding) (own : env.ReservedSince first b)
      (rest : BlockRun start first (env.bind b) last) : BlockRun start first env last
  | write {env last : Environment Memory} (name : String) (call : Assignment)
      (own : env.MeansNewer start name) (rest : BlockRun start first (env.write name call) last) :
      BlockRun start first env last
  | block {env inside last : Environment Memory} (body : BlockRun start first env.push.2 inside)
      (rest : BlockRun start first inside.pop last) : BlockRun start first env last

/-! ### What surrounds a block -/

/-- The bindings of `before` are still there below newer ones, whose cells were reserved later, and
all cells that were reserved at the time hold what they held. -/
structure Encloses (before env : Environment Memory) : Prop where
  bindings : ∃ newer, env.bindings = newer ++ before.bindings ∧
    ∀ b ∈ newer, before.store.next ≤ b.base.number
  next : before.store.next ≤ env.store.next
  held : AgreeOn (fun c => c.number < before.store.next) env.store before.store

variable {before env : Environment Memory}

theorem encloses_push (before : Environment Memory) : before.Encloses before.push.2 :=
  ⟨⟨[], rfl, fun _ absent => (List.not_mem_nil absent).elim⟩, Nat.le_refl _, rfl, fun _ _ => rfl⟩

theorem Encloses.push (h : before.Encloses env) : before.Encloses env.push.2 :=
  ⟨h.bindings, h.next, h.held⟩

theorem Encloses.bind (h : before.Encloses env) {b : Binding}
    (own : env.ReservedSince before.store.next b) : before.Encloses (env.bind b) := by
  obtain ⟨newer, split, later⟩ := h.bindings
  refine ⟨⟨{ b with scope := env.currentScope } :: newer, ?_, ?_⟩, h.next, h.held⟩
  · show _ :: env.bindings = _
    rw [split, List.cons_append]
  · exact List.forall_mem_cons.mpr ⟨own.1, later⟩

theorem Encloses.declare (h : before.Encloses env) (name typeName : String) (lengths : List Nat)
    (constant : Bool) : before.Encloses (env.declare name typeName lengths constant) := by
  obtain ⟨b, -, base, -, declared⟩ := exists_declared env name typeName lengths constant
  obtain ⟨newer, split, later⟩ := h.bindings
  rw [declared]
  refine ⟨⟨b :: newer, ?_, ?_⟩, Nat.le_trans h.next (Nat.le_add_right _ _), ?_⟩
  · show b :: env.bindings = _
    rw [split, List.cons_append]
  · exact List.forall_mem_cons.mpr ⟨base ▸ h.next, later⟩
  · refine ⟨h.held.packsRows, fun a inside => ?_⟩
    rw [← h.held.held a inside]
    cases a <;> rfl

/-- The newest binding of a name that means a newer one is itself among the newer ones. -/
theorem newest_of_meansNewer {name : String} {newer older front back : List Binding} {b : Binding}
    (means : ∃ x ∈ newer, x.name = name) (split : newer ++ older = front ++ b :: back)
    (others : ∀ x ∈ front, x.name ≠ name) :
    ∃ rest, newer = front ++ b :: rest ∧ back = rest ++ older := by
  rcases List.append_eq_append_iff.mp split with ⟨more, rfl, -⟩ | ⟨more, rfl, tail⟩
  · obtain ⟨x, member, named⟩ := means
    exact (others x (List.mem_append_left _ member) named).elim
  · cases more with
    | nil =>
      obtain ⟨x, member, named⟩ := means
      rw [List.append_nil] at member
      exact (others x member named).elim
    | cons y rest =>
      obtain ⟨rfl, rfl⟩ := List.cons.inj tail
      exact ⟨rest, rfl, rfl⟩

theorem newerThan_of_encloses {newer : List Binding}
    (split : env.bindings = newer ++ before.bindings) :
    env.newerThan before.bindings.length = newer := by
  rw [newerThan, split, List.length_append, Nat.add_sub_cancel, List.take_left]

/-- **A write through a binding of the block** changes that binding and its own cells. -/
theorem Encloses.write (h : before.Encloses env) {name : String} (call : Assignment)
    (own : env.MeansNewer before.bindings.length name) :
    before.Encloses (env.write name call) := by
  obtain ⟨newer, split, later⟩ := h.bindings
  rw [MeansNewer, newerThan_of_encloses split] at own
  rcases write_cases name call env with ⟨-, same⟩ | ⟨front, b, back, split', -, others, changed⟩
  · rw [same]
    exact h
  · obtain ⟨rest, rfl, rfl⟩ := newest_of_meansNewer own (split.symm.trans split') others
    have trail := call.trail (⟨b, env.store⟩ : Bound Memory)
    have beyond : before.store.next ≤ b.base.number :=
      later b (List.mem_append_right _ List.mem_cons_self)
    rw [changed]
    refine ⟨⟨front ++ (call.after ⟨b, env.store⟩).binding :: rest, ?_, ?_⟩, ?_, ?_⟩
    · show front ++ _ :: (rest ++ before.bindings) = _
      rw [List.append_assoc, List.cons_append]
    · intro x member
      simp only [List.mem_append, List.mem_cons] at member later
      rcases member with front | rfl | rest
      · exact later x (.inl front)
      · rw [Binding.base_congr trail.cleared]
        exact beyond
      · exact later x (.inr (.inr rest))
    · show _ ≤ (call.after ⟨b, env.store⟩).store.next
      rw [trail.next]
      exact h.next
    · refine ⟨trail.hasRows.trans h.held.packsRows, fun a inside => ?_⟩
      rw [← h.held.held a inside]
      refine Binding.readAt_after fun spans => ?_
      have least := (Binding.spans_iff.mp spans).1
      omega

/-! ### Closing a block -/

theorem packsRows_releaseOwned (bindings : List Binding) (memory : Memory) :
    (bindings.foldl releaseOwned memory).packsRows = memory.packsRows := by
  induction bindings generalizing memory with
  | nil => rfl
  | cons b bindings ih =>
    rw [List.foldl_cons, ih, releaseOwned]
    cases b.isAlias <;> rfl

/-- Closing a scope that was opened around or inside of the block takes none of the bindings before
it, and releases cells of the block alone. -/
theorem Encloses.pop (h : before.Encloses env) {frame : Frame} {frames : List Frame}
    (innermost : env.frames = frame :: frames) (inside : before.bindings.length ≤ frame.start) :
    before.Encloses env.pop := by
  obtain ⟨newer, split, later⟩ := h.bindings
  have open' : env.frames ≠ [] := by
    rw [innermost]
    exact List.cons_ne_nil _ _
  have dropped : env.bindings.length - frame.start ≤ newer.length := by
    rw [split, List.length_append]
    omega
  have remaining : env.pop.bindings =
      newer.drop (env.bindings.length - frame.start) ++ before.bindings := by
    simp only [Environment.pop, innermost]
    rw [split, List.drop_append_of_le_length (split ▸ dropped)]
  have current : ∀ b ∈ env.currentBindings, before.store.next ≤ b.base.number := by
    intro b member
    simp only [currentBindings, currentStart, innermost, List.mem_reverse, newerThan] at member
    rw [split, List.take_append_of_le_length (split ▸ dropped)] at member
    exact later b (List.mem_of_mem_take member)
  have next : env.pop.store.next = env.store.next := by
    rw [store_pop open', next_releaseOwned]
  refine ⟨⟨_, remaining, fun b member => later b (List.mem_of_mem_drop member)⟩, ?_, ?_, ?_⟩
  · rw [next]
    exact h.next
  · rw [store_pop open', packsRows_releaseOwned]
    exact h.held.packsRows
  · intro a low
    have notOwned : ¬ owns env.currentBindings a.cellId = true := by
      rw [owns_iff]
      rintro ⟨b, member, -, spans⟩
      have least := current b member
      have reaches := (Binding.spans_iff.mp spans).1
      omega
    rw [readAt_pop open', if_neg notOwned]
    exact h.held.held a low

/-- **A block keeps what surrounds it.**  The induction follows the nesting: a block inside of it
ends with the scopes with which it began, so what it closes is its own scope. -/
theorem BlockRun.encloses {env last : Environment Memory}
    (run : BlockRun before.bindings.length before.store.next env last)
    (h : before.Encloses env) :
    before.Encloses last ∧ last.frames = env.frames := by
  induction run with
  | done env => exact ⟨h, rfl⟩
  | declare name typeName lengths constant rest ih =>
    obtain ⟨encloses, frames⟩ := ih (h.declare name typeName lengths constant)
    exact ⟨encloses, frames⟩
  | bind b own rest ih => exact ih (h.bind own)
  | @write env last name call own rest ih =>
    obtain ⟨encloses, frames⟩ := ih (h.write call own)
    refine ⟨encloses, frames.trans ?_⟩
    rcases write_cases name call env with ⟨-, same⟩ | ⟨_, _, _, -, -, -, changed⟩
    · rw [same]
    · rw [changed]
  | @block env inside last body rest ihBody ihRest =>
    obtain ⟨within, opened⟩ := ihBody h.push
    have innermost : inside.frames = ⟨⟨env.nextScope⟩, env.bindings.length⟩ :: env.frames := opened
    obtain ⟨newer, split, -⟩ := h.bindings
    have start : before.bindings.length ≤ env.bindings.length := by
      rw [split, List.length_append]
      exact Nat.le_add_left _ _
    obtain ⟨encloses, frames⟩ := ihRest (within.pop innermost start)
    refine ⟨encloses, frames.trans ?_⟩
    simp only [Environment.pop, innermost]

/-! ### Reads after a block -/

/-- **What surrounds a block reads as before it**, once no newer binding is left. -/
theorem read_of_encloses (sound : before.Sound) (h : before.Encloses env)
    (bindings : env.bindings = before.bindings) (name : String) (xs : List Operand)
    (ctx : Context) : env.read name xs ctx = before.read name xs ctx := by
  have found : env.lookup name = before.lookup name := by
    rw [lookup, lookup, find?, find?, bindings]
  rw [Environment.read, Environment.read, found]
  cases looked : before.lookup name with
  | error fault => rfl
  | ok b =>
    have member : b ∈ before.bindings := by
      rw [lookup, find?] at looked
      cases first : before.bindings.find? (·.name == name) with
      | none =>
        rw [first] at looked
        cases looked
      | some x =>
        rw [first] at looked
        rw [← Except.ok.inj looked]
        exact List.mem_of_find?_eq_some first
    have agree : AgreeOn b.Spans env.store before.store := by
      refine ⟨h.held.packsRows, fun a inside => h.held.held a ?_⟩
      have top := sound.below b member
      have below := (Binding.spans_iff.mp inside).2
      omega
    have same : ∀ ctx, b.item env.store xs ctx = b.item before.store xs ctx :=
      fun ctx => Binding.item_local xs ctx _ _ agree
    show Except.mapError _ (b.item env.store xs _) = Except.mapError _ (b.item before.store xs _)
    rw [same]

/-- **A block that keeps to its own variables is invisible afterwards.**  In a reachable environment
a scope is opened, a block is run in it and the scope is closed.  Then there are the same bindings
and the same scopes as before, and every text that is read as an access gives the same operand with
the same label, or the same fault. -/
theorem block_invisible {env last : Environment Memory} (reachable : Reachable env)
    (block : BlockRun env.bindings.length env.store.next env.push.2 last) :
    last.pop.bindings = env.bindings ∧ last.pop.frames = env.frames ∧
      ∀ (text : String) (ctx : Context), last.pop.access text ctx = env.access text ctx := by
  obtain ⟨encloses, frames⟩ := block.encloses (encloses_push env)
  have innermost : last.frames = ⟨⟨env.nextScope⟩, env.bindings.length⟩ :: env.frames := frames
  obtain ⟨newer, split, -⟩ := encloses.bindings
  have bindings : last.pop.bindings = env.bindings := by
    simp only [Environment.pop, innermost]
    rw [split, List.length_append, Nat.add_sub_cancel, List.drop_left]
  refine ⟨bindings, ?_, fun text ctx => ?_⟩
  · simp only [Environment.pop, innermost]
  · have closed := encloses.pop innermost (Nat.le_refl _)
    have reads := read_of_encloses (sound_of_reachable reachable) closed bindings
    simp only [access, reads]

/-- The block declares an `x` of its own, which hides the outer one, and lends it to an alias.  It
writes through the alias, and then, in a block inside of it, through `x` itself. -/
theorem block_invisible_shadowed :
    let borrowed : Binding := { name := "r", typeName := "int", isAlias := true, base := ⟨2⟩ }
    let outer : Environment Memory :=
      Operation.after (.write "x" { value := .sequence [.number 1, .number 2], indexes := [] })
        (Operation.after (.declare "x" "int" [2] false) { store := {} })
    let lent := (outer.push.2.declare "x" "int" [] true).bind borrowed
    let written := lent.write "r" { value := .single (.number 7), indexes := [] }
    let last := (written.push.2.write "x" { value := .single (.number 8), indexes := [] }).pop
    Reachable outer ∧ BlockRun outer.bindings.length outer.store.next outer.push.2 last ∧
      last.pop.bindings = outer.bindings ∧
      ∀ (text : String) (ctx : Context), last.pop.access text ctx = outer.access text ctx := by
  intro borrowed outer lent written last
  have declared : Reachable _ := .step (.declare "x" "int" [2] false) (.start false) trivial
  have reachable : Reachable outer := .step (.write "x" _) declared trivial
  have own : (outer.push.2.declare "x" "int" [] true).ReservedSince outer.store.next borrowed :=
    ⟨by decide, by decide⟩
  have alias' : lent.MeansNewer outer.bindings.length "r" := ⟨_, List.mem_cons_self, rfl⟩
  have hidden : written.push.2.MeansNewer outer.bindings.length "x" :=
    ⟨_, List.mem_cons_of_mem _ List.mem_cons_self, rfl⟩
  have block : BlockRun outer.bindings.length outer.store.next outer.push.2 last :=
    .declare "x" "int" [] true (.bind borrowed own (.write "r" _ alias'
      (.block (.write "x" _ hidden (.done _)) (.done _))))
  obtain ⟨bindings, -, reads⟩ := block_invisible reachable block
  exact ⟨reachable, block, bindings, reads⟩

end Environment

end ArrayCells
