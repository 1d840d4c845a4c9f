import ArrayCells.Proofs.EnvironmentRuns
import ArrayCells.Proofs.Initialization

/-!
# The lifetime of storage

A variable owns the cells that were reserved when it was declared, until its scope is closed.
Cells are never reserved twice, so the cells of different variables are different; aliases own
nothing, so closing a scope takes nothing from the variables of other scopes.

* `Environment.Sound` says this of a state, and that what the variables have recorded is held;
* `Sound.push`, `Sound.pop`, `Sound.declare`, `Sound.bind`, `Sound.write`: every operation keeps it;
* `Environment.readAt_pop`: closing a scope empties exactly the regions of its variables;
* `Binding.Kept.readable`: what a variable reports as written can be read, if the tuple has not too
  many indexes for a scalar;
* `Environment.storage_lifetime`: what follows for all reachable states, and
  `Environment.scalar_reports_index`: the scalar that reports an index it does not have.
-/

namespace ArrayCells

open CellStore ArrayCells.Bound

/-! ### Regions and records of bindings -/

namespace Binding

/-- The cell lies in the region of the binding. -/
def Spans (b : Binding) (c : CellId) : Prop :=
  Memory.inRegion b.base b.size c = true

/-- No cell lies in the regions of both bindings. -/
def Apart (b b' : Binding) : Prop :=
  ∀ c, ¬ (b.Spans c ∧ b'.Spans c)

/-- The flag is not set on an array with dimensions, where it would stand for no cell. -/
def FlagForCell (b : Binding) : Prop :=
  b.whole = true → ∀ shape, b.shape = some shape → shape.dim = 0

/-- All that is recorded lies in the region and is held by the store. -/
structure Kept (b : Binding) (store : Memory) : Prop where
  flag : b.FlagForCell
  spans : ∀ a, b.recorded a = true → b.Spans a.cellId
  held : ∀ a, b.recorded a = true → (readAt store a).isSome = true

/-- The binding reports the tuple as initialized and did not when it was made, so that it does for
what has been written through it. -/
structure ReportsWritten (b : Binding) (hasRows : Bool) (t : List Int) : Prop where
  marked : b.isMarked hasRows t = true
  fresh : b.cleared.isMarked hasRows t = false

/-- The binding is a scalar, and the tuple has more indexes than a scalar takes: one, for its rows,
if the store packs rows, and none otherwise. -/
structure Overruns (b : Binding) (hasRows : Bool) (t : List Int) : Prop where
  scalar : b.shape = none
  tooLong : hasRows.toNat < t.length

theorem spans_iff {b : Binding} {c : CellId} :
    b.Spans c ↔ b.base.number ≤ c.number ∧ c.number < b.base.number + b.size := by
  rw [Spans, Memory.inRegion, Bool.and_eq_true, decide_eq_true_eq, decide_eq_true_eq]

theorem apart_of_le {b b' : Binding} (h : b'.base.number + b'.size ≤ b.base.number) :
    b.Apart b' := by
  intro c both
  rw [spans_iff, spans_iff] at both
  omega

theorem spans_congr {b b' : Binding} (same : b'.cleared = b.cleared) (c : CellId) :
    b'.Spans c ↔ b.Spans c := by
  rw [Spans, Spans, base_congr same, size_congr same]

theorem Overruns.target {b : Binding} {hasRows : Bool} {t : List Int}
    (h : b.Overruns hasRows t) : b.target hasRows t = .error b.notAnArray :=
  (target_error_iff_of_scalar h.scalar).mpr ⟨h.tooLong, rfl⟩

/-- A scalar answers with its flag for the tuples that are too long for it. -/
theorem Overruns.isMarked {b : Binding} {hasRows : Bool} {t : List Int}
    (h : b.Overruns hasRows t) : b.isMarked hasRows t = b.whole := by
  rw [isMarked_of_target_error h.target, h.scalar, Option.isNone_none, Bool.true_and]

/-- What is reported but has not been written is a region without cells. -/
theorem empty_of_not_reportsWritten {b : Binding} {hasRows : Bool} {t : List Int}
    (marked : b.isMarked hasRows t = true) (unwritten : ¬ b.ReportsWritten hasRows t) :
    ∃ shape, b.shape = some shape ∧ shape.accepts t = true ∧ shape.regionSize t.length = 0 := by
  have before : b.cleared.isMarked hasRows t = true := by
    rw [← Bool.not_eq_false]
    exact fun fresh => unwritten ⟨marked, fresh⟩
  exact (isMarked_cleared_iff.mp before).2

/-- A region that is reported as written has cells: without any, it would have been reported from
the beginning. -/
theorem ReportsWritten.regionSize_pos {b : Binding} {hasRows : Bool} {t : List Int} {shape : Shape}
    (h : b.ReportsWritten hasRows t) (nonempty : t ≠ []) (array : b.shape = some shape)
    (fit : shape.accepts t = true) : 0 < shape.regionSize t.length := by
  rcases Nat.eq_zero_or_pos (shape.regionSize t.length) with empty | room
  · have before : b.cleared.isMarked hasRows t = true :=
      isMarked_cleared_iff.mpr ⟨nonempty, shape, array, fit, empty⟩
    rw [h.fresh] at before
    cases before
  · exact room

/-- **What is reported as written has a recorded beginning.**  If the tuple leads somewhere, the
cell or row that it leads to is recorded. -/
theorem ReportsWritten.recorded {b : Binding} {hasRows : Bool} {t : List Int} {target : Target}
    (h : b.ReportsWritten hasRows t) (flag : b.FlagForCell)
    (leads : b.target hasRows t = .ok target) : b.recorded target.address = true := by
  have marked := h.marked
  rcases target_ok leads with plain | ⟨c, row, rfl, selects⟩
  · rcases cellTarget_ok plain with ⟨scalar, rfl, rfl⟩ | ⟨shape, array, fit, rfl⟩
    · have selects : b.Selects hasRows [] (.cell b.base) := .scalar scalar
      rw [selects.isMarked_eq] at marked
      exact marked
    · have noRow : b.rowKey? hasRows t = none := by rw [rowKey?, leads]
      unfold Binding.isMarked at marked
      simp only [noRow, array] at marked
      cases t with
      | nil =>
        have dim := flag marked shape array
        simp only [Target.address, Binding.recorded, array, if_pos dim, marked, rank_nil_right,
          advance_zero, decide_true, Bool.and_true]
      | cons i t =>
        have short := length_le_of_fits fit
        have dim : shape.dim ≠ 0 := Nat.ne_of_gt (Nat.lt_of_lt_of_le (Nat.succ_pos _) short)
        have room := h.regionSize_pos (List.cons_ne_nil i t) array fit
        have first : shape.bit (rank shape.lengths (i :: t)) = true :=
          ((shape.isMarked_iff (i :: t)).mp marked).2 _ (Nat.le_refl _) (by omega)
        simp only [Target.address, Binding.recorded, array, if_neg dim, CellId.number_advance,
          Nat.le_add_right, decide_true, Bool.true_and, Nat.add_sub_cancel_left, first]
  · rw [selects.isMarked_eq] at marked
    exact marked

/-- **What a binding reports as written can be read**, if the tuple does not overrun it. -/
theorem Kept.readable {b : Binding} {store : Memory} (h : b.Kept store) {t : List Int}
    (reports : b.ReportsWritten (hasRows store) t) (within : ¬ b.Overruns (hasRows store) t) :
    ∃ content, b.read store t = .ok content := by
  cases leads : b.target (hasRows store) t with
  | ok target =>
    rw [read_ok_iff_of_target leads]
    exact h.held _ (reports.recorded h.flag leads)
  | error fault =>
    -- only a scalar reports what leads nowhere
    have marked := reports.marked
    rw [isMarked_of_target_error leads, Bool.and_eq_true, Option.isNone_iff_eq_none] at marked
    have tooLong := ((target_error_iff_of_scalar marked.1).mp leads).1
    exact (within ⟨marked.1, tooLong⟩).elim

/-- A binding that has recorded nothing keeps nothing. -/
theorem kept_of_cleared {b : Binding} (fresh : b.cleared = b) (store : Memory) : b.Kept store := by
  have nothing : ∀ a, b.recorded a = false := by
    intro a
    rw [← fresh]
    exact recorded_cleared b a
  have flag : b.whole = false := by rw [← fresh]; rfl
  refine ⟨?_, ?_, ?_⟩
  · intro set
    rw [flag] at set
    cases set
  · intro a was
    rw [nothing] at was
    cases was
  · intro a was
    rw [nothing] at was
    cases was

/-- What a store holds in addition does no harm. -/
theorem Kept.mono {b : Binding} {store store' : Memory} (h : b.Kept store)
    (more : ∀ a, b.recorded a = true → (readAt store a).isSome = true →
      (readAt store' a).isSome = true) : b.Kept store' :=
  ⟨h.flag, h.spans, fun a was => more a was (h.held a was)⟩

end Binding

/-! ### Trails -/

namespace Bound

theorem WriteStep.flagForCell {σ : Type} [CellStore σ] {forced : Bool} {s s' : Bound σ}
    {t : List Int} {a : Address} {content : Content} (h : WriteStep forced s t a content s')
    (flag : s.binding.FlagForCell) : s'.binding.FlagForCell := by
  have marked := h.marked
  split at marked
  · rw [← Except.ok.inj marked]
    exact flag
  · rcases Binding.mark_ok marked with ⟨id, -, same⟩ | ⟨shape, region, -, -, array, -, same⟩ |
      ⟨noRow, single, same⟩
    · rw [same]
      exact flag
    · intro set shape' array'
      obtain ⟨kept, array'', lengths⟩ := Binding.shape_congr h.cleared.symm array'
      rw [same] at set
      have dim := flag set kept array''
      rw [Shape.dim] at dim ⊢
      rw [← lengths, dim]
    · rw [same]
      intro _ shape array
      have array' : s.binding.shape = some shape := array
      rcases single with rfl | scalar
      · have closed := h.selects.closed shape array'
        rw [noRow] at closed
        rcases closed with full | isRow
        · exact full.symm
        · cases isRow
      · rw [scalar] at array'
        cases array'

namespace Trail

variable {forced : Bool} {s s' : Bound Memory} {writes : List (Address × Content)}

theorem spans (h : Trail forced s writes s') {a : Address} (written : a ∈ writes.map Prod.fst) :
    s.binding.Spans a.cellId := by
  obtain ⟨t, selects⟩ := h.selects written
  exact selects.spanned

theorem flagForCell (h : Trail forced s writes s') (flag : s.binding.FlagForCell) :
    s'.binding.FlagForCell := by
  induction h with
  | nil => exact flag
  | cons first rest ih => exact ih (first.flagForCell flag)

/-- **Writing keeps a binding kept**: what is recorded in addition has been stored. -/
theorem kept (h : Trail forced s writes s') (kept : s.binding.Kept s.store) :
    s'.binding.Kept s'.store := by
  refine ⟨h.flagForCell kept.flag, ?_, ?_⟩
  · intro a was
    rw [Binding.spans_congr h.cleared]
    rcases (h.recorded_iff a).mp was with before | written
    · exact kept.spans a before
    · exact h.spans written
  · intro a was
    rw [h.isSome_readAt_iff]
    rcases (h.recorded_iff a).mp was with before | written
    · exact .inl (kept.held a before)
    · exact .inr written

end Trail

end Bound

/-! ### Sound environments -/

namespace Environment

/-- The variables have regions of their own, all regions and all that is stored lie below the next
cell of the store, and what the variables have recorded is held. -/
structure Sound (env : Environment Memory) : Prop where
  apart : env.bindings.Pairwise fun b b' => b.isAlias = false → b'.isAlias = false → b.Apart b'
  below : ∀ b ∈ env.bindings, b.base.number + b.size ≤ env.store.next
  stored : ∀ a, (readAt env.store a).isSome = true → a.cellId.number < env.store.next
  kept : ∀ b ∈ env.bindings, b.isAlias = false → b.Kept env.store

theorem sound_start (packsRows : Bool) : Sound { store := { packsRows } } where
  apart := .nil
  below := fun b hb => by cases hb
  stored := fun a held => by
    rw [Memory.readAt_new packsRows 0 a] at held
    cases held
  kept := fun b hb => by cases hb

theorem Sound.push {env : Environment Memory} (h : env.Sound) : env.push.2.Sound :=
  ⟨h.apart, h.below, h.stored, h.kept⟩

/-! ### Closing a scope -/

/-- Whether one of the bindings owns the cell. -/
def owns (bindings : List Binding) (c : CellId) : Bool :=
  bindings.any fun b => !b.isAlias && Memory.inRegion b.base b.size c

theorem owns_iff (bindings : List Binding) (c : CellId) :
    owns bindings c = true ↔ ∃ b ∈ bindings, b.isAlias = false ∧ b.Spans c := by
  simp only [owns, List.any_eq_true, Bool.and_eq_true, Bool.not_eq_true', Binding.Spans]

/-- **Releasing the bindings of a list empties what they own.** -/
theorem readAt_releaseOwned (bindings : List Binding) (memory : Memory) (a : Address) :
    readAt (bindings.foldl releaseOwned memory) a =
      if owns bindings a.cellId = true then none else readAt memory a := by
  induction bindings generalizing memory with
  | nil => rfl
  | cons b bindings ih =>
    rw [List.foldl_cons, ih]
    have here : readAt (releaseOwned memory b) a =
        if (!b.isAlias && Memory.inRegion b.base b.size a.cellId) = true then none
        else readAt memory a := by
      rw [releaseOwned]
      cases b.isAlias with
      | true => rfl
      | false => exact Memory.readAt_release memory b.base b.size a
    rw [here, owns, owns, List.any_cons]
    cases (!b.isAlias && Memory.inRegion b.base b.size a.cellId) <;>
      cases bindings.any _ <;> rfl

theorem next_releaseOwned (bindings : List Binding) (memory : Memory) :
    (bindings.foldl releaseOwned memory).next = memory.next := by
  induction bindings generalizing memory with
  | nil => rfl
  | cons b bindings ih =>
    rw [List.foldl_cons, ih, releaseOwned]
    cases b.isAlias <;> rfl

/-- The bindings of the innermost scope are the newest ones, which go when it is closed. -/
theorem bindings_pop {env : Environment Memory} (inner : env.frames ≠ []) :
    env.bindings = env.currentBindings.reverse ++ env.pop.bindings := by
  cases hf : env.frames with
  | nil => exact (inner hf).elim
  | cons frame frames =>
    simp only [currentBindings, currentStart, pop, hf, newerThan, List.reverse_reverse,
      List.take_append_drop]

theorem store_pop {env : Environment Memory} (inner : env.frames ≠ []) :
    env.pop.store = env.currentBindings.foldl releaseOwned env.store := by
  cases hf : env.frames with
  | nil => exact (inner hf).elim
  | cons frame frames => simp only [currentBindings, currentStart, pop, hf]

/-- **Closing a scope empties exactly the regions of its variables.** -/
theorem readAt_pop {env : Environment Memory} (inner : env.frames ≠ []) (a : Address) :
    readAt env.pop.store a =
      if owns env.currentBindings a.cellId = true then none else readAt env.store a := by
  rw [store_pop inner, readAt_releaseOwned]

theorem Sound.pop {env : Environment Memory} (h : env.Sound) : env.pop.Sound := by
  by_cases inner : env.frames = []
  · have same : env.pop = env := by rw [Environment.pop, inner]
    rw [same]
    exact h
  · have split := bindings_pop inner
    have next : env.pop.store.next = env.store.next := by
      rw [store_pop inner, next_releaseOwned]
    have stays : ∀ {b}, b ∈ env.pop.bindings → b ∈ env.bindings := by
      intro b hb
      rw [split]
      exact List.mem_append_right _ hb
    have apart := h.apart
    rw [split, List.pairwise_append] at apart
    refine ⟨apart.2.1, ?_, ?_, ?_⟩
    · intro b hb
      rw [next]
      exact h.below b (stays hb)
    · intro a held
      rw [readAt_pop inner] at held
      split at held
      · cases held
      · rw [next]
        exact h.stored a held
    · intro b hb owner
      refine (h.kept b (stays hb) owner).mono fun a was held => ?_
      -- the closed scope owns nothing of what a variable outside of it has recorded
      have outside : ¬ owns env.currentBindings a.cellId = true := by
        rw [owns_iff]
        rintro ⟨b', hb', owner', spans'⟩
        have newer : b' ∈ env.currentBindings.reverse := List.mem_reverse.mpr hb'
        have spans := (h.kept b (stays hb) owner).spans a was
        exact apart.2.2 b' newer b hb owner' owner a.cellId ⟨spans', spans⟩
      rw [readAt_pop inner, if_neg outside]
      exact held

/-! ### New bindings -/

/-- A declaration adds a variable with an empty record, whose region begins at the next cell. -/
theorem exists_declared (env : Environment Memory) (name typeName : String) (lengths : List Nat)
    (constant : Bool) :
    ∃ b : Binding, b.isAlias = false ∧ b.base.number = env.store.next ∧ b.cleared = b ∧
      env.declare name typeName lengths constant =
        { env with
          bindings := b :: env.bindings
          store := { env.store with next := env.store.next + b.size } } := by
  cases lengths with
  | nil => exact ⟨_, rfl, rfl, rfl, rfl⟩
  | cons n lengths =>
    let b : Binding :=
      { name, typeName, shape := some (.fresh (n :: lengths)), base := ⟨env.store.next⟩,
        scope := env.currentScope, flags := { constant } }
    refine ⟨b, rfl, rfl, rfl, ?_⟩
    have size : (Shape.fresh (n :: lengths)).size = volume (n :: lengths) :=
      (Shape.fresh (n :: lengths)).length_marks
    simp only [declare, Shape.ofDeclaration, Environment.bind, Binding.size, b, size]
    rfl

theorem Sound.declare {env : Environment Memory} (h : env.Sound) (name typeName : String)
    (lengths : List Nat) (constant : Bool) :
    (env.declare name typeName lengths constant).Sound := by
  obtain ⟨b, owner, base, fresh, declared⟩ := exists_declared env name typeName lengths constant
  have sameHeld : ∀ a, readAt (env.declare name typeName lengths constant).store a =
      readAt env.store a := by
    intro a
    rw [declared]
    cases a <;> rfl
  have next : (env.declare name typeName lengths constant).store.next =
      env.store.next + b.size := by rw [declared]
  have bindings : (env.declare name typeName lengths constant).bindings = b :: env.bindings := by
    rw [declared]
  refine ⟨?_, ?_, ?_, ?_⟩
  · rw [bindings, List.pairwise_cons]
    refine ⟨fun b' hb' _ _ => Binding.apart_of_le ?_, h.apart⟩
    rw [base]
    exact h.below b' hb'
  · intro b' hb'
    rw [next]
    rw [bindings] at hb'
    rcases List.mem_cons.mp hb' with rfl | hb'
    · rw [base]
    · have before := h.below b' hb'
      omega
  · intro a held
    rw [sameHeld] at held
    rw [next]
    have before := h.stored a held
    omega
  · intro b' hb' owner'
    rw [bindings] at hb'
    rcases List.mem_cons.mp hb' with rfl | hb'
    · exact Binding.kept_of_cleared fresh _
    · refine (h.kept b' hb' owner').mono fun a _ held => ?_
      rw [sameHeld]
      exact held

theorem Sound.bind {env : Environment Memory} (h : env.Sound) {b : Binding}
    (isAlias : b.isAlias = true)
    (within : ∃ owner ∈ env.bindings, owner.isAlias = false ∧ b.Within owner) :
    (env.bind b).Sound := by
  obtain ⟨owner, hOwner, -, inside⟩ := within
  refine ⟨?_, ?_, h.stored, ?_⟩
  · refine List.pairwise_cons.mpr ⟨fun b' _ notAlias => ?_, h.apart⟩
    have absurd : b.isAlias = false := notAlias
    rw [isAlias] at absurd
    cases absurd
  · intro b' hb'
    rcases List.mem_cons.mp hb' with rfl | hb'
    · show b.base.number + b.size ≤ env.store.next
      have outer := h.below owner hOwner
      have inner := inside.2
      omega
    · exact h.below b' hb'
  · intro b' hb' notAlias
    rcases List.mem_cons.mp hb' with rfl | hb'
    · have absurd : b.isAlias = false := notAlias
      rw [isAlias] at absurd
      cases absurd
    · exact h.kept b' hb' notAlias

/-! ### Writes -/

/-- A binding in the list has only recorded something. -/
theorem mem_replaced {newer older : List Binding} {b b' x : Binding}
    (h : x ∈ newer ++ b' :: older) : x = b' ∨ x ∈ newer ++ b :: older := by
  simp only [List.mem_append, List.mem_cons] at h ⊢
  rcases h with front | here | back
  · exact .inr (.inl front)
  · exact .inl here
  · exact .inr (.inr (.inr back))

theorem apart_replaced {newer older : List Binding} {b b' : Binding}
    (same : b'.cleared = b.cleared)
    (h : (newer ++ b :: older).Pairwise fun x y =>
      x.isAlias = false → y.isAlias = false → x.Apart y) :
    (newer ++ b' :: older).Pairwise fun x y =>
      x.isAlias = false → y.isAlias = false → x.Apart y := by
  have aliases := Binding.isAlias_congr same
  have spans := Binding.spans_congr same
  simp only [List.pairwise_append, List.pairwise_cons, List.mem_cons, forall_eq_or_imp,
    Binding.Apart, aliases, spans] at h ⊢
  exact h

/-- The other bindings and the regions of all stay as they are; the record of the binding grows with
the store. -/
theorem Sound.write {env : Environment Memory} (h : env.Sound) (name : String)
    (call : Assignment) : (env.write name call).Sound := by
  rcases write_cases name call env with ⟨-, same⟩ | ⟨newer, b, older, split, -, -, changed⟩
  · rw [same]
    exact h
  · have trail := call.trail (⟨b, env.store⟩ : Bound Memory)
    generalize hs : call.after (⟨b, env.store⟩ : Bound Memory) = s at trail changed
    have same : s.binding.cleared = b.cleared := trail.cleared
    have next : s.store.next = env.store.next := trail.next
    have member : b ∈ env.bindings := by
      rw [split]
      exact List.mem_append_right _ List.mem_cons_self
    have old : ∀ {x}, x ∈ newer ++ s.binding :: older → x = s.binding ∨ x ∈ env.bindings := by
      intro x hx
      rw [split]
      exact mem_replaced hx
    have apart := h.apart
    rw [split] at apart
    rw [changed]
    refine ⟨apart_replaced same apart, ?_, ?_, ?_⟩
    · intro x hx
      show _ ≤ s.store.next
      rw [next]
      rcases old hx with rfl | hx
      · rw [Binding.base_congr same, Binding.size_congr same]
        exact h.below b member
      · exact h.below x hx
    · intro a held
      show _ < s.store.next
      rw [next]
      rcases (trail.isSome_readAt_iff a).mp held with before | written
      · exact h.stored a before
      · have spans := Binding.spans_iff.mp (trail.spans written)
        have top := h.below b member
        exact Nat.lt_of_lt_of_le spans.2 top
    · intro x hx owner
      rcases old hx with rfl | hx
      · rw [Binding.isAlias_congr same] at owner
        exact trail.kept (h.kept b member owner)
      · refine (h.kept x hx owner).mono fun a _ held => ?_
        exact (trail.isSome_readAt_iff a).mpr (.inl held)

/-! ### Reachable environments -/

/-- **Every operation keeps an environment sound.** -/
theorem Sound.after {env : Environment Memory} (h : env.Sound) {op : Operation}
    (permitted : op.Permitted env) : (op.after env).Sound := by
  cases op with
  | push => exact h.push
  | pop => exact h.pop
  | declare name typeName lengths constant => exact h.declare name typeName lengths constant
  | bind b => exact h.bind permitted.1 permitted.2
  | write name call => exact h.write name call

theorem sound_of_reachable {env : Environment Memory} (h : Reachable env) : env.Sound := by
  induction h with
  | start packsRows => exact sound_start packsRows
  | step op before permitted ih => exact ih.after permitted

/-- **The lifetime of storage.**  In every reachable environment the variables have separate regions
below the next cell of the store.  Closing a scope above the global one empties exactly what its own
variables span, and drops just these bindings.  A new variable finds nothing in its region.

What a variable reports as initialized for what has been written through it can be read, except
through a tuple that is too long for a scalar.  Such a tuple leads nowhere, but the scalar answers
for it with its flag.  Regions without cells are all that is reported besides. -/
theorem storage_lifetime {env : Environment Memory} (reachable : Reachable env) :
    (env.bindings.Pairwise fun b b' => b.isAlias = false → b'.isAlias = false → b.Apart b') ∧
      (∀ b ∈ env.bindings, b.isAlias = false → b.base.number + b.size ≤ env.store.next) ∧
      (env.frames ≠ [] →
        env.bindings = env.currentBindings.reverse ++ env.pop.bindings ∧
        ∀ a, readAt env.pop.store a =
          if owns env.currentBindings a.cellId = true then none else readAt env.store a) ∧
      (∀ (name typeName : String) (lengths : List Nat) (constant : Bool),
        ∃ b : Binding, b.isAlias = false ∧
          (env.declare name typeName lengths constant).bindings = b :: env.bindings ∧
          ∀ a, b.Spans a.cellId →
            readAt (env.declare name typeName lengths constant).store a = none) ∧
      ∀ b ∈ env.bindings, b.isAlias = false → ∀ t,
        (b.ReportsWritten (hasRows env.store) t → ¬ b.Overruns (hasRows env.store) t →
          ∃ content, b.read env.store t = .ok content) ∧
        (b.Overruns (hasRows env.store) t →
          b.isMarked (hasRows env.store) t = b.whole ∧
            b.read env.store t = .error b.notAnArray) ∧
        (b.isMarked (hasRows env.store) t = true → ¬ b.ReportsWritten (hasRows env.store) t →
          ∃ shape, b.shape = some shape ∧ shape.accepts t = true ∧
            shape.regionSize t.length = 0) := by
  have sound := sound_of_reachable reachable
  refine ⟨sound.apart, fun b hb _ => sound.below b hb, ?_, ?_, ?_⟩
  · exact fun inner => ⟨bindings_pop inner, readAt_pop inner⟩
  · intro name typeName lengths constant
    obtain ⟨b, owner, base, -, declared⟩ := exists_declared env name typeName lengths constant
    refine ⟨b, owner, by rw [declared], fun a spans => ?_⟩
    have sameHeld : readAt (env.declare name typeName lengths constant).store a =
        readAt env.store a := by
      rw [declared]
      cases a <;> rfl
    rw [sameHeld]
    -- what is stored lies below the next cell, where the region begins
    cases held : readAt env.store a with
    | none => rfl
    | some content =>
      have low := sound.stored a (by rw [held]; rfl)
      have high := (Binding.spans_iff.mp spans).1
      rw [base] at high
      omega
  · intro b hb owner t
    refine ⟨(sound.kept b hb owner).readable, fun overruns => ?_,
      Binding.empty_of_not_reportsWritten⟩
    exact ⟨overruns.isMarked, Binding.read_of_target_error overruns.target⟩

/-- An inner scope holds a variable and an alias, and both are written.  The variable reports what it
has, and it can be read.  When the scope is closed, what was written through the alias stays, and
what the variable had is gone. -/
theorem storage_lifetime_alias :
    let borrowed : Binding :=
      { name := "r", typeName := "int", isAlias := true, base := ⟨1⟩ }
    let outer : Environment Memory :=
      Operation.after (.declare "x" "int" [2] false) { store := { packsRows := true } }
    let inner := Operation.after (.declare "y" "int" [] true) (Operation.push.after outer)
    let shared := Operation.after (.bind borrowed) inner
    let written := Operation.after
      (.write "r" { value := .single (.number 7), indexes := [3] }) shared
    let env := Operation.after (.write "y" { value := .single (.number 8), indexes := [] }) written
    Reachable env ∧ readAt env.store (.row ⟨⟨1⟩, 3⟩) = some (.number 7) ∧
      readAt env.pop.store (.row ⟨⟨1⟩, 3⟩) = some (.number 7) ∧
      readAt env.store (.cell ⟨2⟩) = some (.number 8) ∧
      readAt env.pop.store (.cell ⟨2⟩) = none ∧
      ∃ y ∈ env.bindings, y.isAlias = false ∧ y.ReportsWritten (hasRows env.store) [] ∧
        ∃ content, y.read env.store [] = .ok content := by
  intro borrowed outer inner shared written env
  have declared : Reachable outer := .step (.declare "x" "int" [2] false) (.start true) trivial
  have opened : Reachable (Operation.push.after outer) := .step .push declared trivial
  have both : Reachable inner := .step (.declare "y" "int" [] true) opened trivial
  have permitted : Operation.Permitted inner (.bind borrowed) := by
    refine ⟨rfl, _, List.mem_cons_of_mem _ List.mem_cons_self, rfl, ?_⟩
    rw [Binding.Within]
    decide
  have lent : Reachable shared := .step (.bind borrowed) both permitted
  have reachable : Reachable env := .step (.write "y" _) (.step (.write "r" _) lent trivial) trivial
  have pops := ((storage_lifetime reachable).2.2.1 (List.cons_ne_nil _ _)).2
  refine ⟨reachable, rfl, ?_, rfl, ?_, ?_⟩
  · rw [pops, if_neg (by decide)]
    rfl
  · rw [pops, if_pos (by decide)]
  · obtain ⟨y, member, owner, reports⟩ : ∃ y ∈ env.bindings, y.isAlias = false ∧
        y.ReportsWritten (hasRows env.store) [] :=
      ⟨_, List.mem_cons_of_mem _ List.mem_cons_self, rfl, ⟨rfl, rfl⟩⟩
    have reads := ((storage_lifetime reachable).2.2.2.2 y member owner []).1
    have within : ¬ y.Overruns (hasRows env.store) [] :=
      fun overruns => Nat.not_lt_zero _ overruns.tooLong
    exact ⟨y, member, owner, reports, reads reports within⟩

/-- **A scalar reports an index that it does not have.**  The scalar has been written, over a store
without rows.  From then on it reports that index 0 is initialized, but a read there fails, since
there is no such index. -/
theorem scalar_reports_index :
    let declared : Environment Memory := Operation.after (.declare "x" "int" [] false) { store := {} }
    let env := Operation.after (.write "x" { value := .single (.number 5), indexes := [] }) declared
    Reachable env ∧ ∃ x ∈ env.bindings, x.isAlias = false ∧
      x.ReportsWritten (hasRows env.store) [0] ∧
        x.read env.store [0] = .error (.notAnArray "x") := by
  intro declared env
  have reachable : Reachable declared := .step (.declare "x" "int" [] false) (.start false) trivial
  refine ⟨.step (.write "x" _) reachable trivial, ?_⟩
  exact ⟨_, List.mem_cons_self, rfl, ⟨rfl, rfl⟩, rfl⟩

end Environment

end ArrayCells
