import ArrayCells.Proofs.Journal
import ArrayCells.Proofs.Reading

/-!
# What the assignment of a region does

A tuple that leaves dimensions open assigns the cells below it, one after the other in row-major
order.  The assignment stops before the first cell for which there is an obstacle: the source has no
value for it, or the cell was recorded before and must not be written again.  What is in the way can
be told from the state before the call, because the cells of a region are apart and the source is
steady: it gives every value as before the call, for instance if it reads no cell.

* `Binding.selects_region`: the tuple at each position below a tuple, and its cell;
* `Assignment.obstacle?`: what is in the way at a position;
* `Assignment.FilledUpTo`: the cells at the positions below a number are written and recorded, and
  nothing else has changed;
* `Assignment.Steady`: the source does not notice that cells of the region are written;
* `Assignment.FilledUpTo.step`: one round of the loop stops at an obstacle or fills one more cell;
* `Assignment.act_fills`: the outcome of every assignment of a region from a steady source, and
  `Assignment.act_region`: the same for sources that read no cell.
-/

namespace ArrayCells

open CellStore ArrayCells.Bound

/-! ### The cells of a region -/

namespace Binding

variable {b : Binding} {shape : Shape} {t : List Int}

/-- **The cells below a tuple** lie one behind the other, each selected by the tuple with the tuple
at its position behind it. -/
theorem selects_region (array : b.shape = some shape) (fit : shape.accepts t = true)
    (hasRows : Bool) {k : Nat} (below : k < volume (shape.lengths.drop t.length)) :
    b.Selects hasRows (t ++ tupleAt (shape.lengths.drop t.length) k)
      (.cell (b.base.advance (rank shape.lengths t + k))) := by
  have within : t.length ≤ shape.lengths.length := length_le_of_fits fit
  have inside : shape.accepts (t ++ tupleAt (shape.lengths.drop t.length) k) = true := by
    rw [Shape.accepts, fits_append, Bool.and_eq_true]
    exact ⟨fit, tupleAt_fits below⟩
  have full : (t ++ tupleAt (shape.lengths.drop t.length) k).length = shape.dim := by
    rw [List.length_append, length_tupleAt, List.length_drop, Shape.dim]
    omega
  have number : rank shape.lengths (t ++ tupleAt (shape.lengths.drop t.length) k) =
      rank shape.lengths t + k := by
    rw [rank_append, rank_tupleAt below]
  rw [← number]
  exact .element array inside full

/-- Cells at different distances from a base are different. -/
theorem cell_ne_cell {base : CellId} {m n : Nat} (h : m ≠ n) :
    Address.cell (base.advance m) ≠ .cell (base.advance n) :=
  fun same => h (advance_injective (Address.cell.inj same))

/-- A tuple with too few indexes opens the lengths that are left, whether there are rows or not. -/
theorem opened_of_short (array : b.shape = some shape) (fit : shape.accepts t = true)
    (short : t.length < shape.dim) (hasRows : Bool) :
    b.opened hasRows t = .ok (some (shape.lengths.drop t.length)) := by
  have single : ¬ ((b.rowKey? hasRows t).isSome || shape.isFull t) = true := by
    rw [rowKey?, target_of_accepts array fit, Bool.or_eq_true, Shape.isFull_iff, not_or]
    exact ⟨Bool.false_ne_true, Nat.ne_of_lt short⟩
  simp only [opened, array, if_neg single, if_pos fit]

end Binding

namespace Bound

/-- A step through indexes that writes a cell changes the marks of the shape and the cells of the
store, and no other field of either. -/
theorem WriteStep.fields {s s' : Bound Memory} {forced : Bool} {shape : Shape} {t : List Int}
    {c : CellId} {content : Content} (h : WriteStep forced s t (.cell c) content s')
    (indexed : t ≠ []) (array : s.binding.shape = some shape) :
    s'.binding = { s.binding with shape := s'.binding.shape } ∧
      s'.store = { s.store with cells := s'.store.cells } := by
  refine ⟨?_, ?_⟩
  · have marked := h.marked
    split at marked
    · rw [← Except.ok.inj marked]
    · have noRow : s.binding.rowKey? (CellStore.hasRows s.store) t = none := h.selects.rowKey
      rcases Binding.mark_ok marked with ⟨id, isRow, -⟩ | ⟨_, _, -, -, -, -, changed⟩ |
        ⟨-, none, -⟩
      · rw [noRow] at isRow
        cases isRow
      · rw [changed]
      · rcases none with none | scalar
        · exact (indexed none).elim
        · rw [array] at scalar
          cases scalar
  · rw [Memory.eq_of_writeAt h.stored]

end Bound

/-! ### Filling a region -/

namespace Assignment

/-- The value for a position of a region, as the source gives it before the call. -/
def source {σ : Type} [CellStore σ] (call : Assignment) (s : Bound σ) (lengths : List Nat)
    (k : Nat) : Except Fault Content :=
  call.value.element s.store s.binding.name call.indexes lengths k (tupleAt lengths k)

/-- What is in the way of the cell at a position of a region before the call: there is no value for
it, or the cell refuses to be written. -/
def obstacle? {σ : Type} [CellStore σ] (call : Assignment) (s : Bound σ) (lengths : List Nat)
    (k : Nat) : Option Fault :=
  match call.source s lengths k with
  | .error fault => some fault
  | .ok _ =>
    s.binding.refusal? (hasRows s.store) (call.indexes ++ tupleAt lengths k) call.forced

/-- One round of the call: the value for a position goes into its cell. -/
def round (call : Assignment) (lengths : List Nat) : List Int × Nat → Writing Memory Unit :=
  assignCell call.value call.indexes lengths { call.ctx with forceInit := call.forced }

/-- The cells at the first `n` positions of the region that begins `start` cells behind the base
hold the values of the source and are recorded.  All other cells, all rows and the rest of the
record are as they were before the call. -/
structure FilledUpTo (call : Assignment) (s : Bound Memory) (lengths : List Nat) (start n : Nat)
    (s' : Bound Memory) : Prop where
  written : ∀ k < n, ∃ content, call.source s lengths k = .ok content ∧
    readAt s'.store (.cell (s.binding.base.advance (start + k))) = some content ∧
    s'.binding.recorded (.cell (s.binding.base.advance (start + k))) = true
  kept : ∀ a, (∀ k < n, a ≠ .cell (s.binding.base.advance (start + k))) →
    readAt s'.store a = readAt s.store a ∧ s'.binding.recorded a = s.binding.recorded a
  cleared : s'.binding.cleared = s.binding.cleared
  binding : s'.binding = { s.binding with shape := s'.binding.shape }
  store : s'.store = { s.store with cells := s'.store.cells }

namespace FilledUpTo

variable {call : Assignment} {s s₁ s₂ : Bound Memory} {lengths : List Nat} {start n : Nat}

theorem zero (call : Assignment) (s : Bound Memory) (lengths : List Nat) (start : Nat) :
    call.FilledUpTo s lengths start 0 s where
  written k below := (Nat.not_lt_zero k below).elim
  kept _ _ := ⟨rfl, rfl⟩
  cleared := rfl
  binding := rfl
  store := rfl

theorem hasRows_eq (h : call.FilledUpTo s lengths start n s₁) :
    hasRows s₁.store = hasRows s.store := by
  have packs := congrArg Memory.packsRows h.store
  exact packs

/-- The source gives the same value for a position as before the call if it reads no cell. -/
theorem source_eq (h : call.FilledUpTo s lengths start n s₁)
    (viewless : call.value.AllViews fun _ => False) (k : Nat) :
    call.source s₁ lengths k = call.source s lengths k := by
  rw [source, source, Binding.name_congr h.cleared]
  exact RightSide.element_of_viewless viewless s₁.store s.store _ _ _ _ _

end FilledUpTo

/-- When it is the turn of a position, the source still gives the value for it that it gave before
the call. -/
def Steady (call : Assignment) (s : Bound Memory) (lengths : List Nat) (start : Nat) : Prop :=
  ∀ n < volume lengths, ∀ s₁, call.FilledUpTo s lengths start n s₁ →
    call.source s₁ lengths n = call.source s lengths n

theorem steady_of_viewless (call : Assignment) (s : Bound Memory) (lengths : List Nat) (start : Nat)
    (viewless : call.value.AllViews fun _ => False) : call.Steady s lengths start :=
  fun n _ _ filled => filled.source_eq viewless n

namespace FilledUpTo

variable {call : Assignment} {s s₁ s₂ : Bound Memory} {lengths : List Nat} {start n : Nat}

/-- The cells that are not filled yet refuse what they refused before the call. -/
theorem refusal?_eq (h : call.FilledUpTo s lengths start n s₁) {t : List Int} {k : Nat}
    (ahead : n ≤ k)
    (selects : s.binding.Selects (hasRows s.store) t (.cell (s.binding.base.advance (start + k))))
    (forced : Bool) :
    s₁.binding.refusal? (hasRows s₁.store) t forced =
      s.binding.refusal? (hasRows s.store) t forced := by
  have other : ∀ j < n, Address.cell (s.binding.base.advance (start + k)) ≠
      .cell (s.binding.base.advance (start + j)) :=
    fun j below => Binding.cell_ne_cell (by omega)
  rw [h.hasRows_eq]
  refine Binding.refusal?_congr h.cleared ?_ forced
  rw [(selects.congr h.cleared).isMarked_eq, selects.isMarked_eq]
  exact (h.kept _ other).2

/-- One more cell is filled by the write of its value. -/
theorem extend (h : call.FilledUpTo s lengths start n s₁) {t : List Int} {forced : Bool}
    {content : Content} (value : call.source s lengths n = .ok content)
    (written : WriteStep forced s₁ t (.cell (s.binding.base.advance (start + n))) content s₂)
    (fields : s₂.binding = { s₁.binding with shape := s₂.binding.shape } ∧
      s₂.store = { s₁.store with cells := s₂.store.cells }) :
    call.FilledUpTo s lengths start (n + 1) s₂ where
  written := by
    intro k below
    rw [Memory.readAt_writeAt written.stored, written.recorded]
    by_cases last : k = n
    · subst last
      rw [if_pos rfl, decide_eq_true rfl, Bool.or_true]
      exact ⟨content, value, rfl, rfl⟩
    · obtain ⟨earlier, given, held, recorded⟩ := h.written k (by omega)
      have other : Address.cell (s.binding.base.advance (start + k)) ≠
          .cell (s.binding.base.advance (start + n)) := Binding.cell_ne_cell (by omega)
      rw [if_neg other, held, recorded]
      exact ⟨earlier, given, rfl, rfl⟩
  kept := by
    intro a outside
    have other := outside n (Nat.lt_succ_self n)
    rw [Memory.readAt_writeAt written.stored, written.recorded, if_neg other,
      decide_eq_false other, Bool.or_false]
    exact h.kept a fun k below => outside k (Nat.lt_succ_of_lt below)
  cleared := written.cleared.trans h.cleared
  binding := by
    rw [fields.1, h.binding]
  store := by
    rw [fields.2, h.store]

variable {shape : Shape}

/-- **One round** of the assignment stops at an obstacle and changes nothing, or fills the next
cell. -/
theorem step (array : s.binding.shape = some shape) (fit : shape.accepts call.indexes = true)
    (short : call.indexes.length < shape.dim)
    (steady : call.Steady s lengths (rank shape.lengths call.indexes))
    (hl : lengths = shape.lengths.drop call.indexes.length)
    (h : call.FilledUpTo s lengths (rank shape.lengths call.indexes) n s₁)
    (below : n < volume lengths) :
    (∃ fault, call.obstacle? s lengths n = some fault ∧
        call.round lengths (tupleAt lengths n, n) s₁ = .error fault s₁) ∨
      ∃ s₂, call.obstacle? s lengths n = none ∧
        call.round lengths (tupleAt lengths n, n) s₁ = .ok () s₂ ∧
        call.FilledUpTo s lengths (rank shape.lengths call.indexes) (n + 1) s₂ := by
  subst hl
  have selects := Binding.selects_region array fit (hasRows s.store) below
  have value := steady n below s₁ h
  have refused := h.refusal?_eq (Nat.le_refl n) selects call.forced
  rw [source] at value
  rw [round, assignCell_eq, value, obstacle?]
  cases given : call.source s (shape.lengths.drop call.indexes.length) n with
  | error fault => exact .inl ⟨fault, rfl, rfl⟩
  | ok content =>
    simp only
    rw [← refused]
    cases allowed : s₁.binding.refusal? (hasRows s₁.store)
      (call.indexes ++ tupleAt (shape.lengths.drop call.indexes.length) n) call.forced with
    | some fault => exact .inl ⟨fault, rfl, assignOne_of_refused allowed⟩
    | none =>
      have selects₁ := selects.congr h.cleared
      rw [← h.hasRows_eq] at selects₁
      obtain ⟨s₂, done, written⟩ := assignOne_of_allowed content
        { call.ctx with forceInit := call.forced } selects₁ allowed rfl
      obtain ⟨shape₁, array₁, -⟩ := Binding.shape_congr h.cleared array
      have indexed : call.indexes ++ tupleAt (shape.lengths.drop call.indexes.length) n ≠ [] := by
        intro empty
        have rest := congrArg List.length (List.append_eq_nil_iff.mp empty).2
        rw [length_tupleAt, List.length_drop, List.length_nil] at rest
        rw [Shape.dim] at short
        omega
      exact .inr ⟨s₂, rfl, done, h.extend given written (written.fields indexed array₁)⟩

/-- **The loop** over the positions from `n` on goes on to the first obstacle or to the end.  The
induction is on the number of positions that are left. -/
theorem loop (array : s.binding.shape = some shape) (fit : shape.accepts call.indexes = true)
    (short : call.indexes.length < shape.dim)
    (steady : call.Steady s lengths (rank shape.lengths call.indexes))
    (hl : lengths = shape.lengths.drop call.indexes.length)
    (h : call.FilledUpTo s lengths (rank shape.lengths call.indexes) n s₁)
    (clear : ∀ k < n, call.obstacle? s lengths k = none) (left : Nat)
    (total : n + left = volume lengths) :
    let rounds := ((List.range' n left).map fun k => (tupleAt lengths k, k)).forM
      (call.round lengths)
    ∃ m s₂, m ≤ volume lengths ∧ (∀ k < m, call.obstacle? s lengths k = none) ∧
      call.FilledUpTo s lengths (rank shape.lengths call.indexes) m s₂ ∧
      (m = volume lengths ∧ rounds s₁ = .ok () s₂ ∨
        m < volume lengths ∧ ∃ fault, call.obstacle? s lengths m = some fault ∧
          rounds s₁ = .error fault s₂) := by
  induction left generalizing n s₁ with
  | zero =>
    rw [Nat.add_zero] at total
    exact ⟨n, s₁, Nat.le_of_eq total, clear, h, .inl ⟨total, rfl⟩⟩
  | succ left ih =>
    simp only
    rw [List.range'_succ, List.map_cons, Writing.forM_cons_apply]
    have below : n < volume lengths := by omega
    rcases h.step array fit short steady hl below with
      ⟨fault, obstacle, stopped⟩ | ⟨s', free, done, filled⟩
    · rw [stopped]
      exact ⟨n, s₁, Nat.le_of_lt below, clear, h, .inr ⟨below, fault, obstacle, rfl⟩⟩
    · have clear' : ∀ k < n + 1, call.obstacle? s lengths k = none := by
        intro k hk
        rcases Nat.lt_succ_iff_lt_or_eq.mp hk with earlier | last
        · exact clear k earlier
        · rw [last]
          exact free
      rw [done]
      exact ih filled clear' (by omega)

/-- A position that is filled reads its value through its tuple, and is marked. -/
theorem read (array : s.binding.shape = some shape) (fit : shape.accepts call.indexes = true)
    (hl : lengths = shape.lengths.drop call.indexes.length)
    (h : call.FilledUpTo s lengths (rank shape.lengths call.indexes) n s₁) (le : n ≤ volume lengths)
    {k : Nat} (below : k < n) :
    ∃ content, call.source s lengths k = .ok content ∧
      s₁.binding.read s₁.store (call.indexes ++ tupleAt lengths k) = .ok content ∧
      s₁.binding.isMarked (hasRows s₁.store) (call.indexes ++ tupleAt lengths k) = true := by
  subst hl
  obtain ⟨content, given, held, recorded⟩ := h.written k below
  have inside := Nat.lt_of_lt_of_le below le
  have selects := (Binding.selects_region array fit (hasRows s₁.store) inside).congr h.cleared
  refine ⟨content, given, ?_, ?_⟩
  · rw [selects.read, held]
  · rw [selects.isMarked_eq, recorded]

end FilledUpTo

/-- The call assigns the region that its tuple leaves open. -/
theorem act_of_short {σ : Type} [CellStore σ] (call : Assignment) {s : Bound σ} {shape : Shape}
    (array : s.binding.shape = some shape) (fit : shape.accepts call.indexes = true)
    (short : call.indexes.length < shape.dim) :
    call.act s =
      assignRegion call.value call.indexes (shape.lengths.drop call.indexes.length)
        { call.ctx with forceInit := call.forced } s := by
  rw [act_eq, assign_eq, Binding.opened_of_short array fit short]

/-- **A right side that is not too long is assigned up to the first obstacle**, if it is steady. -/
theorem act_fills (call : Assignment) {s : Bound Memory} {shape : Shape}
    (array : s.binding.shape = some shape) (fit : shape.accepts call.indexes = true)
    (short : call.indexes.length < shape.dim)
    (steady : call.Steady s (shape.lengths.drop call.indexes.length)
      (rank shape.lengths call.indexes))
    (noExcess : call.value.excess? (shape.lengths.drop call.indexes.length) = none) :
    let lengths := shape.lengths.drop call.indexes.length
    ∃ n s', n ≤ volume lengths ∧ (∀ k < n, call.obstacle? s lengths k = none) ∧
      call.FilledUpTo s lengths (rank shape.lengths call.indexes) n s' ∧
      (n = volume lengths ∧ call.act s = .ok () s' ∨
        n < volume lengths ∧ ∃ fault, call.obstacle? s lengths n = some fault ∧
          call.act s = .error fault s') := by
  intro lengths
  rw [call.act_of_short array fit short, assignRegion_eq, noExcess]
  simp only
  rw [zipIdx_tuples, ← round]
  exact (FilledUpTo.zero call s lengths (rank shape.lengths call.indexes)).loop array fit short
    steady rfl (fun k below => (Nat.not_lt_zero k below).elim) (volume lengths)
    (Nat.zero_add _)

/-- **The assignment of a region.**  A sequence with more values than the region has cells is
refused, and nothing changes.  Any other right side that reads no cell is assigned up to the first
position with an obstacle, or to all positions if there is none.  The cells before it hold their
values and are marked; nothing else has changed.  The call succeeds if the whole region was
assigned, and otherwise fails with the fault that the obstacle makes. -/
theorem act_region (call : Assignment) {s : Bound Memory} {shape : Shape}
    (array : s.binding.shape = some shape) (fit : shape.accepts call.indexes = true)
    (short : call.indexes.length < shape.dim) (viewless : call.value.AllViews fun _ => False) :
    let lengths := shape.lengths.drop call.indexes.length
    match call.value.excess? lengths with
    | some count =>
      call.act s =
        .error (.typeMismatch (.sequenceTooLong count s.binding.name call.indexes lengths)) s
    | none =>
      ∃ n s', n ≤ volume lengths ∧ (∀ k < n, call.obstacle? s lengths k = none) ∧
        call.FilledUpTo s lengths (rank shape.lengths call.indexes) n s' ∧
        (∀ k < n, ∃ content, call.source s lengths k = .ok content ∧
          s'.binding.read s'.store (call.indexes ++ tupleAt lengths k) = .ok content ∧
          s'.binding.isMarked (hasRows s'.store) (call.indexes ++ tupleAt lengths k) = true) ∧
        (n = volume lengths ∧ call.act s = .ok () s' ∨
          n < volume lengths ∧ ∃ fault, call.obstacle? s lengths n = some fault ∧
            call.act s = .error fault s') := by
  intro lengths
  cases excess : call.value.excess? lengths with
  | some count =>
    have longer : call.value.excess? (shape.lengths.drop call.indexes.length) = some count := excess
    rw [call.act_of_short array fit short, assignRegion_eq, longer]
  | none =>
    have steady := call.steady_of_viewless s lengths (rank shape.lengths call.indexes) viewless
    obtain ⟨n, s', le, clear, filled, outcome⟩ := call.act_fills array fit short steady excess
    exact ⟨n, s', le, clear, filled, fun k below => filled.read array fit rfl le below, outcome⟩

/-- The second row of a constant table of two rows and three columns is assigned from a list.  Its
middle cell was written before, so the first cell alone gets its value. -/
theorem act_region_stops :
    let table : Binding :=
      { name := "k", typeName := "int", shape := some (.fresh [2, 3]), base := ⟨4⟩,
        flags := { constant := true } }
    let earlier : Assignment := { value := .single (.number 9), indexes := [1, 1] }
    let s := earlier.after (⟨table, { next := 10 }⟩ : Bound Memory)
    let list := Operand.list [.int 5, .group (.int 6), .int 7]
    let call : Assignment := { value := .indexable list, indexes := [1] }
    ∃ s', call.FilledUpTo s [3] 3 1 s' ∧
      call.act s = .error (.constViolation "k" [1, 1]) s' := by
  intro table earlier s list call
  obtain ⟨shape, array, lengths⟩ : ∃ shape, s.binding.shape = some shape ∧ shape.lengths = [2, 3] :=
    ⟨_, rfl, rfl⟩
  have fit : shape.accepts call.indexes = true := by
    rw [Shape.accepts, lengths]
    rfl
  have short : call.indexes.length < shape.dim := by
    rw [Shape.dim, lengths]
    decide
  have viewless : call.value.AllViews fun _ => False := ⟨trivial, trivial, trivial, trivial⟩
  have region := act_region call array fit short viewless
  rw [lengths] at region
  obtain ⟨n, s', le, clear, filled, -, outcome⟩ := region
  have free : call.obstacle? s [3] 0 = none := by decide
  have obstacle : call.obstacle? s [3] 1 = some (.constViolation "k" [1, 1]) := by decide
  have reached : n ≤ 1 := by
    rcases Nat.lt_or_ge 1 n with beyond | reached
    · have passed : call.obstacle? s [3] 1 = none := clear 1 beyond
      rw [obstacle] at passed
      cases passed
    · exact reached
  rcases outcome with ⟨all, -⟩ | ⟨-, fault, stopped, failed⟩
  · have three : n = 3 := all
    omega
  · rcases Nat.le_one_iff_eq_zero_or_eq_one.mp reached with rfl | rfl
    · have stopped : call.obstacle? s [3] 0 = some fault := stopped
      rw [free] at stopped
      cases stopped
    · have stopped : call.obstacle? s [3] 1 = some fault := stopped
      rw [obstacle] at stopped
      rw [← Option.some.inj stopped] at failed
      exact ⟨s', filled, failed⟩

end Assignment

end ArrayCells
