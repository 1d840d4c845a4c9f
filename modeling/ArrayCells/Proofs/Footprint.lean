import ArrayCells.Proofs.Initialization
import ArrayCells.Proofs.RegionAssignment

/-!
# What an assignment depends on and what it writes

An assignment whose source reads no cell looks at little of the state: at the tuple, and at the
record of the cells and rows that the tuple targets.  These are also the only ones that it writes.
From two states of one binding that agree in this record, it therefore does the same, step by step,
up to the end or to the same fault.

* `Binding.Targets`: the cells and rows below a tuple; `Selects.targets_iff` says which they are for
  a tuple that selects something, and `targets_iff_of_short` for one that opens a region;
* `Bound.AgreeWithin`: two states of one binding with the same record of a set of addresses;
* `EndsAlongside`: two runs that made the same writes, none outside of the set, and ended alike;
* `assignOne_alongside`, `assignCell_alongside`, `forM_alongside`: so run writes to one tuple, rounds
  of the assignment of a region, and loops if their rounds do, from states that agree;
* `Assignment.alongside`: so does every call whose tuple leads somewhere.
-/

namespace ArrayCells

open CellStore ArrayCells.Bound

/-! ### The cells and rows below a tuple -/

namespace Binding

variable {b b' : Binding} {hasRows : Bool} {t : List Int} {a : Address}

/-- What a write through the tuple targets: the cell or row that the tuple selects, and the cells
that are selected by the tuples which begin with it. -/
def Targets (b : Binding) (hasRows : Bool) (t : List Int) (a : Address) : Prop :=
  b.Selects hasRows t a ∨ ∃ rest c, a = .cell c ∧ b.Selects hasRows (t ++ rest) (.cell c)

/-- The number of indexes of a cell. -/
def dim (b : Binding) : Nat :=
  match b.shape with
  | some shape => shape.dim
  | none => 0

theorem Selects.length_cell {c : CellId} (h : b.Selects hasRows t (.cell c)) :
    t.length = b.dim := by
  cases h with
  | scalar scalar =>
    rw [dim, scalar]
    rfl
  | element array fit full => rw [dim, array, full]

theorem Selects.length_row {id : RowId} (h : b.Selects hasRows t (.row id)) :
    t.length = b.dim + 1 := by
  cases h with
  | scalarRow scalar rows =>
    rw [dim, scalar]
    rfl
  | elementRow array fit full rows =>
    rw [dim, array, List.length_append, full, List.length_singleton]

/-- **A tuple that selects something targets nothing else.** -/
theorem Selects.targets_iff (h : b.Selects hasRows t a) {a' : Address} :
    b.Targets hasRows t a' ↔ a' = a := by
  constructor
  · rintro (selects | ⟨rest, c, rfl, selects⟩)
    · exact selects.functional h
    · have length := selects.length_cell
      rw [List.length_append] at length
      cases a with
      | row id =>
        have longer := h.length_row
        omega
      | cell c' =>
        have full := h.length_cell
        have none : rest = [] := List.eq_nil_of_length_eq_zero (by omega)
        rw [none, List.append_nil] at selects
        exact selects.functional h
  · rintro rfl
    exact .inl h

/-- **A tuple that opens a region targets its cells**, which lie one behind the other. -/
theorem targets_iff_of_short {shape : Shape} (array : b.shape = some shape)
    (fit : shape.accepts t = true) (short : t.length < shape.dim) :
    b.Targets hasRows t a ↔
      ∃ k < volume (shape.lengths.drop t.length),
        a = .cell (b.base.advance (rank shape.lengths t + k)) := by
  constructor
  · rintro (selects | ⟨rest, c, rfl, selects⟩)
    · have ofArray : b.dim = shape.dim := by rw [dim, array]
      cases a with
      | cell c =>
        have length := selects.length_cell
        omega
      | row id =>
        have length := selects.length_row
        omega
    · generalize parts : t ++ rest = whole at selects
      cases selects with
      | scalar scalar =>
        rw [array] at scalar
        cases scalar
      | element array' fit' full =>
        rw [array] at array'
        cases array'
        subst parts
        rw [Shape.accepts, fits_append, Bool.and_eq_true] at fit'
        have length : rest.length = (shape.lengths.drop t.length).length := by
          rw [List.length_append, Shape.dim] at full
          rw [List.length_drop]
          omega
        exact ⟨_, rank_lt_volume fit'.2 length, by rw [rank_append]⟩
  · rintro ⟨k, below, rfl⟩
    exact .inr ⟨_, _, rfl, selects_region array fit hasRows below⟩

/-- What a tuple opens does not depend on the record. -/
theorem opened_congr (same : b'.cleared = b.cleared) (hasRows : Bool) (t : List Int) :
    b'.opened hasRows t = b.opened hasRows t := by
  have ofCleared (b : Binding) : b.cleared.opened hasRows t = b.opened hasRows t := by
    rcases b with ⟨name, typeName, isAlias, shape, base, scope, whole, rows, flags⟩
    cases shape <;> rfl
  rw [← ofCleared b', same, ofCleared]

/-- A store in memory takes contents at all addresses that a tuple can select over it. -/
theorem Selects.exists_writeAt {memory : Memory} (h : b.Selects (CellStore.hasRows memory) t a)
    (content : Content) : ∃ after, writeAt memory content a = .ok after := by
  cases a with
  | cell c => exact ⟨_, rfl⟩
  | row id =>
    have packs : memory.packsRows = true := by
      cases h <;> assumption
    exact ⟨_, Memory.writeRow_of_packsRows packs id.cell id.row content⟩

end Binding

/-! ### Side by side -/

namespace Writing

/-- What an action gives or fails with, apart from the state that it leaves. -/
def answer {σ α : Type} (act : Writing σ α) (s : Bound σ) : Except Fault α :=
  match act s with
  | .ok x _ => .ok x
  | .error fault _ => .error fault

end Writing

namespace Bound

/-- Two states of one binding, over stores with or without rows, that have recorded the same of the
addresses in a region. -/
structure AgreeWithin (b : Binding) (rows : Bool) (region : Address → Prop) (s s' : Bound Memory) :
    Prop where
  cleared : s.binding.cleared = b.cleared
  cleared' : s'.binding.cleared = b.cleared
  hasRows : hasRows s.store = rows
  hasRows' : CellStore.hasRows s'.store = rows
  recorded : ∀ a, region a → s'.binding.recorded a = s.binding.recorded a

/-- The same writes, all of them in the region, lead from two states to two others. -/
def SameWrites (region : Address → Prop) (forced : Bool) (s s' s₁ s₁' : Bound Memory) : Prop :=
  ∃ writes, (∀ a ∈ writes.map Prod.fst, region a) ∧ Trail forced s writes s₁ ∧
    Trail forced s' writes s₁'

/-- Two runs that began in the first two states have made the same writes and ended alike. -/
inductive EndsAlongside (region : Address → Prop) (forced : Bool) (s s' : Bound Memory) :
    EStateM.Result Fault (Bound Memory) Unit → EStateM.Result Fault (Bound Memory) Unit → Prop
  | ok {s₁ s₁' : Bound Memory} (writes : SameWrites region forced s s' s₁ s₁') :
      EndsAlongside region forced s s' (.ok () s₁) (.ok () s₁')
  | error (fault : Fault) {s₁ s₁' : Bound Memory} (writes : SameWrites region forced s s' s₁ s₁') :
      EndsAlongside region forced s s' (.error fault s₁) (.error fault s₁')

section

variable {b : Binding} {rows forced : Bool} {region : Address → Prop}
  {s s' s₁ s₁' s₂ s₂' : Bound Memory}

namespace SameWrites

theorem refl (region : Address → Prop) (forced : Bool) (s s' : Bound Memory) :
    SameWrites region forced s s' s s' :=
  ⟨[], fun _ member => (List.not_mem_nil member).elim, .nil s, .nil s'⟩

theorem single {t : List Int} {a : Address} {content : Content} (inside : region a)
    (step : WriteStep forced s t a content s₁) (step' : WriteStep forced s' t a content s₁') :
    SameWrites region forced s s' s₁ s₁' := by
  refine ⟨[(a, content)], fun a' member => ?_, .cons step (.nil s₁), .cons step' (.nil s₁')⟩
  rw [List.mem_singleton.mp member]
  exact inside

theorem trans (h : SameWrites region forced s s' s₁ s₁')
    (h' : SameWrites region forced s₁ s₁' s₂ s₂') : SameWrites region forced s s' s₂ s₂' := by
  obtain ⟨writes, within, trail, trail'⟩ := h
  obtain ⟨later, withinLater, further, further'⟩ := h'
  refine ⟨writes ++ later, fun a member => ?_, trail.append further, trail'.append further'⟩
  rw [List.map_append, List.mem_append] at member
  exact member.elim (within a) (withinLater a)

/-- States that agree still do so after the same writes. -/
theorem agree (h : SameWrites region forced s s' s₁ s₁') (before : AgreeWithin b rows region s s') :
    AgreeWithin b rows region s₁ s₁' := by
  obtain ⟨writes, -, trail, trail'⟩ := h
  exact {
    cleared := trail.cleared.trans before.cleared
    cleared' := trail'.cleared.trans before.cleared'
    hasRows := trail.hasRows.trans before.hasRows
    hasRows' := trail'.hasRows.trans before.hasRows'
    recorded := fun a inside => by
      rw [Bool.eq_iff_iff, trail.recorded_iff, trail'.recorded_iff, before.recorded a inside] }

end SameWrites

namespace EndsAlongside

theorem after_of_writes {o o' : EStateM.Result Fault (Bound Memory) Unit}
    (h : SameWrites region forced s s' s₁ s₁') (ended : EndsAlongside region forced s₁ s₁' o o') :
    EndsAlongside region forced s s' o o' := by
  cases ended with
  | ok writes => exact .ok (h.trans writes)
  | error fault writes => exact .error fault (h.trans writes)

variable {act : Writing Memory Unit}

theorem answer_eq (h : EndsAlongside region forced s s' (act s) (act s')) :
    Writing.answer act s' = Writing.answer act s := by
  rw [Writing.answer, Writing.answer]
  generalize act s = o at h ⊢
  generalize act s' = o' at h ⊢
  cases h <;> rfl

theorem sameWrites (h : EndsAlongside region forced s s' (act s) (act s')) :
    SameWrites region forced s s' (Writing.after act s) (Writing.after act s') := by
  rw [Writing.after, Writing.after]
  generalize act s = o at h ⊢
  generalize act s' = o' at h ⊢
  cases h <;> assumption

end EndsAlongside

/-- **A write to one tuple** looks at the record of the address that the tuple selects, and at no
other. -/
theorem assignOne_alongside (h : AgreeWithin b rows region s s') (content : Content)
    (ctx : Context) {t : List Int} {a : Address} (selects : b.Selects rows t a)
    (inside : region a) :
    EndsAlongside region ctx.forceInit s s' (assignOne content t ctx s)
      (assignOne content t ctx s') := by
  have left : s.binding.Selects (hasRows s.store) t a := by
    rw [h.hasRows]
    exact selects.congr h.cleared
  have right : s'.binding.Selects (hasRows s'.store) t a := by
    rw [h.hasRows']
    exact selects.congr h.cleared'
  have marked : s'.binding.isMarked (hasRows s'.store) t =
      s.binding.isMarked (hasRows s.store) t := by
    rw [left.isMarked_eq, right.isMarked_eq, h.recorded a inside]
  have same : s'.binding.refusal? (hasRows s'.store) t ctx.forceInit =
      s.binding.refusal? (hasRows s.store) t ctx.forceInit := by
    rw [h.hasRows, h.hasRows'] at marked ⊢
    exact Binding.refusal?_congr (h.cleared'.trans h.cleared.symm) marked ctx.forceInit
  cases refusal : s.binding.refusal? (hasRows s.store) t ctx.forceInit with
  | some fault =>
    rw [assignOne_of_refused refusal, assignOne_of_refused (same.trans refusal)]
    exact .error fault (.refl region _ s s')
  | none =>
    obtain ⟨store, stored⟩ := left.exists_writeAt content
    obtain ⟨store', stored'⟩ := right.exists_writeAt content
    obtain ⟨s₁, done, step⟩ := assignOne_of_allowed content ctx left refusal stored
    obtain ⟨s₁', done', step'⟩ :=
      assignOne_of_allowed content ctx right (same.trans refusal) stored'
    rw [done, done']
    exact .ok (.single inside step step')

/-- **A round of the assignment of a region** does so too, if its source reads no cell. -/
theorem assignCell_alongside (h : AgreeWithin b rows region s s') {value : RightSide}
    (viewless : value.AllViews fun _ => False) (ctx : Context) {shape : Shape} {t : List Int}
    {k : Nat} (array : b.shape = some shape) (fit : shape.accepts t = true)
    (below : k < volume (shape.lengths.drop t.length))
    (inside : region (.cell (b.base.advance (rank shape.lengths t + k)))) :
    let lengths := shape.lengths.drop t.length
    EndsAlongside region ctx.forceInit s s'
      (assignCell value t lengths ctx (tupleAt lengths k, k) s)
      (assignCell value t lengths ctx (tupleAt lengths k, k) s') := by
  intro lengths
  have selects := Binding.selects_region array fit rows below
  rw [assignCell_eq, assignCell_eq, Binding.name_congr (h.cleared'.trans h.cleared.symm),
    RightSide.element_of_viewless viewless s'.store s.store]
  cases value.element s.store s.binding.name t lengths k (tupleAt lengths k) with
  | error fault => exact .error fault (.refl region _ s s')
  | ok content => exact assignOne_alongside h content ctx selects inside

/-- **A loop** runs alike from two states if each of its rounds does, from any states that agree. -/
theorem forM_alongside {β : Type} {round : β → Writing Memory Unit} {items : List β}
    (each : ∀ x ∈ items, ∀ s s', AgreeWithin b rows region s s' →
      EndsAlongside region forced s s' (round x s) (round x s'))
    (h : AgreeWithin b rows region s s') :
    EndsAlongside region forced s s' (items.forM round s) (items.forM round s') := by
  induction items generalizing s s' with
  | nil => exact .ok (.refl region forced s s')
  | cons x items ih =>
    have first := each x List.mem_cons_self s s' h
    rw [Writing.forM_cons_apply, Writing.forM_cons_apply]
    generalize round x s = o at first ⊢
    generalize round x s' = o' at first ⊢
    cases first with
    | error fault writes => exact .error fault writes
    | ok writes =>
      -- the two states are no longer the first ones, but still agree
      have rest := ih (fun y member => each y (List.mem_cons_of_mem x member)) (writes.agree h)
      exact .after_of_writes writes rest

end

end Bound

/-! ### Calls -/

namespace Assignment

variable {b : Binding} {rows : Bool} {s s' : Bound Memory}

/-- **A call runs alike from two states** that agree on all that its tuple targets, if its source
reads no cell and the tuple leads somewhere. -/
theorem alongside (call : Assignment) (viewless : call.value.AllViews fun _ => False)
    {target : Target} (leads : b.target rows call.indexes = .ok target)
    (h : AgreeWithin b rows (b.Targets rows call.indexes) s s') :
    EndsAlongside (b.Targets rows call.indexes) call.forced s s' (call.act s) (call.act s') := by
  have unchanged : SameWrites (b.Targets rows call.indexes) call.forced s s' s s' :=
    .refl _ call.forced s s'
  have name : s'.binding.name = s.binding.name :=
    Binding.name_congr (h.cleared'.trans h.cleared.symm)
  rw [act_eq, assign_eq, assign_eq, h.hasRows, h.hasRows', Binding.opened_congr h.cleared,
    Binding.opened_congr h.cleared', name]
  cases opened : b.opened rows call.indexes with
  | error fault => exact .error fault unchanged
  | ok answer =>
    cases answer with
    | none =>
      cases call.value.asSingle s.binding.name with
      | error fault => exact .error fault unchanged
      | ok content =>
        have selects := Binding.selects_of_target (closed_of_opened opened) leads
        exact assignOne_alongside h content { call.ctx with forceInit := call.forced } selects
          (.inl selects)
    | some lengths =>
      simp only [assignRegion_eq, name]
      cases call.value.excess? lengths with
      | some count => exact .error _ unchanged
      | none =>
        obtain ⟨shape, array, fit, short, rfl⟩ := opened_some opened
        refine forM_alongside (fun cell member s₁ s₁' agree => ?_) h
        rw [zipIdx_tuples, List.mem_map] at member
        obtain ⟨k, inRange, rfl⟩ := member
        rw [List.mem_range'_1, Nat.zero_add] at inRange
        have inside : b.Targets rows call.indexes _ :=
          (Binding.targets_iff_of_short array fit short).mpr ⟨k, inRange.2, rfl⟩
        exact assignCell_alongside agree viewless { call.ctx with forceInit := call.forced } array
          fit inRange.2 inside

end Assignment

end ArrayCells
