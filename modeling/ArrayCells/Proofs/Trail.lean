import ArrayCells.Proofs.Writing

/-!
# An assignment is a trail of single writes

Whatever is assigned, and whether it succeeds, fails at once or fails midway, the state changes one
cell or row at a time.  A `WriteStep` is one such change with all that the code checks for it: the
tuple selects the address, nothing forbids the write, the store takes the contents, and the address
is recorded unless it was before.  A `Trail` is a sequence of them.

* `Binding.refusal?`, `assignOne_of_refused`, `assignOne_of_allowed`: what a write to one tuple is
  refused for, and what is written if it is not;
* `assignOne_cases`: writing to one tuple fails and changes nothing, or is one step;
* `assign_trail`: every assignment leaves a trail;
* `Trail.cleared`, `Trail.hasRows`, `Trail.next`: nothing but the record and the contents changes
  along a trail.

Invariants of writes are therefore proved of a single step and carried along a trail by induction.
The store can be any that does not change its mind about rows.
-/

namespace ArrayCells

/-! ### Refusals -/

namespace Binding

/-- The fault with which a write to one tuple is refused: what is recorded is not written again if
the write has to be the first one or the binding is a constant. -/
def refusal? (b : Binding) (hasRows : Bool) (t : List Int) (forced : Bool) : Option Fault :=
  if b.isMarked hasRows t = true then
    if forced = true then some (b.doubleInitialization t)
    else if b.isConstant = true then some (.constViolation b.name t)
    else none
  else none

theorem refusal?_eq_none_iff {b : Binding} {hasRows forced : Bool} {t : List Int} :
    b.refusal? hasRows t forced = none ↔
      (b.isMarked hasRows t = true → forced = false ∧ b.isConstant = false) := by
  unfold refusal?
  cases b.isMarked hasRows t <;> cases forced <;> cases b.isConstant <;> simp

/-- A refusal depends on the record only through the mark of the tuple. -/
theorem refusal?_congr {b b' : Binding} {hasRows : Bool} {t : List Int}
    (same : b'.cleared = b.cleared) (marked : b'.isMarked hasRows t = b.isMarked hasRows t)
    (forced : Bool) : b'.refusal? hasRows t forced = b.refusal? hasRows t forced := by
  rw [refusal?, refusal?, marked, doubleInitialization, doubleInitialization, name_congr same,
    isConstant_congr same]

/-- The fault of a refused write tells of an earlier one. -/
theorem kind_of_refusal {b : Binding} {hasRows forced : Bool} {t : List Int} {fault : Fault}
    (refused : b.refusal? hasRows t forced = some fault) :
    fault.kind = .doubleInitialization ∨ fault.kind = .constViolation := by
  rw [refusal?] at refused
  split at refused
  · split at refused
    · cases refused
      exact .inl rfl
    · split at refused
      · cases refused
        exact .inr rfl
      · cases refused
  · cases refused

end Binding

namespace Bound

open CellStore Writing

variable {σ : Type} [CellStore σ]

/-- One cell or row is written through a tuple that selects it.  `forced` tells that the write has
to be the first one. -/
structure WriteStep (forced : Bool) (s : Bound σ) (t : List Int) (a : Address) (content : Content)
    (s' : Bound σ) : Prop where
  selects : s.binding.Selects (hasRows s.store) t a
  allowed : s.binding.isMarked (hasRows s.store) t = true →
    forced = false ∧ s.binding.isConstant = false
  stored : writeAt s.store content a = .ok s'.store
  marked : (if s.binding.isMarked (hasRows s.store) t = true then .ok s.binding
    else s.binding.mark (hasRows s.store) t) = .ok s'.binding

namespace WriteStep

variable {forced : Bool} {s s' : Bound σ} {t : List Int} {a : Address} {content : Content}

theorem hasRows [SteadyRows σ] (h : WriteStep forced s t a content s') :
    hasRows s'.store = hasRows s.store :=
  hasRows_writeAt h.stored

theorem cleared (h : WriteStep forced s t a content s') :
    s'.binding.cleared = s.binding.cleared := by
  have marked := h.marked
  split at marked
  · rw [Except.ok.inj marked]
  · exact Binding.cleared_mark marked

/-- After the step its own address is recorded, in addition to what was. -/
theorem recorded (h : WriteStep forced s t a content s') (a' : Address) :
    s'.binding.recorded a' = (s.binding.recorded a' || decide (a' = a)) := by
  have marked := h.marked
  split at marked
  · rename_i was
    rw [h.selects.isMarked_eq] at was
    rw [← Except.ok.inj marked]
    by_cases same : a' = a
    · rw [same, was, Bool.true_or]
    · rw [decide_eq_false same, Bool.or_false]
  · exact h.selects.recorded_mark marked a'

end WriteStep

/-- The second state comes from the first by the listed writes, in their order. -/
inductive Trail (forced : Bool) : Bound σ → List (Address × Content) → Bound σ → Prop
  | nil (s : Bound σ) : Trail forced s [] s
  | cons {s s₁ s₂ : Bound σ} {t : List Int} {a : Address} {content : Content}
      {writes : List (Address × Content)} (first : WriteStep forced s t a content s₁)
      (rest : Trail forced s₁ writes s₂) : Trail forced s ((a, content) :: writes) s₂

namespace Trail

variable {forced : Bool} {s s₁ s₂ : Bound σ} {writes writes' : List (Address × Content)}

theorem append (h : Trail forced s writes s₁) (h' : Trail forced s₁ writes' s₂) :
    Trail forced s (writes ++ writes') s₂ := by
  induction h with
  | nil => exact h'
  | cons first rest ih => exact .cons first (ih h')

theorem hasRows [SteadyRows σ] (h : Trail forced s writes s₁) :
    hasRows s₁.store = hasRows s.store := by
  induction h with
  | nil => rfl
  | cons first rest ih => rw [ih, first.hasRows]

theorem cleared (h : Trail forced s writes s₁) : s₁.binding.cleared = s.binding.cleared := by
  induction h with
  | nil => rfl
  | cons first rest ih => rw [ih, first.cleared]

/-- All that is written is selected by the binding as it is in the first state. -/
theorem selects [SteadyRows σ] (h : Trail forced s writes s₁) {a : Address}
    (written : a ∈ writes.map Prod.fst) :
    ∃ t, s.binding.Selects (CellStore.hasRows s.store) t a := by
  induction h with
  | nil => cases written
  | cons first rest ih =>
    rcases List.mem_cons.mp written with rfl | later
    · exact ⟨_, first.selects⟩
    · obtain ⟨t, ht⟩ := ih later
      rw [first.hasRows] at ht
      exact ⟨t, ht.congr first.cleared.symm⟩

theorem next {s s' : Bound Memory} (h : Trail forced s writes s') :
    s'.store.next = s.store.next := by
  induction h with
  | nil => rfl
  | cons first rest ih => rw [ih, Memory.next_writeAt first.stored]

end Trail

/-! ### Writing to one tuple -/

/-- Putting contents somewhere fails and changes nothing, or writes the selected address. -/
theorem put_cases (content : Content) {t : List Int} {s : Bound σ}
    (closed : s.binding.Closed (hasRows s.store) t) :
    (∃ e, put content t s = .error e s) ∨
      ∃ target store, put content t s = .ok () ⟨s.binding, store⟩ ∧
        s.binding.target (hasRows s.store) t = .ok target ∧
        s.binding.Selects (hasRows s.store) t target.address ∧
        writeAt s.store content target.address = .ok store := by
  rw [put_eq]
  cases ht : s.binding.target (hasRows s.store) t with
  | error e => exact .inl ⟨e, rfl⟩
  | ok target =>
    have selects := Binding.selects_of_target closed ht
    cases hw : writeAt s.store content target.address with
    | error e => exact .inl ⟨e, by simp only [hw]⟩
    | ok store => exact .inr ⟨target, store, by simp only [hw], rfl, selects, hw⟩

theorem assignOne_of_refused {content : Content} {t : List Int} {ctx : Context} {s : Bound σ}
    {fault : Fault}
    (h : s.binding.refusal? (hasRows s.store) t ctx.forceInit = some fault) :
    assignOne content t ctx s = .error fault s := by
  rw [Binding.refusal?] at h
  rw [assignOne_eq]
  split at h
  · rename_i marked
    rw [if_pos marked]
    split at h
    · rename_i forced
      rw [if_pos forced, Option.some.inj h]
    · rename_i unforced
      rw [if_neg unforced]
      split at h
      · rename_i constant
        rw [if_pos constant, Option.some.inj h]
      · cases h
  · cases h

/-- What is not refused fails if the contents cannot be put there, and says why. -/
theorem assignOne_of_put_error {content : Content} {t : List Int} {ctx : Context} {s : Bound σ}
    {fault : Fault} (allowed : s.binding.refusal? (hasRows s.store) t ctx.forceInit = none)
    (failed : put content t s = .error fault s) : assignOne content t ctx s = .error fault s := by
  rw [assignOne_eq]
  cases marked : s.binding.isMarked (hasRows s.store) t with
  | false => rw [if_neg Bool.false_ne_true, failed]
  | true =>
    obtain ⟨unforced, changeable⟩ := Binding.refusal?_eq_none_iff.mp allowed marked
    rw [if_pos rfl, unforced, changeable, if_neg Bool.false_ne_true,
      if_neg Bool.false_ne_true, failed]

/-- **What is not refused is written** if the store takes it. -/
theorem assignOne_of_allowed [SteadyRows σ] (content : Content) (ctx : Context) {s : Bound σ}
    {t : List Int} {a : Address} {store : σ}
    (selects : s.binding.Selects (hasRows s.store) t a)
    (allowed : s.binding.refusal? (hasRows s.store) t ctx.forceInit = none)
    (stored : writeAt s.store content a = .ok store) :
    ∃ s', assignOne content t ctx s = .ok () s' ∧
      WriteStep ctx.forceInit s t a content s' := by
  rw [Binding.refusal?_eq_none_iff] at allowed
  obtain ⟨target, ht, rfl⟩ := selects.target
  have written : put content t s = .ok () ⟨s.binding, store⟩ := by
    simp only [put_eq, ht, stored]
  rw [assignOne_eq]
  cases marked : s.binding.isMarked (hasRows s.store) t with
  | false =>
    obtain ⟨b, hb⟩ := Binding.exists_mark ht marked
    refine ⟨⟨b, store⟩, ?_, selects, allowed, stored, ?_⟩
    · rw [if_neg Bool.false_ne_true]
      simp only [written, mark_eq, hasRows_writeAt stored, hb]
    · rw [marked, if_neg Bool.false_ne_true]
      exact hb
  | true =>
    obtain ⟨unforced, changeable⟩ := allowed marked
    refine ⟨⟨s.binding, store⟩, ?_, selects, allowed, stored, ?_⟩
    · rw [if_pos rfl, unforced, changeable, if_neg Bool.false_ne_true,
        if_neg Bool.false_ne_true, written]
    · rw [if_pos marked]

/-- **A write to one tuple fails and changes nothing, or is a single step.**  The mark that follows
the write cannot fail any more, since the tuple led somewhere and was not marked. -/
theorem assignOne_cases [SteadyRows σ] (content : Content) {t : List Int} (ctx : Context)
    {s : Bound σ} (closed : s.binding.Closed (hasRows s.store) t) :
    (∃ e, assignOne content t ctx s = .error e s) ∨
      ∃ a s', assignOne content t ctx s = .ok () s' ∧
        WriteStep ctx.forceInit s t a content s' := by
  cases refusal : s.binding.refusal? (hasRows s.store) t ctx.forceInit with
  | some fault => exact .inl ⟨fault, assignOne_of_refused refusal⟩
  | none =>
    rcases put_cases content closed with ⟨e, failed⟩ | ⟨target, store, -, -, selects, hw⟩
    · exact .inl ⟨e, assignOne_of_put_error refusal failed⟩
    · obtain ⟨s', written, step⟩ := assignOne_of_allowed content ctx selects refusal hw
      exact .inr ⟨target.address, s', written, step⟩

theorem assignOne_trail [SteadyRows σ] (content : Content) {t : List Int} (ctx : Context)
    {s : Bound σ} (closed : s.binding.Closed (hasRows s.store) t) :
    ∃ writes, Trail ctx.forceInit s writes (after (assignOne content t ctx) s) := by
  rcases assignOne_cases content ctx closed with ⟨e, failed⟩ | ⟨a, s', written, step⟩
  · refine ⟨[], ?_⟩
    rw [after, failed]
    exact .nil s
  · refine ⟨[(a, content)], ?_⟩
    rw [after, written]
    exact .cons step (.nil s')

/-! ### Loops -/

/-- A loop leaves a trail if each of its rounds does, from every state that differs from the first
one only in contents and record. -/
theorem forM_trail [SteadyRows σ] {β : Type} {forced : Bool} (round : β → Writing σ Unit)
    (items : List β) (s : Bound σ)
    (each : ∀ x ∈ items, ∀ s', s'.binding.cleared = s.binding.cleared →
      hasRows s'.store = hasRows s.store → ∃ writes, Trail forced s' writes (after (round x) s')) :
    ∃ writes, Trail forced s writes (after (items.forM round) s) := by
  induction items generalizing s with
  | nil => exact ⟨[], .nil s⟩
  | cons x items ih =>
    obtain ⟨here, first⟩ := each x List.mem_cons_self s rfl rfl
    rw [after] at first
    rw [after, forM_cons_apply]
    cases outcome : round x s with
    | error e s' =>
      rw [outcome] at first
      exact ⟨here, first⟩
    | ok _ s' =>
      rw [outcome] at first
      obtain ⟨later, rest⟩ := ih s' fun y hy s'' cleared rows =>
        each y (List.mem_cons_of_mem x hy) s'' (cleared.trans first.cleared)
          (rows.trans first.hasRows)
      exact ⟨here ++ later, first.append rest⟩

/-! ### Assignments -/

theorem closed_of_opened {b : Binding} {hasRows : Bool} {t : List Int}
    (h : b.opened hasRows t = .ok none) : b.Closed hasRows t := by
  intro shape hs
  simp only [Binding.opened, hs] at h
  split at h
  · rename_i single
    rw [Bool.or_eq_true, Shape.isFull_iff] at single
    exact single.symm
  · split at h <;> cases h

theorem opened_some {b : Binding} {hasRows : Bool} {t : List Int} {lengths : List Nat}
    (h : b.opened hasRows t = .ok (some lengths)) :
    ∃ shape, b.shape = some shape ∧ shape.accepts t = true ∧ t.length < shape.dim ∧
      lengths = shape.lengths.drop t.length := by
  cases hs : b.shape with
  | none => simp only [Binding.opened, hs] at h; cases h
  | some shape =>
    simp only [Binding.opened, hs] at h
    split at h
    · cases h
    · rename_i single
      rw [Bool.or_eq_true, not_or, Shape.isFull_iff] at single
      split at h
      · rename_i fit
        have within : t.length ≤ shape.dim := length_le_of_fits fit
        exact ⟨shape, rfl, fit, by omega, (Option.some.inj (Except.ok.inj h)).symm⟩
      · cases h

/-- **Every assignment leaves a trail.**  A tuple that addresses one cell or row is written in at
most one step; a region is written cell by cell, each through a full tuple. -/
theorem assign_trail [SteadyRows σ] (value : RightSide) (t : List Int) (ctx : Context)
    (s : Bound σ) : ∃ writes, Trail ctx.forceInit s writes (after (assign value t ctx) s) := by
  have unchanged : ∃ writes, Trail ctx.forceInit s writes s := ⟨[], .nil s⟩
  rw [after, assign_eq]
  cases opened : s.binding.opened (hasRows s.store) t with
  | error e => exact unchanged
  | ok answer =>
    cases answer with
    | none =>
      cases value.asSingle s.binding.name with
      | error e => exact unchanged
      | ok content => exact assignOne_trail content ctx (closed_of_opened opened)
    | some lengths =>
      simp only [assignRegion_eq]
      cases value.excess? lengths with
      | some count => exact unchanged
      | none =>
        obtain ⟨shape, hs, fit, short, rfl⟩ := opened_some opened
        refine forM_trail (assignCell value t _ ctx) _ s fun cell hcell s' cleared rows => ?_
        rw [after, assignCell_eq]
        cases value.element s'.store s'.binding.name t _ cell.2 cell.1 with
        | error e => exact ⟨[], .nil s'⟩
        | ok content =>
          have member := (List.mem_zipIdx' hcell).2
          have full : (t ++ cell.1).length = shape.dim := by
            have rest := (fits_of_mem_tuples (List.mem_of_getElem member.symm)).2
            rw [List.length_append, rest, List.length_drop]
            show t.length + (shape.dim - t.length) = shape.dim
            omega
          have closed : s.binding.Closed (hasRows s.store) (t ++ cell.1) := by
            intro shape' hs'
            rw [hs] at hs'
            cases hs'
            exact .inl full
          refine assignOne_trail content ctx ?_
          rw [rows]
          exact closed.congr cleared

end Bound

end ArrayCells
