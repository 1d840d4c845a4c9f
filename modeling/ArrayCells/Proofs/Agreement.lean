import ArrayCells.Proofs.BareFaults

/-!
# Calculations and writes that end alike

Two calculations agree if both give related results or both fail with related faults.  Writes over
two stores agree if, besides, they leave the same binding and related stores.

* `Agree`: calculations that agree, and how they are joined;
* `EndsAgree`, `Lockstep`: writes that agree, and what two stores have to keep for it;
* `RightSide.Pairs`: right sides that give related contents;
* `Lockstep.assign`: assignments over such stores agree.

The relations are left open.  What they are depends on what the two sides differ in, such as the kind
of the store or the labels of operands.
-/

namespace ArrayCells

open CellStore

/-! ### Calculations -/

/-- Both calculations give related results, or both fail with related faults. -/
inductive Agree {α β : Type} (F : Fault → Fault → Prop) (R : α → β → Prop) :
    Except Fault α → Except Fault β → Prop
  | ok {a : α} {b : β} (h : R a b) : Agree F R (.ok a) (.ok b)
  | error {e e' : Fault} (h : F e e') : Agree F R (.error e) (.error e')

namespace Agree

variable {α β γ δ : Type} {F : Fault → Fault → Prop} {R : α → β → Prop} {S : γ → δ → Prop}

theorem bind {r : Except Fault α} {r' : Except Fault β} {next : α → Except Fault γ}
    {next' : β → Except Fault δ} (h : Agree F R r r')
    (each : ∀ a b, R a b → Agree F S (next a) (next' b)) :
    Agree F S (r >>= next) (r' >>= next') := by
  cases h with
  | ok related => exact each _ _ related
  | error faults => exact .error faults

theorem map {r : Except Fault α} {r' : Except Fault β} {f : α → γ} {g : β → δ}
    (h : Agree F R r r') (each : ∀ a b, R a b → S (f a) (g b)) :
    Agree F S (r.map f) (r'.map g) := by
  cases h with
  | ok related => exact .ok (each _ _ related)
  | error faults => exact .error faults

theorem mono {R' : α → β → Prop} {r : Except Fault α} {r' : Except Fault β} (h : Agree F R r r')
    (weaker : ∀ a b, R a b → R' a b) : Agree F R' r r' := by
  cases h with
  | ok related => exact .ok (weaker _ _ related)
  | error faults => exact .error faults

theorem refl (same : ∀ e, F e e) (r : Except Fault α) : Agree F Eq r r := by
  cases r with
  | ok a => exact .ok rfl
  | error e => exact .error (same e)

end Agree

/-! ### Writes -/

/-- Both actions succeed, or both fail with related faults; either way they leave the same binding,
and related stores. -/
inductive EndsAgree {σ τ : Type} (F : Fault → Fault → Prop) (R : σ → τ → Prop) :
    EStateM.Result Fault (Bound σ) Unit → EStateM.Result Fault (Bound τ) Unit → Prop
  | ok (b : Binding) {store : σ} {store' : τ} (h : R store store') :
      EndsAgree F R (.ok () ⟨b, store⟩) (.ok () ⟨b, store'⟩)
  | error {e e' : Fault} (faults : F e e') (b : Binding) {store : σ} {store' : τ}
      (h : R store store') : EndsAgree F R (.error e ⟨b, store⟩) (.error e' ⟨b, store'⟩)

/-- Over related stores, the right sides give related contents to each cell. -/
structure RightSide.Pairs {σ τ : Type} [CellStore σ] [CellStore τ] (F : Fault → Fault → Prop)
    (C : Content → Content → Prop) (R : σ → τ → Prop) (value value' : RightSide) : Prop where
  single : ∀ name, Agree F C (value.asSingle name) (value'.asSingle name)
  excess : ∀ lengths, value.excess? lengths = value'.excess? lengths
  element : ∀ {store store'}, R store store' → ∀ name t lengths position relative,
    Agree F C (value.element store name t lengths position relative)
      (value'.element store' name t lengths position relative)

/-- Related stores pack rows alike, and stay related when related contents are written to them.  The
faults that the library raises itself, which have no place, are related to themselves. -/
structure Lockstep {σ τ : Type} [CellStore σ] [CellStore τ] (F : Fault → Fault → Prop)
    (C : Content → Content → Prop) (R : σ → τ → Prop) : Prop where
  faults : ∀ e : Fault, e.Bare → F e e
  rows : ∀ {store store'}, R store store' → hasRows store = hasRows store'
  writes : ∀ {store store'}, R store store' → ∀ {content content'}, C content content' →
    ∀ a, Agree F R (writeAt store content a) (writeAt store' content' a)

namespace Lockstep

open ArrayCells.Bound

variable {σ τ : Type} [CellStore σ] [CellStore τ] {F : Fault → Fault → Prop}
  {C : Content → Content → Prop} {R : σ → τ → Prop} {store : σ} {store' : τ}
  {content content' : Content} {value value' : RightSide} {ctx ctx' : Context}

theorem put (step : Lockstep F C R) (h : R store store') (b : Binding) (same : C content content')
    (t : List Int) : EndsAgree F R (put content t ⟨b, store⟩) (put content' t ⟨b, store'⟩) := by
  simp only [put_eq, ← step.rows h]
  cases leads : b.target (hasRows store) t with
  | error e => exact .error (step.faults e (b.failsBare_target _ t e leads)) b h
  | ok target =>
    have written := step.writes h same target.address
    simp only
    generalize writeAt store content target.address = left at written ⊢
    generalize writeAt store' content' target.address = right at written ⊢
    cases written with
    | ok h' => exact .ok b h'
    | error faults => exact .error faults b h

theorem mark (step : Lockstep F C R) (h : R store store') (b : Binding) (t : List Int) :
    EndsAgree F R (mark t ⟨b, store⟩) (mark t ⟨b, store'⟩) := by
  simp only [mark_eq, ← step.rows h]
  cases marked : b.mark (hasRows store) t with
  | error e => exact .error (step.faults e (b.failsBare_mark _ t e marked)) b h
  | ok b' => exact .ok b' h

theorem assignOne (step : Lockstep F C R) (h : R store store') (b : Binding)
    (same : C content content') (t : List Int) (forced : ctx.forceInit = ctx'.forceInit) :
    EndsAgree F R (assignOne content t ctx ⟨b, store⟩)
      (assignOne content' t ctx' ⟨b, store'⟩) := by
  have written := step.put h b same t
  simp only [assignOne_eq, ← step.rows h, ← forced]
  -- The record decides what is refused, and both sides have the same one.
  split
  · split
    · exact .error (step.faults (b.doubleInitialization t) rfl) b h
    · split
      · exact .error (step.faults (.constViolation b.name t) rfl) b h
      · exact written
  · generalize Bound.put content t ⟨b, store⟩ = left at written ⊢
    generalize Bound.put content' t ⟨b, store'⟩ = right at written ⊢
    cases written with
    | ok b' h' => exact step.mark h' b' t
    | error faults b' h' => exact .error faults b' h'

theorem assignCell (step : Lockstep F C R) (h : R store store') (b : Binding)
    (pairs : value.Pairs F C R value') (t : List Int) (lengths : List Nat)
    (forced : ctx.forceInit = ctx'.forceInit) (cell : List Int × Nat) :
    EndsAgree F R (assignCell value t lengths ctx cell ⟨b, store⟩)
      (assignCell value' t lengths ctx' cell ⟨b, store'⟩) := by
  have given := pairs.element h b.name t lengths cell.2 cell.1
  simp only [assignCell_eq]
  generalize value.element store b.name t lengths cell.2 cell.1 = left at given ⊢
  generalize value'.element store' b.name t lengths cell.2 cell.1 = right at given ⊢
  cases given with
  | ok same => exact step.assignOne h b same (t ++ cell.1) forced
  | error faults => exact .error faults b h

omit [CellStore σ] [CellStore τ] in
/-- Loops agree if their rounds do. -/
theorem forM {ι : Type} {round : ι → Writing σ Unit} {round' : ι → Writing τ Unit}
    (each : ∀ i b {store store'}, R store store' →
      EndsAgree F R (round i ⟨b, store⟩) (round' i ⟨b, store'⟩))
    (items : List ι) (b : Binding) (h : R store store') :
    EndsAgree F R (items.forM round ⟨b, store⟩) (items.forM round' ⟨b, store'⟩) := by
  -- Each round may change the binding and both stores, in step.
  induction items generalizing b store store' with
  | nil => exact .ok b h
  | cons i items ih =>
    have first := each i b h
    rw [Writing.forM_cons_apply, Writing.forM_cons_apply]
    generalize round i ⟨b, store⟩ = left at first ⊢
    generalize round' i ⟨b, store'⟩ = right at first ⊢
    cases first with
    | ok b' h' => exact ih b' h'
    | error faults b' h' => exact .error faults b' h'

/-- **Assignments of related values agree**, in contexts that agree on whether the write has to be
the first one. -/
theorem assign (step : Lockstep F C R) (h : R store store') (b : Binding)
    (pairs : value.Pairs F C R value') (t : List Int) (forced : ctx.forceInit = ctx'.forceInit) :
    EndsAgree F R (assign value t ctx ⟨b, store⟩) (assign value' t ctx' ⟨b, store'⟩) := by
  simp only [assign_eq, ← step.rows h]
  cases opened : b.opened (hasRows store) t with
  | error e => exact .error (step.faults e (b.failsBare_opened _ t e opened)) b h
  | ok answer =>
    cases answer with
    | none =>
      have given := pairs.single b.name
      simp only
      generalize value.asSingle b.name = left at given ⊢
      generalize value'.asSingle b.name = right at given ⊢
      cases given with
      | ok same => exact step.assignOne h b same t forced
      | error faults => exact .error faults b h
    | some lengths =>
      simp only [assignRegion_eq, ← pairs.excess lengths]
      cases value.excess? lengths with
      | some count => exact .error (step.faults (.typeMismatch _) rfl) b h
      | none =>
        exact forM (fun cell b' _ _ h' => step.assignCell h' b' pairs t lengths forced cell) _ b h

end Lockstep

end ArrayCells
