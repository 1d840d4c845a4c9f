import ArrayCells.Proofs.Agreement
import ArrayCells.Proofs.Elements

/-!
# Stores that an assignment cannot tell apart

An assignment asks little of a store: whether it packs rows, what the views in the assigned value
read, and to take contents at an address.  A `Simulation` relates stores, perhaps of different
kinds, that answer alike and stay related.  Whatever is assigned, the two sides then end in the same
outcome, with the same record and in related stores.

* `RightSide.element_congr`: the values of a right side are read through its views;
* `Simulation.lockstep`, `Simulation.pairs`: on both sides the same is written, with the same faults;
* `Simulation.assign`: every assignment has the same outcome on both sides.
-/

namespace ArrayCells

open CellStore ArrayCells.Bound

namespace RightSide

/-- Every view that the elements of an assigned operand are read through has the property. -/
def AllViews (p : View → Prop) : RightSide → Prop
  | indexable source => source.AllViews p
  | _ => True

theorem allViews_of_forall {p : View → Prop} (value : RightSide) (all : ∀ v, p v) :
    value.AllViews p := by
  cases value with
  | indexable source => exact source.allViews_of_forall all
  | _ => trivial

theorem element_congr {σ τ : Type} [CellStore σ] [CellStore τ] {p : View → Prop} {store : σ}
    {store' : τ} (same : ∀ v, p v → ∀ t, v.item store t = v.item store' t) {value : RightSide}
    (all : value.AllViews p) (name : String) (t : List Int) (lengths : List Nat) (position : Nat)
    (relative : List Int) :
    value.element store name t lengths position relative =
      value.element store' name t lengths position relative := by
  cases value with
  | indexable source =>
    rw [element, element, Operand.item_congr_of_allViews same source relative all]
  | _ => rfl

/-- Without views, the store does not matter. -/
theorem element_of_viewless {σ τ : Type} [CellStore σ] [CellStore τ] {value : RightSide}
    (viewless : value.AllViews fun _ => False) (store : σ) (store' : τ) (name : String)
    (t : List Int) (lengths : List Nat) (position : Nat) (relative : List Int) :
    value.element store name t lengths position relative =
      value.element store' name t lengths position relative :=
  element_congr (fun _ impossible _ => impossible.elim) viewless name t lengths position relative

end RightSide

/-- Both calculations fail with the same fault, or both give related results. -/
inductive GivesAlike {α β : Type} (R : α → β → Prop) : Except Fault α → Except Fault β → Prop
  | ok {a : α} {b : β} (h : R a b) : GivesAlike R (.ok a) (.ok b)
  | error (fault : Fault) : GivesAlike R (.error fault) (.error fault)

/-- Both actions fail with the same fault, or both succeed with the same result, and they leave the
same binding over related stores. -/
inductive EndsAlike {σ τ α : Type} (R : σ → τ → Prop) :
    EStateM.Result Fault (Bound σ) α → EStateM.Result Fault (Bound τ) α → Prop
  | ok (a : α) (b : Binding) {store : σ} {store' : τ} (h : R store store') :
      EndsAlike R (.ok a ⟨b, store⟩) (.ok a ⟨b, store'⟩)
  | error (fault : Fault) (b : Binding) {store : σ} {store' : τ} (h : R store store') :
      EndsAlike R (.error fault ⟨b, store⟩) (.error fault ⟨b, store'⟩)

variable {σ τ : Type} [CellStore σ] [CellStore τ]

/-- Related stores pack rows alike, read the views of a kind alike, and take contents alike. -/
structure Simulation (R : σ → τ → Prop) (p : View → Prop) : Prop where
  rows : ∀ {store store'}, R store store' → hasRows store = hasRows store'
  views : ∀ {store store'}, R store store' → ∀ v, p v → ∀ t, v.item store t = v.item store' t
  writes : ∀ {store store'}, R store store' → ∀ content a,
    GivesAlike R (writeAt store content a) (writeAt store' content a)

namespace Simulation

variable {R : σ → τ → Prop} {p : View → Prop} {store : σ} {store' : τ}

/-- The two sides keep in step when the same contents are written to both. -/
theorem lockstep (sim : Simulation R p) : Lockstep Eq Eq R where
  faults _ _ := rfl
  rows := sim.rows
  writes := by
    rintro store store' h content _ rfl a
    have written := sim.writes h content a
    generalize writeAt store content a = left at written ⊢
    generalize writeAt store' content a = right at written ⊢
    cases written with
    | ok h' => exact .ok h'
    | error fault => exact .error rfl

/-- A right side gives the same contents on both sides. -/
theorem pairs (sim : Simulation R p) {value : RightSide} (all : value.AllViews p) :
    value.Pairs Eq Eq R value where
  single _ := .refl (fun _ => rfl) _
  excess _ := rfl
  element h name t lengths position relative := by
    rw [RightSide.element_congr (sim.views h) all]
    exact .refl (fun _ => rfl) _

/-- **Assignments have the same outcome** over related stores. -/
theorem assign (sim : Simulation R p) (h : R store store') (b : Binding) {value : RightSide}
    (all : value.AllViews p) (t : List Int) (ctx : Context) :
    EndsAlike R (assign value t ctx ⟨b, store⟩) (assign value t ctx ⟨b, store'⟩) := by
  have same := sim.lockstep.assign h b (sim.pairs all) t (rfl : ctx.forceInit = ctx.forceInit)
  generalize Bound.assign value t ctx ⟨b, store⟩ = left at same ⊢
  generalize Bound.assign value t ctx ⟨b, store'⟩ = right at same ⊢
  cases same with
  | ok b' h' => exact .ok () b' h'
  | error faults b' h' =>
    cases faults
    exact .error _ b' h'

end Simulation

end ArrayCells
