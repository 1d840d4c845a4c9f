import ArrayCells.Operand.Element

/-!
# Elements of operands and the store

Following a tuple of indexes through an operand asks the store for single cells only, and only when
the tuple ends in a view.  `AllViews` says something of all views that a tuple can lead to.

* `Operand.item_congr_of_allViews`: two stores that read the views of an operand alike lead to the
  same elements of it, even if they are stores of different kinds.
-/

namespace ArrayCells

variable {σ τ : Type} [CellStore σ] [CellStore τ]

theorem View.item_congr {store : σ} {store' : τ}
    (same : ∀ c ctx, CellStore.readItem store c ctx = CellStore.readItem store' c ctx)
    (view : View) (t : List Int) : view.item store t = view.item store' t := by
  simp only [View.item, same]

namespace Operand

theorem item_nil (store : σ) (x : Operand) : x.item store [] = .ok x := by
  cases x <;> simp only [item]

theorem itemOf_nil (store : σ) (outside : Fault) (items : List Operand) (k : Nat) :
    itemOf store outside items k [] =
      match items[k]? with
      | some x => .ok x
      | none => .error outside := by
  induction items generalizing k with
  | nil => simp only [itemOf, List.getElem?_nil]
  | cons x items ih =>
    cases k with
    | zero => simp only [itemOf, item_nil, List.getElem?_cons_zero]
    | succ k => simp only [itemOf, ih, List.getElem?_cons_succ]

/-- One index leads to the item of a list at this position. -/
theorem item_list (store : σ) (items : List Operand) (title label : Option String) (k : Nat) :
    (list items title label).item store [(k : Int)] =
      match items[k]? with
      | some x => .ok x
      | none => .error (.outOfBounds k items.length) := by
  have atLeast : ¬ (k : Int) < 0 := by omega
  simp only [item, if_neg atLeast, Int.toNat_natCast, itemOf_nil]

theorem item_view (store : σ) (view : View) (label : Option String) {t : List Int} (h : t ≠ []) :
    (Operand.view view label).item store t = view.item store t := by
  cases t with
  | nil => exact (h rfl).elim
  | cons i t => simp only [item]

mutual

/-- Every view that a tuple of indexes can lead to, through lists and groups, has the property. -/
def AllViews (p : View → Prop) : Operand → Prop
  | view v _ => p v
  | list items _ _ => AllViewsIn p items
  | group x _ => AllViews p x
  | _ => True

def AllViewsIn (p : View → Prop) : List Operand → Prop
  | [] => True
  | x :: rest => AllViews p x ∧ AllViewsIn p rest

end

mutual

theorem allViews_of_forall {p : View → Prop} (x : Operand) (all : ∀ v, p v) : x.AllViews p := by
  cases x with
  | view v label => exact all v
  | list items title label =>
    rw [AllViews]
    exact allViewsIn_of_forall items all
  | group x label =>
    rw [AllViews]
    exact x.allViews_of_forall all
  | _ => trivial

theorem allViewsIn_of_forall {p : View → Prop} (items : List Operand) (all : ∀ v, p v) :
    AllViewsIn p items := by
  cases items with
  | nil => trivial
  | cons x rest =>
    rw [AllViewsIn]
    exact ⟨x.allViews_of_forall all, allViewsIn_of_forall rest all⟩

end

/-- **Elements are read through the views of an operand** and nothing else.  The induction follows
the two functions that search an operand and a list of items. -/
theorem item_congr_of_allViews {p : View → Prop} {store : σ} {store' : τ}
    (same : ∀ v, p v → ∀ t, v.item store t = v.item store' t)
    (x : Operand) (t : List Int) (all : x.AllViews p) : x.item store t = x.item store' t := by
  refine item.induct (fun x t => x.AllViews p → x.item store t = x.item store' t)
    (fun outside items k t => AllViewsIn p items →
      itemOf store outside items k t = itemOf store' outside items k t)
    ?whole ?negative ?listed ?viewed ?grouped ?other ?absent ?here ?further x t all
  case whole =>
    intro x all
    rw [item_nil, item_nil]
  case negative =>
    intro items title label i rest low all
    simp only [item, if_pos low]
  case listed =>
    intro items title label i rest outside high found all
    rw [AllViews] at all
    simp only [item, if_neg high]
    exact found all
  case viewed =>
    intro view label t nonempty all
    rw [AllViews] at all
    rw [item_view store view label nonempty, item_view store' view label nonempty]
    exact same view all t
  case grouped =>
    intro x label t nonempty inner all
    rw [AllViews] at all
    cases t with
    | nil => exact (nonempty rfl).elim
    | cons i t => simpa only [item] using inner all
  case other =>
    intro x i t noList noView noGroup all
    cases x with
    | list items title label => exact (noList items title label rfl).elim
    | view view label => exact (noView view label rfl).elim
    | group x label => exact (noGroup x label rfl).elim
    | _ => simp only [item]
  case absent =>
    intro outside k t all
    simp only [itemOf]
  case here =>
    intro outside x xs rest found all
    rw [AllViewsIn] at all
    simpa only [itemOf] using found all.1
  case further =>
    intro outside x xs k rest found all
    rw [AllViewsIn] at all
    simpa only [itemOf] using found all.2

end Operand

end ArrayCells
