import ArrayCells.Proofs.Lifetime
import ArrayCells.Proofs.Views
import ArrayCells.Proofs.WriteOnce

/-!
# Bindings stay inside their own cells

A store is looked at only within a region if stores that agree on the region cannot be told apart;
`AgreeOn` and `Local` say this of stores and of functions of them.  What is done through a binding
looks at the cells and rows of its own region alone, and so does what is done with a view of it:

* `View.item_local`, `View.elements_local`: a view is read within its own cells;
* `Binding.HasView`, `HasView.inside`: the views of a binding and all narrower ones lie in its
  region;
* `Binding.item_local`, `Binding.gives_item`: an access looks at the region, and gives a view of it
  or something that it holds;
* `Binding.read_local_iff`: so does a read, with one exception;
* `Memory.simulation`: an assignment looks at the views in the assigned value alone;
* `Environment.variables_confined`: a call through a variable leaves the regions of all others
  alone.

The exception is an array without cells.  A tuple that leaves dimensions open leads to its base,
which is not a cell of it, and a read of such a tuple finds there what the next variable has written
(`Environment.read_beyond_region`).
-/

namespace ArrayCells

open CellStore ArrayCells.Bound

/-! ### Looking at a region -/

namespace Memory

/-- The stores pack rows alike, and hold the same in the cells and rows of the region. -/
structure AgreeOn (region : CellId → Prop) (m m' : Memory) : Prop where
  packsRows : m.packsRows = m'.packsRows
  held : ∀ a : Address, region a.cellId → readAt m a = readAt m' a

/-- The function looks at no cell or row outside of the region. -/
def Local {α : Type} (region : CellId → Prop) (f : Memory → α) : Prop :=
  ∀ m m', AgreeOn region m m' → f m = f m'

variable {region : CellId → Prop} {m m' : Memory}

theorem AgreeOn.read {c : CellId} (h : AgreeOn region m m') (inside : region c) :
    CellStore.read m c = CellStore.read m' c :=
  h.held (.cell c) inside

theorem AgreeOn.readItem {c : CellId} (h : AgreeOn region m m') (inside : region c)
    (ctx : Context) : CellStore.readItem m c ctx = CellStore.readItem m' c ctx := by
  rw [readsByDefault, readsByDefault, h.read inside]

/-- Writing the same to both stores keeps them in agreement, wherever it is written. -/
theorem AgreeOn.written (h : AgreeOn region m m') (content : Content) (a : Address) :
    GivesAlike (AgreeOn region) (writeAt m content a) (writeAt m' content a) := by
  rcases writeAt_alike h.packsRows content content a with ⟨n, n', left, right⟩ | ⟨fault, left, right⟩
  · rw [left, right]
    refine .ok ⟨?_, fun b inside => ?_⟩
    · have rows := hasRows_writeAt left
      have rows' := hasRows_writeAt right
      exact rows.trans (h.packsRows.trans rows'.symm)
    · rw [readAt_writeAt left, readAt_writeAt right, h.held b inside]
  · rw [left, right]
    exact .error fault

end Memory

open Memory

/-! ### Views -/

theorem Shape.sliceBounds_ok {length lo hi : Nat} {lower upper : Option Int}
    (h : sliceBounds length lower upper = .ok (lo, hi)) : lo ≤ hi ∧ hi ≤ length := by
  rw [sliceBounds] at h
  split at h
  · cases h
  · obtain ⟨rfl, rfl⟩ := Prod.mk.inj (Except.ok.inj h)
    omega

/-- **What is narrowed lies within**: it begins at a cell of the shape and ends before the end. -/
theorem Shape.narrow_ok {shape narrowed : Shape} {p : List Int} {base first : CellId}
    {lower upper : Option Int} (h : shape.narrow p base lower upper = .ok (narrowed, first)) :
    ∃ start, first = base.advance start ∧
      start + volume narrowed.lengths ≤ volume shape.lengths := by
  by_cases fit : shape.accepts p = true
  · have room := rank_add_volume_le fit
    rw [narrow, offset_of_accepts fit] at h
    cases whole : lower.isNone && upper.isNone with
    | true =>
      simp only [whole] at h
      cases h
      exact ⟨_, rfl, room⟩
    | false =>
      simp only [whole] at h
      cases rest : shape.lengths.drop p.length with
      | nil =>
        simp only [rest] at h
        cases h
      | cons length inner =>
        rw [rest, volume] at room
        simp only [rest] at h
        cases bounds : sliceBounds length lower upper with
        | error bad =>
          simp only [bounds] at h
          cases h
        | ok slice =>
          obtain ⟨lo, hi⟩ := slice
          simp only [bounds] at h
          cases h
          refine ⟨_, rfl, ?_⟩
          obtain ⟨ordered, high⟩ := sliceBounds_ok bounds
          calc rank shape.lengths p + lo * volume inner + (hi - lo) * volume inner
            _ = rank shape.lengths p + hi * volume inner := by
              rw [Nat.add_assoc, ← Nat.add_mul, Nat.add_sub_cancel' ordered]
            _ ≤ rank shape.lengths p + length * volume inner :=
              Nat.add_le_add_left (Nat.mul_le_mul_right _ high) _
            _ ≤ volume shape.lengths := room
  · rw [narrow_of_not_accepts base lower upper fit] at h
    cases h

namespace View

/-- All cells of the view lie in the region. -/
def Inside (view : View) (region : CellId → Prop) : Prop :=
  ∀ k < volume view.shape.lengths, region (view.base.advance k)

theorem Inside.narrow {view : View} {region : CellId → Prop} (h : view.Inside region)
    {p : List Int} {lower upper : Option Int} {narrowed : Shape} {first : CellId}
    (ok : view.shape.narrow p view.base lower upper = .ok (narrowed, first)) (typeName : String) :
    (⟨typeName, narrowed, first⟩ : View).Inside region := by
  obtain ⟨start, rfl, room⟩ := Shape.narrow_ok ok
  intro k (below : k < volume narrowed.lengths)
  rw [CellId.advance_advance]
  exact h (start + k) (by omega)

variable {view : View} {region : CellId → Prop}

/-- **A view is read within its own cells.** -/
theorem item_local (inside : view.Inside region) (t : List Int) :
    Local region fun m => view.item m t := by
  intro m m' agree
  simp only [item]
  split
  · rename_i full
    rw [Shape.isFull_iff] at full
    by_cases fit : view.shape.accepts t = true
    · rw [Shape.locate_of_accepts view.base fit]
      exact agree.readItem (inside _ (rank_lt_volume fit full)) {}
    · rw [Shape.locate_of_not_accepts view.base fit]
      rfl
  · rfl

theorem elements_local (inside : view.Inside region) :
    Local region fun m => view.elements m := by
  intro m m' agree
  have items : ∀ t, view.item m t = view.item m' t := fun t => item_local inside t m m' agree
  simp only [elements, items]

end View

/-- **An assignment looks at the views in its value alone.** -/
theorem Memory.simulation (region : CellId → Prop) :
    Simulation (AgreeOn region) fun view => view.Inside region where
  rows := fun agree => agree.packsRows
  views := fun agree _ inside t => View.item_local inside t _ _ agree
  writes := fun agree content a => agree.written content a

/-! ### Bindings -/

namespace Binding

/-- The views that accesses to a binding give, and those that are narrowed from them. -/
inductive HasView (b : Binding) : View → Prop
  | access {shape narrowed : Shape} {first : CellId} (p : List Int) (lower upper : Option Int)
      (array : b.shape = some shape)
      (ok : shape.narrow p b.base lower upper = .ok (narrowed, first)) :
      HasView b ⟨b.typeName, narrowed, first⟩
  | narrower {view : View} {narrowed : Shape} {first : CellId} (p : List Int)
      (given : HasView b view)
      (ok : view.shape.narrow p view.base none none = .ok (narrowed, first)) :
      HasView b { view with shape := narrowed, base := first }

/-- The operand is a view of the binding or what one of its cells or rows holds, apart from the
label. -/
def Gives (b : Binding) (m : Memory) (x : Operand) : Prop :=
  (∃ view label, x = .view view label ∧ b.HasView view) ∨
    ∃ a content, b.Spans a.cellId ∧ readAt m a = some content ∧
      x.withLabel? none = content.toOperand.withLabel? none

variable {b : Binding}

/-- All cells of an array lie in its region. -/
theorem inside_of_array {shape : Shape} (array : b.shape = some shape) (typeName : String) :
    (⟨typeName, shape, b.base⟩ : View).Inside b.Spans := by
  intro k below
  rw [spans_iff, Binding.size, array]
  simp only [Shape.size, shape.length_marks, CellId.number_advance]
  exact ⟨Nat.le_add_right _ _, Nat.add_lt_add_left below _⟩

/-- **The views of a binding lie in its region**, however often they are narrowed. -/
theorem HasView.inside {view : View} (h : b.HasView view) : view.Inside b.Spans := by
  induction h with
  | access p lower upper array ok =>
    exact (inside_of_array array b.typeName).narrow ok b.typeName
  | narrower p given ok ih => exact ih.narrow ok _

/-! ### Accesses -/

theorem spans_of_fit {shape : Shape} {t : List Int} (array : b.shape = some shape)
    (fit : shape.accepts t = true) (full : t.length = shape.dim) :
    b.Spans (b.base.advance (rank shape.lengths t)) := by
  have selects : b.Selects false t _ := .element array fit full
  exact selects.spanned

theorem spans_base_of_scalar (scalar : b.shape = none) : b.Spans b.base := by
  have selects : b.Selects false [] _ := .scalar scalar
  exact selects.spanned

/-- The four ways in which an access comes to its result over stores that pack rows or do not: it
fails or gives a view without a look at the store, or it reads one cell or one row of the region. -/
inductive Looks (b : Binding) (rows : Bool) (label : String) (ctx : Context)
    (f : Memory → Except Fault Operand) : Prop
  | fails (fault : Fault) (h : ∀ m : Memory, m.packsRows = rows → f m = .error fault)
  | view (view : View) (has : b.HasView view)
      (h : ∀ m : Memory, m.packsRows = rows → f m = .ok (.view view))
  | cell (c : CellId) (inside : b.Spans c)
      (h : ∀ m : Memory, m.packsRows = rows → f m = b.readCell m c ctx)
  | row (c : CellId) (n : Int) (inside : b.Spans c)
      (h : ∀ m : Memory, m.packsRows = rows → f m = readRow m label c n)

theorem looks_itemOfArray {shape : Shape} (array : b.shape = some shape) (access : Access)
    (rows : Bool) (label : String) (ctx : Context) :
    b.Looks rows label ctx fun m => b.itemOfArray m shape access label ctx := by
  obtain ⟨fixed, range⟩ := access
  let region : Except Fault Operand := do
    let found ← shape.narrow fixed b.base (range.getD (none, none)).1 (range.getD (none, none)).2
    return .view ⟨b.typeName, found.1, found.2⟩
  have viewed : ∀ {f : Memory → Except Fault Operand},
      (∀ m : Memory, m.packsRows = rows → f m = region) → b.Looks rows label ctx f := by
    intro f same
    cases narrowed : shape.narrow fixed b.base (range.getD (none, none)).1
      (range.getD (none, none)).2 with
    | error fault =>
      refine .fails fault fun m hm => ?_
      rw [same m hm]
      simp only [region, narrowed]
      rfl
    | ok result =>
      refine .view _ (.access fixed _ _ array narrowed) fun m hm => ?_
      rw [same m hm]
      simp only [region, narrowed]
      rfl
  cases range with
  | some bounds => exact viewed fun m _ => rfl
  | none =>
    cases last : fixed.drop shape.dim with
    | nil =>
      by_cases full : shape.isFull fixed = true
      · have length : fixed.length = shape.dim := by
          rw [Shape.isFull_iff] at full
          exact full
        by_cases fit : shape.accepts fixed = true
        · refine .cell _ (spans_of_fit array fit length) fun m _ => ?_
          simp only [itemOfArray, last, if_pos full, Shape.locate_of_accepts b.base fit]
          rfl
        · refine .fails (shape.outOfShape fixed) fun m _ => ?_
          simp only [itemOfArray, last, if_pos full, Shape.locate_of_not_accepts b.base fit]
          rfl
      · refine viewed fun m _ => ?_
        simp only [itemOfArray, last, if_neg full]
        rfl
    | cons n more =>
      cases more with
      | cons n' more =>
        refine viewed fun m _ => ?_
        simp only [itemOfArray, last]
        rfl
      | nil =>
        cases rows with
        | false =>
          refine viewed fun m hm => ?_
          have none : CellStore.hasRows m = false := hm
          simp only [itemOfArray, last, none]
          rfl
        | true =>
          have length : (fixed.take shape.dim).length = shape.dim := by
            have one := congrArg List.length last
            simp only [List.length_drop, List.length_singleton] at one
            rw [List.length_take]
            omega
          by_cases fit : shape.accepts (fixed.take shape.dim) = true
          · refine .row _ n (spans_of_fit array fit length) fun m hm => ?_
            have packed : CellStore.hasRows m = true := hm
            simp only [itemOfArray, last, packed, Shape.locate_of_accepts b.base fit]
            rfl
          · refine .fails (shape.outOfShape (fixed.take shape.dim)) fun m hm => ?_
            have packed : CellStore.hasRows m = true := hm
            simp only [itemOfArray, last, packed, Shape.locate_of_not_accepts b.base fit]
            rfl

theorem looks_itemOfScalar (scalar : b.shape = none) (access : Access) (rows : Bool)
    (label : String) (ctx : Context) :
    b.Looks rows label ctx fun m => b.itemOfScalar m access label ctx := by
  obtain ⟨fixed, range⟩ := access
  have inside := spans_base_of_scalar scalar
  cases range with
  | some bounds => exact .fails b.notAnArray fun m _ => rfl
  | none =>
    match fixed with
    | [] => exact .cell b.base inside fun m _ => rfl
    | _ :: _ :: _ => exact .fails b.notAnArray fun m _ => rfl
    | [n] =>
      cases rows with
      | true =>
        refine .row b.base n inside fun m hm => ?_
        have packed : CellStore.hasRows m = true := hm
        simp only [itemOfScalar, packed, if_true]
      | false =>
        refine .fails b.notAnArray fun m hm => ?_
        have none : CellStore.hasRows m = false := hm
        simp only [itemOfScalar, none, Bool.false_eq_true, if_false]

/-- What an access reads before it is labelled. -/
def unlabelled (b : Binding) (access : Access) (ctx : Context) (m : Memory) :
    Except Fault Operand :=
  match b.shape with
  | some shape => b.itemOfArray m shape access (access.label ctx.label) ctx
  | none => b.itemOfScalar m access (access.label ctx.label) ctx

theorem looks_unlabelled (access : Access) (rows : Bool) (ctx : Context) :
    b.Looks rows (access.label ctx.label) ctx (b.unlabelled access ctx) := by
  cases hs : b.shape with
  | none =>
    have same : b.unlabelled access ctx =
        fun m => b.itemOfScalar m access (access.label ctx.label) ctx := by
      funext m
      rw [unlabelled, hs]
    rw [same]
    exact looks_itemOfScalar hs access rows _ ctx
  | some shape =>
    have same : b.unlabelled access ctx =
        fun m => b.itemOfArray m shape access (access.label ctx.label) ctx := by
      funext m
      rw [unlabelled, hs]
    rw [same]
    exact looks_itemOfArray hs access rows _ ctx

theorem item_eq (m : Memory) (xs : List Operand) (ctx : Context) :
    b.item m xs ctx =
      match Access.ofOperands xs with
      | .error fault => .error fault
      | .ok access => (b.unlabelled access ctx m).map (·.withLabel (access.label ctx.label)) := by
  cases evaluated : Access.ofOperands xs with
  | error fault =>
    rw [item, evaluated]
    rfl
  | ok access =>
    cases hs : b.shape with
    | some shape =>
      simp only [unlabelled, hs]
      exact item_of_array hs evaluated ctx
    | none =>
      simp only [unlabelled, hs]
      exact item_of_scalar hs evaluated ctx

/-- **An access looks at the region of the binding alone.** -/
theorem item_local (xs : List Operand) (ctx : Context) :
    Local b.Spans fun m => b.item m xs ctx := by
  intro m m' agree
  simp only [item_eq]
  cases Access.ofOperands xs with
  | error fault => rfl
  | ok access =>
    have same : b.unlabelled access ctx m = b.unlabelled access ctx m' := by
      have rows : m'.packsRows = m.packsRows := agree.packsRows.symm
      cases b.looks_unlabelled access m.packsRows ctx with
      | fails fault h => rw [h m rfl, h m' rows]
      | view view has h => rw [h m rfl, h m' rows]
      | cell c inside h =>
        have read := agree.readItem inside ctx
        rw [h m rfl, h m' rows, readCell, readCell]
        split
        · exact read
        · exact read
      | row c n inside h =>
        have read : CellStore.readRow m c n = CellStore.readRow m' c n :=
          agree.held (.row ⟨c, n⟩) inside
        rw [h m rfl, h m' rows, readRow, readRow, read]
    simp only [same]

/-- **An access gives a view of the region or something that the region holds.** -/
theorem gives_item {m : Memory} {xs : List Operand} {ctx : Context} {x : Operand}
    (h : b.item m xs ctx = .ok x) : b.Gives m x := by
  rw [item_eq] at h
  cases evaluated : Access.ofOperands xs with
  | error fault =>
    rw [evaluated] at h
    cases h
  | ok access =>
    simp only [evaluated] at h
    cases b.looks_unlabelled access m.packsRows ctx with
    | fails fault f =>
      rw [f m rfl] at h
      cases h
    | view view has f =>
      rw [f m rfl] at h
      exact .inl ⟨view, _, (Except.ok.inj h).symm, has⟩
    | cell c inside f =>
      have default := readCell_eq_readItem (b := b) (.inr fun _ _ _ => rfl) m c
      rw [f m rfl, default, readsByDefault] at h
      cases held : CellStore.read m c with
      | none =>
        rw [held] at h
        cases h
      | some content =>
        rw [held] at h
        refine .inr ⟨.cell c, content, inside, held, ?_⟩
        rw [← Except.ok.inj h]
        exact Operand.withLabel?_withLabel? _ _ _
    | row c n inside f =>
      rw [f m rfl] at h
      cases held : readAt m (.row ⟨c, n⟩) with
      | none =>
        have missing : CellStore.readRow m c n = none := held
        simp only [readRow, missing] at h
        cases h
      | some content =>
        have read : CellStore.readRow m c n = some content := held
        simp only [readRow, read] at h
        refine .inr ⟨.row ⟨c, n⟩, content, inside, held, ?_⟩
        rw [← Except.ok.inj h]
        exact Operand.withLabel?_withLabel? _ _ _

/-- What is read through a view of a binding comes from its region as well. -/
theorem HasView.gives_item {view : View} (has : b.HasView view) {m : Memory} {t : List Int}
    {x : Operand} (h : view.item m t = .ok x) : b.Gives m x := by
  rw [View.item] at h
  split at h
  · rename_i full
    rw [Shape.isFull_iff] at full
    by_cases fit : view.shape.accepts t = true
    · rw [Shape.locate_of_accepts view.base fit] at h
      have read : CellStore.readItem m (view.base.advance (rank view.shape.lengths t)) {} =
          .ok x := h
      rw [readsByDefault] at read
      cases held : CellStore.read m (view.base.advance (rank view.shape.lengths t)) with
      | none =>
        rw [held] at read
        cases read
      | some content =>
        rw [held] at read
        refine .inr ⟨.cell _, content, has.inside _ (rank_lt_volume fit full), held, ?_⟩
        rw [← Except.ok.inj read]
    · rw [Shape.locate_of_not_accepts view.base fit] at h
      cases h
  · cases narrowed : view.shape.narrow t view.base none none with
    | error fault =>
      rw [narrowed] at h
      cases h
    | ok result =>
      rw [narrowed] at h
      exact .inl ⟨_, none, (Except.ok.inj h).symm, .narrower t has narrowed⟩

/-! ### Reads of a tuple -/

/-- **A tuple leads into the region**, unless the binding has no cells and the tuple leads to its
base. -/
theorem spans_of_target {rows : Bool} {t : List Int} {target : Target}
    (leads : b.target rows t = .ok target) (room : b.size = 0 → b.accepts t = false) :
    b.Spans target.address.cellId := by
  rcases target_ok leads with plain | ⟨c, row, rfl, selects⟩
  · rcases cellTarget_ok plain with ⟨scalar, rfl, rfl⟩ | ⟨shape, array, fit, rfl⟩
    · exact spans_base_of_scalar scalar
    · have accepted : b.accepts t = true := by
        cases t with
        | nil => rfl
        | cons i t =>
          simp only [accepts, array]
          exact fit
      have size : b.size = volume shape.lengths := by
        rw [Binding.size, array]
        exact shape.length_marks
      have some : 0 < volume shape.lengths := by
        rw [← size]
        refine Nat.pos_of_ne_zero fun none => ?_
        rw [room none] at accepted
        cases accepted
      have first := volume_drop_pos some t.length
      have within := rank_add_volume_le fit
      rw [spans_iff, size]
      simp only [Target.address, Address.cellId, CellId.number_advance]
      omega
  · exact selects.spanned

/-- **A read looks at the region alone**, unless it reads the base of a binding without cells. -/
theorem read_local_iff (t : List Int) :
    (Local b.Spans fun m => b.read m t) ↔ (b.size = 0 → b.accepts t = false) := by
  constructor
  · intro looks empty
    cases accepted : b.accepts t with
    | false => rfl
    | true =>
      have nothing : ∀ c, ¬ b.Spans c := by
        intro c
        rw [spans_iff]
        omega
      obtain ⟨shape, array, fit⟩ : ∃ shape, b.shape = some shape ∧ shape.accepts t = true := by
        cases hs : b.shape with
        | none => simp only [Binding.size, hs, Nat.succ_ne_zero] at empty
        | some shape =>
          refine ⟨shape, rfl, ?_⟩
          cases t with
          | nil => exact fits_nil _
          | cons i t => simpa only [accepts, hs] using accepted
      -- the stores differ at the cell that the tuple leads to, which is none of the region
      let c := b.base.advance (rank shape.lengths t)
      let m : Memory := {}
      let m' := m.write c (.number 0)
      have leads : b.target false t = .ok (.indexed c) := by
        rw [target_of_array array]
        simp only [Bool.not_false, Bool.true_or, if_true, cellTarget, cell_of_array array,
          Shape.locate_of_accepts b.base fit, array]
        rfl
      have leadsHere : b.target (hasRows m) t = .ok (.indexed c) := leads
      have leadsThere : b.target (hasRows m') t = .ok (.indexed c) := leads
      have agree : AgreeOn b.Spans m m' := ⟨rfl, fun a inside => (nothing a.cellId inside).elim⟩
      have same := looks m m' agree
      have before : readAt m (.cell c) = none := readAt_new false 0 (.cell c)
      have after : readAt m' (.cell c) = some (.number 0) := by
        have written : writeAt m (.number 0) (.cell c) = .ok m' := rfl
        rw [readAt_writeAt written, if_pos rfl]
      simp only at same
      rw [read_of_target leadsHere, read_of_target leadsThere] at same
      simp only [Target.address, before, after] at same
      cases same
  · intro room m m' agree
    have rows : hasRows m' = hasRows m := agree.packsRows.symm
    cases leads : b.target (hasRows m) t with
    | error fault =>
      have leads' : b.target (hasRows m') t = .error fault := by rw [rows, leads]
      simp only [Binding.read, leads, leads']
      rfl
    | ok target =>
      have leads' : b.target (hasRows m') t = .ok target := by rw [rows, leads]
      simp only
      rw [read_of_target leads, read_of_target leads', agree.held _ (spans_of_target leads room)]

/-! ### All that is done through a binding -/

/-- What is done through a binding and its views stays inside of its region.  The views in an
assigned value are read where they lie; they are views of the bindings that they were obtained
from. -/
structure Confined (b : Binding) : Prop where
  /-- A read looks at the region alone, unless it reads the base of a binding without cells. -/
  read : ∀ t, (Local b.Spans fun m => b.read m t) ↔ (b.size = 0 → b.accepts t = false)
  item : ∀ xs ctx, Local b.Spans fun m => b.item m xs ctx
  gives : ∀ m xs ctx x, b.item m xs ctx = .ok x → b.Gives m x
  views : ∀ view, b.HasView view → view.Inside b.Spans ∧
    (∀ t, Local b.Spans fun m => view.item m t) ∧ (Local b.Spans fun m => view.elements m) ∧
    ∀ m t x, view.item m t = .ok x → b.Gives m x
  writes : ∀ (call : Assignment) (m : Memory) (a : Address),
    call.Writes ⟨b, m⟩ a → b.Spans a.cellId
  kept : ∀ (call : Assignment) (m : Memory) (a : Address),
    ¬ b.Spans a.cellId → readAt (call.after ⟨b, m⟩).store a = readAt m a
  /-- A call looks at no cell but those of the views in its value, whatever region holds them. -/
  sources : ∀ (call : Assignment) (region : CellId → Prop),
    call.value.AllViews (fun view => view.Inside region) → ∀ m m', AgreeOn region m m' →
      EndsAlike (AgreeOn region) (call.act ⟨b, m⟩) (call.act ⟨b, m'⟩) ∧
        call.writes ⟨b, m⟩ = call.writes ⟨b, m'⟩

/-- A call writes inside of the region of its binding. -/
theorem spans_of_writes {call : Assignment} {m : Memory} {a : Address}
    (written : call.Writes ⟨b, m⟩ a) : b.Spans a.cellId :=
  (call.trail ⟨b, m⟩).spans written

/-- A call leaves everything outside of the region of its binding as it was. -/
theorem readAt_after {call : Assignment} {m : Memory} {a : Address}
    (outside : ¬ b.Spans a.cellId) : readAt (call.after ⟨b, m⟩).store a = readAt m a :=
  (call.trail ⟨b, m⟩).readAt_of_not_mem fun written => outside (spans_of_writes written)

/-- **Every binding is confined to its region.** -/
theorem confined (b : Binding) : b.Confined where
  read := read_local_iff
  item := item_local
  gives _ _ _ _ := gives_item
  views _ has :=
    ⟨has.inside, View.item_local has.inside, View.elements_local has.inside,
      fun _ _ _ => has.gives_item⟩
  writes _ _ _ := spans_of_writes
  kept _ _ _ := readAt_after
  sources call region all _ _ agree :=
    ⟨call.act_alike (simulation region) all b agree,
      call.writes_alike (simulation region) all b agree⟩

end Binding

/-! ### Variables -/

namespace Environment

/-- Variables that are apart in the list are apart in the store. -/
theorem Sound.apart_of_split {env : Environment Memory} (h : env.Sound) {newer older : List Binding}
    {b b' : Binding} (split : env.bindings = newer ++ b :: older) (member : b' ∈ newer ++ older)
    (owner : b.isAlias = false) (owner' : b'.isAlias = false) : b'.Apart b := by
  have apart := h.apart
  rw [split, List.pairwise_append, List.pairwise_cons] at apart
  rcases List.mem_append.mp member with front | back
  · exact apart.2.2 b' front b List.mem_cons_self owner' owner
  · intro c both
    exact apart.2.1.1 b' back owner owner' c ⟨both.2, both.1⟩

/-- **Variables stay inside their own cells.**  In every reachable environment, what is done through
a variable looks at its own region and writes to it, but for a read of a variable without cells, and
no call through the variable touches the region of another one. -/
theorem variables_confined {env : Environment Memory} (reachable : Reachable env)
    {newer older : List Binding} {b : Binding} (split : env.bindings = newer ++ b :: older)
    (owner : b.isAlias = false) :
    b.Confined ∧ ∀ b' ∈ newer ++ older, b'.isAlias = false → ∀ call : Assignment,
      AgreeOn b'.Spans env.store (call.after ⟨b, env.store⟩).store := by
  refine ⟨b.confined, fun b' other owner' call => ⟨?_, fun a inside => ?_⟩⟩
  · exact (call.trail ⟨b, env.store⟩).hasRows.symm
  · have apart := (sound_of_reachable reachable).apart_of_split split other owner owner'
    exact (Binding.readAt_after fun also => apart a.cellId ⟨inside, also⟩).symm

/-- Three arrays are declared, the second of them without cells.  A read of the last cell of the
first one stays in its region, a read of the second one does not, and an assignment to the whole of
the first one changes nothing in the third. -/
theorem variables_confined_beside_empty :
    let x : Binding := { name := "x", typeName := "int", shape := some (.fresh [2]), base := ⟨0⟩ }
    let y : Binding := { name := "y", typeName := "int", shape := some (.fresh [0]), base := ⟨2⟩ }
    let z : Binding := { name := "z", typeName := "int", shape := some (.fresh [3]), base := ⟨2⟩ }
    let env : Environment Memory :=
      Operation.after (.declare "z" "int" [3] false)
        (Operation.after (.declare "y" "int" [0] false)
          (Operation.after (.declare "x" "int" [2] false) { store := {} }))
    let call : Assignment := { value := .sequence [.number 1, .number 2], indexes := [] }
    Reachable env ∧ (Local x.Spans fun m => x.read m [1]) ∧
      ¬ (Local y.Spans fun m => y.read m []) ∧
      AgreeOn z.Spans env.store (call.after ⟨x, env.store⟩).store := by
  intro x y z env call
  have first : Reachable _ := .step (.declare "x" "int" [2] false) (.start false) trivial
  have second : Reachable _ := .step (.declare "y" "int" [0] false) first trivial
  have reachable : Reachable env := .step (.declare "z" "int" [3] false) second trivial
  have oldest : env.bindings = [z, y] ++ x :: [] := rfl
  have middle : env.bindings = [z] ++ y :: [x] := rfl
  have confinedX := variables_confined reachable oldest rfl
  have confinedY := variables_confined reachable middle rfl
  refine ⟨reachable, (confinedX.1.read [1]).mpr ?_, ?_, ?_⟩
  · intro empty
    cases empty
  · intro looks
    have refused : y.accepts [] = false := (confinedY.1.read []).mp looks rfl
    cases refused
  · exact confinedX.2 z List.mem_cons_self rfl call

/-- **A read leaves the region of an array without cells.**  The array and the scalar that is
declared after it begin at the same cell, which belongs to the scalar.  Read with no index, the
array gives what was written to the scalar. -/
theorem read_beyond_region :
    let array : Binding :=
      { name := "A", typeName := "int", shape := some (.fresh [0]), base := ⟨0⟩ }
    let env : Environment Memory :=
      Operation.after (.write "x" { value := .single (.number 5), indexes := [] })
        (Operation.after (.declare "x" "int" [] false)
          (Operation.after (.declare "A" "int" [0] false) { store := {} }))
    Reachable env ∧ array ∈ env.bindings ∧ array.isAlias = false ∧
      array.read env.store [] = .ok (.number 5) ∧ (∀ c, ¬ array.Spans c) ∧
      ∃ scalar ∈ env.bindings, scalar.name = "x" ∧ scalar.isAlias = false ∧ scalar.Spans ⟨0⟩ := by
  intro array env
  have first : Reachable _ := .step (.declare "A" "int" [0] false) (.start false) trivial
  have second : Reachable _ := .step (.declare "x" "int" [] false) first trivial
  have reachable : Reachable env :=
    .step (.write "x" { value := .single (.number 5), indexes := [] }) second trivial
  refine ⟨reachable, List.mem_cons_of_mem _ List.mem_cons_self, rfl, rfl, ?_, ?_⟩
  · intro c spans
    rw [Binding.spans_iff] at spans
    exact Nat.lt_irrefl _ (Nat.lt_of_lt_of_le spans.2 spans.1)
  · refine ⟨_, List.mem_cons_self, rfl, rfl, ?_⟩
    rw [Binding.spans_iff]
    decide

end Environment

end ArrayCells
