import ArrayCells.Binding.Write
import ArrayCells.Proofs.Record

/-!
# What each write does to a bound

The writes of a binding are actions that read a state, may fail, and leave a state either way.  This
file says of each of them, in one equation, what it returns from a given state; later files use the
equations and do not open the actions again.

* `put_eq`, `mark_eq`, `assignOne_eq`: the writes to one tuple;
* `openLengths_eq`, `valueAt_eq`: the two questions that an assignment asks, which change nothing;
* `assignRegion_eq`, `assign_eq`: an assignment, as a loop over the cells of a region or as a write
  to one tuple.

`after` forgets whether an action failed and keeps the state that it left.
-/

namespace ArrayCells

/-! ### Actions -/

namespace Writing

variable {σ α β : Type}

/-- The state that an action leaves, whether it fails or not. -/
def after (act : Writing σ α) (s : Bound σ) : Bound σ :=
  match act s with
  | .ok _ s' => s'
  | .error _ s' => s'

theorem bind_apply (act : Writing σ α) (next : α → Writing σ β) (s : Bound σ) :
    (act >>= next) s =
      match act s with
      | .ok a s' => next a s'
      | .error e s' => .error e s' := by
  show EStateM.bind act next s = _
  rw [EStateM.bind]
  cases act s <;> rfl

theorem forM_cons_apply (round : β → Writing σ Unit) (x : β) (items : List β) (s : Bound σ) :
    (x :: items).forM round s =
      match round x s with
      | .ok _ s' => items.forM round s'
      | .error e s' => .error e s' := by
  show (round x >>= fun _ => items.forM round) s = _
  rw [bind_apply]
  cases round x s <;> rfl

/-- Loops do the same if their rounds do. -/
theorem forM_congr {round round' : β → Writing σ Unit} {items : List β}
    (each : ∀ x ∈ items, round x = round' x) : items.forM round = items.forM round' := by
  induction items with
  | nil => rfl
  | cons x items ih =>
    have rest := ih fun y member => each y (List.mem_cons_of_mem x member)
    funext s
    rw [forM_cons_apply, forM_cons_apply, each x List.mem_cons_self, rest]

theorem get_apply (s : Bound σ) : (get : Writing σ (Bound σ)) s = .ok s s := rfl

theorem ofExcept_apply (x : Except Fault α) (s : Bound σ) :
    (ofExcept x : Writing σ α) s =
      match x with
      | .ok a => .ok a s
      | .error e => .error e s := by
  cases x <;> rfl

end Writing

/-! ### The questions of an assignment -/

/-- The lengths that a tuple leaves open, if it addresses no single cell or row. -/
def Binding.opened (b : Binding) (hasRows : Bool) (t : List Int) :
    Except Fault (Option (List Nat)) :=
  match b.shape with
  | none => .ok none
  | some shape =>
    if ((b.rowKey? hasRows t).isSome || shape.isFull t) = true then .ok none
    else if shape.accepts t = true then .ok (some (shape.lengths.drop t.length))
    else .error (shape.outOfShape t)

namespace RightSide

variable {σ : Type} [CellStore σ]

/-- The value that a right side has for a position of a region. -/
def element (store : σ) (name : String) (t : List Int) (lengths : List Nat) (position : Nat)
    (relative : List Int) : RightSide → Except Fault Content
  | sequence contents =>
    match contents[position]? with
    | some content => .ok content
    | none => .error (.outOfBounds position contents.length)
  | indexable source => (source.item store relative).map .ofOperand
  | single _ => .error (.typeMismatch (.singleForRegion name t lengths))

/-- The length of a sequence that has more values than the region has cells. -/
def excess? (lengths : List Nat) : RightSide → Option Nat
  | sequence contents => if volume lengths < contents.length then some contents.length else none
  | _ => none

end RightSide

namespace Bound

open CellStore Writing

variable {σ : Type} [CellStore σ]

theorem openLengths_eq (t : List Int) (s : Bound σ) :
    openLengths t s = Writing.ofExcept (s.binding.opened (hasRows s.store) t) s := by
  simp only [openLengths, bind_apply, get_apply, Binding.opened]
  cases s.binding.shape with
  | none => rfl
  | some shape =>
    by_cases single : ((s.binding.rowKey? (hasRows s.store) t).isSome || shape.isFull t) = true
    · simp only [if_pos single]
      rfl
    · simp only [if_neg single, bind_apply, Shape.offset]
      by_cases fit : shape.accepts t = true
      · simp only [if_pos fit]
        rfl
      · simp only [if_neg fit]
        rfl

theorem valueAt_eq (value : RightSide) (t : List Int) (lengths : List Nat) (position : Nat)
    (relative : List Int) (s : Bound σ) :
    valueAt value t lengths position relative s =
      Writing.ofExcept (value.element s.store s.binding.name t lengths position relative) s := by
  simp only [valueAt, bind_apply, get_apply]
  cases value with
  | single content => rfl
  | sequence contents =>
    simp only [RightSide.element]
    cases contents[position]? <;> rfl
  | indexable source =>
    simp only [RightSide.element, bind_apply]
    cases source.item s.store relative <;> rfl

/-! ### Writes to one tuple -/

theorem put_eq (content : Content) (t : List Int) (s : Bound σ) :
    put content t s =
      match s.binding.target (hasRows s.store) t with
      | .error e => .error e s
      | .ok target =>
        match writeAt s.store content target.address with
        | .error e => .error e s
        | .ok store => .ok () ⟨s.binding, store⟩ := by
  simp only [put, bind_apply, get_apply]
  cases s.binding.target (hasRows s.store) t with
  | error e => rfl
  | ok target =>
    cases target with
    | scalar c => rfl
    | indexed c => rfl
    | row c n =>
      simp only [ofExcept_apply, Target.address, writeAt, bind_apply]
      cases writeRow s.store c n content <;> rfl

theorem mark_eq (t : List Int) (s : Bound σ) :
    mark t s =
      match s.binding.mark (hasRows s.store) t with
      | .error e => .error e s
      | .ok b => .ok () ⟨b, s.store⟩ := by
  simp only [mark, bind_apply, get_apply]
  cases s.binding.mark (hasRows s.store) t <;> rfl

theorem assignOne_eq (content : Content) (t : List Int) (ctx : Context) (s : Bound σ) :
    assignOne content t ctx s =
      if s.binding.isMarked (hasRows s.store) t = true then
        if ctx.forceInit = true then .error (s.binding.doubleInitialization t) s
        else if s.binding.isConstant = true then .error (.constViolation s.binding.name t) s
        else put content t s
      else
        match put content t s with
        | .error e s' => .error e s'
        | .ok _ s' => mark t s' := by
  simp only [assignOne, bind_apply, get_apply]
  cases s.binding.isMarked (hasRows s.store) t
  · rw [if_neg Bool.false_ne_true]
    show (put content t >>= fun _ => mark t) s = _
    rw [bind_apply]
    cases put content t s <;> rfl
  · cases ctx.forceInit <;> cases s.binding.isConstant <;> rfl

/-! ### Assignments -/

/-- One round of the assignment of a region: the value for a position goes into its cell. -/
def assignCell (value : RightSide) (t : List Int) (lengths : List Nat) (ctx : Context)
    (cell : List Int × Nat) : Writing σ Unit := do
  let content ← valueAt value t lengths cell.2 cell.1
  assignOne content (t ++ cell.1) ctx

theorem assignCell_eq (value : RightSide) (t : List Int) (lengths : List Nat) (ctx : Context)
    (cell : List Int × Nat) (s : Bound σ) :
    assignCell value t lengths ctx cell s =
      match value.element s.store s.binding.name t lengths cell.2 cell.1 with
      | .error e => .error e s
      | .ok content => assignOne content (t ++ cell.1) ctx s := by
  simp only [assignCell, bind_apply, valueAt_eq, ofExcept_apply]
  cases value.element s.store s.binding.name t lengths cell.2 cell.1 <;> rfl

theorem assignRegion_eq (value : RightSide) (t : List Int) (lengths : List Nat) (ctx : Context)
    (s : Bound σ) :
    assignRegion value t lengths ctx s =
      match value.excess? lengths with
      | some count =>
        .error (.typeMismatch (.sequenceTooLong count s.binding.name t lengths)) s
      | none => (tuples lengths).zipIdx.forM (assignCell value t lengths ctx) s := by
  cases value with
  | single content => rfl
  | indexable source => rfl
  | sequence contents =>
    simp only [assignRegion, RightSide.excess?]
    by_cases long : volume lengths < contents.length
    · simp only [if_pos long, bind_apply, get_apply]
      rfl
    · simp only [if_neg long]
      rfl

theorem assign_eq (value : RightSide) (t : List Int) (ctx : Context) (s : Bound σ) :
    assign value t ctx s =
      match s.binding.opened (hasRows s.store) t with
      | .error e => .error e s
      | .ok (some lengths) => assignRegion value t lengths ctx s
      | .ok none =>
        match value.asSingle s.binding.name with
        | .error e => .error e s
        | .ok content => assignOne content t ctx s := by
  simp only [assign, bind_apply, openLengths_eq, ofExcept_apply]
  cases s.binding.opened (hasRows s.store) t with
  | error e => rfl
  | ok lengths =>
    cases lengths with
    | some lengths => rfl
    | none =>
      simp only [bind_apply, get_apply, ofExcept_apply]
      cases value.asSingle s.binding.name <;> rfl

end Bound

end ArrayCells
