import ArrayCells.Proofs.Instantiation

/-!
# The two ways to expand a spread

On its own, a spread becomes the list of its elements if unrolling is asked for.  Where it is the
only operand of an item, it is spliced into the list around it, and nothing is unrolled inside.  So
spreads within spreads are expanded at different moments: one after the other from the inside, or
all at once when the elements of the outermost one are taken.

* `Operand.expansion`: the elements of an operand once it has been instantiated;
* `expansion_group`, `expansion_spread`: neither a group nor a spread adds anything to them;
* `expansion_ok_iff`: they do not depend on what is unrolled on the way;
* `instantiate_spread_iff`: a spread becomes the list of the items that are spliced for it.
-/

namespace ArrayCells.Operand

variable {σ : Type} [CellStore σ]

/-- The elements of an operand once it has been instantiated. -/
def expansion (store : σ) (unroll : Bool) (x : Operand) : Except Fault (List Operand) := do
  (← x.instantiate store unroll).elements store

theorem expansion_group (store : σ) (unroll : Bool) (x : Operand) (l : Option String) :
    (group x l).expansion store unroll = x.expansion store unroll := by
  show ((x.instantiate store unroll >>= fun inner => pure (group inner l)) >>= elements store) =
    x.instantiate store unroll >>= elements store
  cases x.instantiate store unroll <;> rfl

/-- With unrolling, the elements of a spread are those of the list that it becomes. -/
theorem expansion_spread (store : σ) (unroll : Bool) (x : Operand) (l : Option String) :
    (spread x l).expansion store unroll = x.expansion store unroll := by
  show ((spread x l).instantiate store unroll >>= elements store) =
    x.instantiate store unroll >>= elements store
  cases unroll with
  | false =>
    show ((x.instantiate store false >>= fun inner => pure (spread inner l)) >>= elements store) =
      _
    cases x.instantiate store false <;> rfl
  | true =>
    show ((x.instantiate store true >>= fun inner => inner.elements store >>= fun items =>
      pure (list items none l)) >>= elements store) = _
    cases x.instantiate store true with
    | error fault => rfl
    | ok inner =>
      show (inner.elements store >>= fun items => pure (list items none l)) >>= elements store =
        inner.elements store
      cases inner.elements store <;> rfl

/-- An operand in which nothing is held along a dimension. -/
def isSingle (x : Operand) : Bool :=
  x.isInt || x.isRange || x.kind == .negation || x.kind == .arithmetic

theorem elements_of_isSingle (store : σ) {x : Operand} (single : x.isSingle = true) :
    x.elements store = .error (.typeMismatch (.notUnrollable x.kind)) := by
  cases x <;> first | rfl | cases single

/-- What is instantiated from integers, ranges and arithmetic is of the same kind. -/
theorem isSingle_instantiate {store : σ} {unroll : Bool} {x y : Operand}
    (single : x.isSingle = true) (given : x.instantiate store unroll = .ok y) :
    y.isSingle = true := by
  cases x with
  | int n l =>
    cases given
    rfl
  | range lo hi l =>
    obtain ⟨lo', -, hi', -, rfl⟩ := instantiate_range.mp given
    rfl
  | neg x l =>
    obtain ⟨x', -, rfl⟩ := instantiate_neg.mp given
    rfl
  | arith op a b l =>
    obtain ⟨a', -, b', -, rfl⟩ := instantiate_arith.mp given
    rfl
  | view | list | spread | group => cases single

theorem expansion_of_isSingle {store : σ} {unroll : Bool} {x : Operand}
    (single : x.isSingle = true) (items : List Operand) :
    ¬ x.expansion store unroll = .ok items := by
  intro expanded
  obtain ⟨y, given, elements⟩ := exists_of_bind_ok expanded
  rw [elements_of_isSingle store (isSingle_instantiate single given)] at elements
  cases elements

/-- **What an operand expands into does not depend on what is unrolled inside of it.**  Where it
cannot be expanded, the faults may differ: without unrolling, a spread inside of arithmetic is not
looked at. -/
theorem expansion_ok_iff (store : σ) (items : List Operand) : ∀ x : Operand,
    x.expansion store true = .ok items ↔ x.expansion store false = .ok items
  | list .. | view .. => Iff.rfl
  | group x l => by
    rw [expansion_group, expansion_group]
    exact expansion_ok_iff store items x
  | spread x l => by
    rw [expansion_spread, expansion_spread]
    exact expansion_ok_iff store items x
  | int .. | range .. | neg .. | arith .. =>
    iff_of_false (expansion_of_isSingle rfl items) (expansion_of_isSingle rfl items)

/-- With unrolling, a spread becomes the list of what its inside expands into. -/
theorem instantiate_spread (store : σ) (x : Operand) (l : Option String) :
    (spread x l).instantiate store true = do return list (← x.expansion store true) none l := by
  show (x.instantiate store true >>= fun inner => inner.elements store >>= fun items =>
    pure (list items none l)) = _
  rw [expansion]
  cases x.instantiate store true <;> rfl

/-- As the only operand of an item, a spread is spliced as what its inside expands into. -/
theorem materialize_spread (store : σ) (x : Operand) (l l' title : Option String) :
    TitledList.materialize store ⟨[group (spread x l) l'], title⟩ =
      do return { items := ← x.expansion store false } := by
  simp only [TitledList.materialize, materializeItems, instantiate, expansion]
  cases x.instantiate store false with
  | error fault => rfl
  | ok inner =>
    show ((inner.elements store >>= fun here => pure (here ++ [])) >>= fun items =>
      pure (TitledList.mk items none)) = inner.elements store >>= fun items =>
      pure (TitledList.mk items none)
    cases inner.elements store with
    | error fault => rfl
    | ok items => exact congrArg (fun items => Except.ok (TitledList.mk items none)) items.append_nil

/-- **The two ways to expand a spread agree.**  With unrolling, a spread can be instantiated exactly
if it can be spliced into a list, and it then becomes a list of the very items that are spliced. -/
theorem instantiate_spread_iff (store : σ) (x : Operand) (l l' title : Option String) :
    let around : TitledList := ⟨[group (spread x l) l'], title⟩
    ((∃ y, (spread x l).instantiate store true = .ok y) ↔
        ∃ m, around.materialize store = .ok m) ∧
      ∀ y, (spread x l).instantiate store true = .ok y ↔
        ∃ m, around.materialize store = .ok m ∧ y = list m.items none l := by
  intro around
  have same (y : Operand) : (spread x l).instantiate store true = .ok y ↔
      ∃ m, around.materialize store = .ok m ∧ y = list m.items none l := by
    rw [instantiate_spread, materialize_spread]
    constructor
    · intro given
      obtain ⟨items, expanded, last⟩ := exists_of_bind_ok given
      cases last
      rw [(expansion_ok_iff store items x).mp expanded]
      exact ⟨_, rfl, rfl⟩
    · rintro ⟨m, spliced, rfl⟩
      obtain ⟨items, expanded, last⟩ := exists_of_bind_ok spliced
      cases last
      rw [(expansion_ok_iff store items x).mpr expanded]
      rfl
  refine ⟨⟨fun ⟨y, given⟩ => ?_, fun ⟨m, spliced⟩ => ?_⟩, same⟩
  · obtain ⟨m, spliced, -⟩ := (same y).mp given
    exact ⟨m, spliced⟩
  · exact ⟨_, (same _).mpr ⟨m, spliced, rfl⟩⟩

end ArrayCells.Operand
