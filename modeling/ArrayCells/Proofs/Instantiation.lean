import ArrayCells.Operand.Instantiate

/-!
# What is instantiated

The results of instantiation, one lemma for each kind of operand whose parts are instantiated, too.
The results of a list are those of its items, each of which is spliced into the others.  Label and
kind of an operand are the same for all of them, by `outer_of_instantiate`.
-/

namespace ArrayCells

namespace Operand

variable {σ : Type} [CellStore σ] {store : σ} {unroll : Bool} {y : Operand} {l : Option String}

theorem instantiate_range {lo hi : Option Operand} :
    (range lo hi l).instantiate store unroll = .ok y ↔
      ∃ lo', instantiateBound store unroll lo = .ok lo' ∧
        ∃ hi', instantiateBound store unroll hi = .ok hi' ∧ range lo' hi' l = y := by
  show (instantiateBound store unroll lo >>= fun lo' =>
    instantiateBound store unroll hi >>= fun hi' => pure (range lo' hi' l)) = .ok y ↔ _
  simp only [bind_ok_iff, pure_ok_iff]

theorem instantiate_list {items : List Operand} {title : Option String} :
    (list items title l).instantiate store unroll = .ok y ↔
      ∃ items', materializeItems store items = .ok items' ∧ list items' none l = y := by
  show (materializeItems store items >>= fun items' => pure (list items' none l)) = .ok y ↔ _
  simp only [bind_ok_iff, pure_ok_iff]

theorem instantiate_group {x : Operand} :
    (group x l).instantiate store unroll = .ok y ↔
      ∃ x', x.instantiate store unroll = .ok x' ∧ group x' l = y := by
  show (x.instantiate store unroll >>= fun x' => pure (group x' l)) = .ok y ↔ _
  simp only [bind_ok_iff, pure_ok_iff]

theorem instantiate_neg {x : Operand} :
    (neg x l).instantiate store unroll = .ok y ↔
      ∃ x', x.instantiate store unroll = .ok x' ∧ neg x' l = y := by
  show (x.instantiate store unroll >>= fun x' => pure (neg x' l)) = .ok y ↔ _
  simp only [bind_ok_iff, pure_ok_iff]

theorem instantiate_arith {op : ArithOp} {a b : Operand} :
    (arith op a b l).instantiate store unroll = .ok y ↔
      ∃ a', a.instantiate store unroll = .ok a' ∧
        ∃ b', b.instantiate store unroll = .ok b' ∧ arith op a' b' l = y := by
  show (a.instantiate store unroll >>= fun a' =>
    b.instantiate store unroll >>= fun b' => pure (arith op a' b' l)) = .ok y ↔ _
  simp only [bind_ok_iff, pure_ok_iff]

/-- Without unrolling, a spread stays one. -/
theorem instantiate_spread_kept {x : Operand} :
    (spread x l).instantiate store false = .ok y ↔
      ∃ x', x.instantiate store false = .ok x' ∧ spread x' l = y := by
  show (x.instantiate store false >>= fun x' => pure (spread x' l)) = .ok y ↔ _
  simp only [bind_ok_iff, pure_ok_iff]

/-- With unrolling, a spread becomes the list of its elements. -/
theorem instantiate_spread_unrolled {x : Operand} :
    (spread x l).instantiate store true = .ok y ↔
      ∃ x', x.instantiate store true = .ok x' ∧
        ∃ items, x'.elements store = .ok items ∧ list items none l = y := by
  show (x.instantiate store true >>= fun x' => x'.elements store >>= fun items =>
    pure (list items none l)) = .ok y ↔ _
  simp only [bind_ok_iff, pure_ok_iff]

/-- The title, if the operand is a list. -/
def title? : Operand → Option String
  | list _ title _ => title
  | _ => none

/-- The label is kept, a title is not; and the kind is kept unless a spread is unrolled. -/
theorem outer_of_instantiate {x : Operand} (given : x.instantiate store unroll = .ok y) :
    y.label? = x.label? ∧ y.title? = none ∧ (unroll = false → y.kind = x.kind) := by
  cases x with
  | int n l | view v l =>
    cases given
    exact ⟨rfl, rfl, fun _ => rfl⟩
  | range lo hi l =>
    obtain ⟨lo', -, hi', -, rfl⟩ := instantiate_range.mp given
    exact ⟨rfl, rfl, fun _ => rfl⟩
  | list items title l =>
    obtain ⟨items', -, rfl⟩ := instantiate_list.mp given
    exact ⟨rfl, rfl, fun _ => rfl⟩
  | group x l =>
    obtain ⟨x', -, rfl⟩ := instantiate_group.mp given
    exact ⟨rfl, rfl, fun _ => rfl⟩
  | neg x l =>
    obtain ⟨x', -, rfl⟩ := instantiate_neg.mp given
    exact ⟨rfl, rfl, fun _ => rfl⟩
  | arith op a b l =>
    obtain ⟨a', -, b', -, rfl⟩ := instantiate_arith.mp given
    exact ⟨rfl, rfl, fun _ => rfl⟩
  | spread x l =>
    cases unroll with
    | true =>
      obtain ⟨x', -, items, -, rfl⟩ := instantiate_spread_unrolled.mp given
      exact ⟨rfl, rfl, fun kept => by cases kept⟩
    | false =>
      obtain ⟨x', -, rfl⟩ := instantiate_spread_kept.mp given
      exact ⟨rfl, rfl, fun _ => rfl⟩

/-- Either way, a spread has no value and is no range afterwards. -/
theorem kept_or_unrolled {x : Operand} (given : (spread x l).instantiate store unroll = .ok y) :
    (∃ x', y = spread x' l) ∨ ∃ items, y = list items none l := by
  cases unroll with
  | true =>
    obtain ⟨x', -, items, -, rfl⟩ := instantiate_spread_unrolled.mp given
    exact .inr ⟨items, rfl⟩
  | false =>
    obtain ⟨x', -, rfl⟩ := instantiate_spread_kept.mp given
    exact .inl ⟨x', rfl⟩

theorem instantiateBound_some {x : Operand} {bound : Option Operand} :
    instantiateBound store unroll (some x) = .ok bound ↔
      ∃ x', x.instantiate store unroll = .ok x' ∧ some x' = bound := by
  show (x.instantiate store unroll >>= fun x' => pure (some x')) = .ok bound ↔ _
  simp only [bind_ok_iff, pure_ok_iff]

theorem materializeItems_cons {x : Operand} {rest items : List Operand} :
    materializeItems store (x :: rest) = .ok items ↔
      ∃ x', x.instantiate store false = .ok x' ∧ ∃ here, spliced store x' = .ok here ∧
        ∃ others, materializeItems store rest = .ok others ∧ here ++ others = items := by
  show (x.instantiate store false >>= fun x' => spliced store x' >>= fun here =>
    materializeItems store rest >>= fun others => pure (here ++ others)) = .ok items ↔ _
  simp only [bind_ok_iff, pure_ok_iff]

end Operand

theorem TitledList.materialize_iff {σ : Type} [CellStore σ] {store : σ} {before after : TitledList} :
    before.materialize store = .ok after ↔
      ∃ items, Operand.materializeItems store before.items = .ok items ∧ { items } = after := by
  simp only [materialize, bind_ok_iff, pure_ok_iff]

end ArrayCells
