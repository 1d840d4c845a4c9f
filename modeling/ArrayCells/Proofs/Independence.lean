import ArrayCells.Proofs.Footprint
import ArrayCells.Proofs.LastWriter
import ArrayCells.Proofs.SingleWrites

/-!
# Calls that do not concern each other

Two calls through bindings over one store are independent if no cell or row is a target of both.
Each of them then does the same before and after the other: it makes the same writes and gives the
same answer, also where it stops midway.  The writes of the two commute, in the cells, in the rows
and in the records, so the order of the calls cannot be told from the state that they leave.

* `Sharing.ext_of_holds`: a family is known by what it holds and by its records;
* `Sharing.Wrote`: one family comes from another by a list of writes through one of the bindings;
* `Sharing.Wrote.comm`: writes with different targets commute;
* `Sharing.independent`: so do independent calls, each with the same answer in both orders.
-/

namespace ArrayCells

open CellStore ArrayCells.Bound

namespace Sharing

variable {ι : Type} [DecidableEq ι]

/-- Two families of the same bindings that hold the same and have the same records are the same. -/
theorem ext_of_holds {ι : Type} {g g' : Sharing ι}
    (cleared : ∀ k, (g.binding k).cleared = (g'.binding k).cleared)
    (entries : ∀ k e, (g.binding k).holds e = (g'.binding k).holds e)
    (held : ∀ a, readAt g.store a = readAt g'.store a)
    (packsRows : g.store.packsRows = g'.store.packsRows) (next : g.store.next = g'.store.next) :
    g = g' := by
  rcases g with ⟨binding, store⟩
  rcases g' with ⟨binding', store'⟩
  have bindings : binding = binding' :=
    funext fun k => Binding.ext_of_holds (cleared k) (entries k)
  have stores : store = store' := Memory.ext_of_readAt held packsRows next
  rw [bindings, stores]

/-- The second family comes from the first by the listed writes through one of the bindings. -/
structure Wrote (g : Sharing ι) (i : ι) (writes : List (Address × Content)) (g' : Sharing ι) :
    Prop where
  cleared : ∀ k, (g'.binding k).cleared = (g.binding k).cleared
  holds : ∀ k e, (g'.binding k).holds e =
    ((g.binding k).holds e ||
      (decide (k = i) && writes.any fun w => decide (e = (g.binding k).entryOf w.1)))
  readAt : ∀ a, readAt g'.store a = (latest? writes a).or (readAt g.store a)
  packsRows : g'.store.packsRows = g.store.packsRows
  next : g'.store.next = g.store.next

/-- The call through a binding of the family writes what it leaves as its trail. -/
theorem wrote_after (g : Sharing ι) (i : ι) (call : Assignment) {forced : Bool}
    {writes : List (Address × Content)}
    (trail : Trail forced (g.bound i) writes (call.after (g.bound i))) :
    Wrote g i writes (g.after i call) where
  cleared := g.after_cleared i call
  holds k e := by
    by_cases same : k = i
    · subst same
      rw [binding_after_self, trail.holds, decide_eq_true rfl, Bool.true_and]
      rfl
    · rw [binding_after_of_ne g call same, decide_eq_false same, Bool.false_and, Bool.or_false]
  readAt := trail.readAt_eq
  packsRows := trail.hasRows
  next := trail.next

/-- **Writes with different targets commute.** -/
theorem Wrote.comm {g g₁ g₂ g₁₂ g₂₁ : Sharing ι} {i j : ι}
    {writes writes' : List (Address × Content)} (first : Wrote g i writes g₁)
    (second : Wrote g₁ j writes' g₁₂) (first' : Wrote g j writes' g₂)
    (second' : Wrote g₂ i writes g₂₁)
    (apart : ∀ a ∈ writes.map Prod.fst, a ∉ writes'.map Prod.fst) : g₁₂ = g₂₁ := by
  refine ext_of_holds (fun k => ?_) (fun k e => ?_) (fun a => ?_) ?_ ?_
  · rw [second.cleared, first.cleared, second'.cleared, first'.cleared]
  · simp only [second.holds, first.holds, second'.holds, first'.holds,
      Binding.entryOf_congr (first.cleared k), Binding.entryOf_congr (first'.cleared k)]
    exact Bool.or_right_comm _ _ _
  · -- at most one of the two has written the address, so the order does not matter
    rw [second.readAt, first.readAt, second'.readAt, first'.readAt]
    by_cases written : a ∈ writes.map Prod.fst
    · rw [latest?_of_not_mem (apart a written), Option.none_or, Option.none_or]
    · rw [latest?_of_not_mem written, Option.none_or, Option.none_or]
  · rw [second.packsRows, first.packsRows, second'.packsRows, first'.packsRows]
  · rw [second.next, first.next, second'.next, first'.next]

/-! ### Independent calls -/

/-- What a call through one of the bindings gives or fails with. -/
def answer (g : Sharing ι) (i : ι) (call : Assignment) : Except Fault Unit :=
  Writing.answer call.act (g.bound i)

/-- The cells and rows that a call through one of the bindings can write. -/
def targets (g : Sharing ι) (i : ι) (call : Assignment) : Address → Prop :=
  (g.binding i).Targets (hasRows g.store) call.indexes

/-- The tuple of the call leads somewhere through the binding, and its source reads no cell. -/
structure Addressed (g : Sharing ι) (i : ι) (call : Assignment) : Prop where
  leads : ∃ target, (g.binding i).target (hasRows g.store) call.indexes = .ok target
  viewless : call.value.AllViews fun _ => False

/-- After a call, a binding has recorded nothing new in a region that the call did not write. -/
theorem agreeWithin_after (g : Sharing ι) (i j : ι) (call : Assignment) {region : Address → Prop}
    {forced : Bool} {writes : List (Address × Content)}
    (trail : Trail forced (g.bound j) writes (call.after (g.bound j)))
    (untouched : ∀ a, region a → a ∉ writes.map Prod.fst) :
    AgreeWithin (g.binding i) (hasRows g.store) region (g.bound i) ((g.after j call).bound i) where
  cleared := rfl
  cleared' := g.after_cleared j call i
  hasRows := rfl
  hasRows' := g.after_hasRows j call
  recorded a inside := by
    show ((g.after j call).binding i).recorded a = (g.binding i).recorded a
    by_cases same : i = j
    · subst same
      rw [binding_after_self, Bool.eq_iff_iff]
      exact (trail.recorded_iff a).trans (or_iff_left (untouched a inside))
    · rw [binding_after_of_ne g call same]

/-- **A call does the same after another one** that has no target in common with it. -/
theorem alongside_after (g : Sharing ι) {i j : ι} {call call' : Assignment}
    (addressed : g.Addressed i call) (addressed' : g.Addressed j call')
    (apart : ∀ a, g.targets i call a → ¬ g.targets j call' a) :
    EndsAlongside (g.targets i call) call.forced (g.bound i) ((g.after j call').bound i)
      (call.act (g.bound i)) (call.act ((g.after j call').bound i)) := by
  obtain ⟨target, leads⟩ := addressed.leads
  obtain ⟨target', leads'⟩ := addressed'.leads
  -- The other call, run beside itself, shows that all of its writes are among its targets.
  have itself : AgreeWithin (g.binding j) (hasRows g.store) (g.targets j call') (g.bound j)
      (g.bound j) := ⟨rfl, rfl, rfl, rfl, fun _ _ => rfl⟩
  obtain ⟨writes, within, trail, -⟩ :=
    (call'.alongside addressed'.viewless leads' itself).sameWrites
  have agree := g.agreeWithin_after i j call' trail
    fun a inside written => apart a inside (within a written)
  exact call.alongside addressed.viewless leads agree

/-- **Independent calls commute.**  Two calls, through two bindings over one store or through the
same one, may be made in either order if no cell or row is a target of both.  Each call gives the
same answer in both orders, and the orders leave the same contents and the same records. -/
theorem independent (g : Sharing ι) (i j : ι) (call call' : Assignment)
    (addressed : g.Addressed i call) (addressed' : g.Addressed j call')
    (apart : ∀ a, g.targets i call a → ¬ g.targets j call' a) :
    (g.after j call').answer i call = g.answer i call ∧
      (g.after i call).answer j call' = g.answer j call' ∧
      (g.after i call).after j call' = (g.after j call').after i call := by
  have left := g.alongside_after addressed addressed' apart
  have right := g.alongside_after addressed' addressed
    fun a inside inside' => apart a inside' inside
  obtain ⟨writes, within, trail, trailAfter⟩ := left.sameWrites
  obtain ⟨writes', within', trail', trailAfter'⟩ := right.sameWrites
  have unshared : ∀ a ∈ writes.map Prod.fst, a ∉ writes'.map Prod.fst :=
    fun a written written' => apart a (within a written) (within' a written')
  have commute := (g.wrote_after i call trail).comm
    ((g.after i call).wrote_after j call' trailAfter') (g.wrote_after j call' trail')
    ((g.after j call').wrote_after i call trailAfter) unshared
  exact ⟨left.answer_eq, right.answer_eq, commute⟩

/-- A line of four cells and a table of two by two begin one cell apart.  A sequence for the first
row of the table has to be the first value there, and stops at the second cell, which was written
before.  Meanwhile, a packed row is written through the line, under the first cell of the table. -/
theorem independent_overlap :
    let line : Binding :=
      { name := "a", typeName := "int", shape := some (.fresh [4]), base := ⟨3⟩ }
    let table : Binding :=
      { name := "b", typeName := "int", shape := some (.fresh [2, 2]), base := ⟨4⟩ }
    let start : Sharing Bool :=
      ⟨fun i => if i then table else line, { packsRows := true, next := 8 }⟩
    let g := start.after true { value := .single (.number 7), indexes := [0, 1] }
    let call : Assignment :=
      { value := .sequence [.number 8, .number 9], indexes := [0], first := true }
    let call' : Assignment := { value := .single (.number 5), indexes := [1, 6] }
    (g.after false call').answer true call = .error (.doubleInitialization "b" [0, 1]) ∧
      (g.after true call).answer false call' = .ok () ∧
      (g.after true call).after false call' = (g.after false call').after true call := by
  intro line table start g call call'
  have addressed : g.Addressed true call := ⟨⟨.indexed ⟨4⟩, rfl⟩, trivial⟩
  have addressed' : g.Addressed false call' := ⟨⟨.row ⟨4⟩ 6, rfl⟩, trivial⟩
  obtain ⟨shape, array, lengths⟩ :
      ∃ shape, (g.binding true).shape = some shape ∧ shape.lengths = [2, 2] := ⟨_, rfl, rfl⟩
  have fit : shape.accepts call.indexes = true := by
    rw [Shape.accepts, lengths]
    rfl
  have short : call.indexes.length < shape.dim := by
    rw [Shape.dim, lengths]
    decide
  have row : (g.binding false).Selects true [1, 6] (.row ⟨⟨4⟩, 6⟩) := by
    have cell : (Shape.fresh [4]).accepts [1] = true := rfl
    exact .elementRow rfl cell rfl rfl
  have apart (a : Address) (target : g.targets true call a) : ¬ g.targets false call' a := by
    obtain ⟨k, -, rfl⟩ := (Binding.targets_iff_of_short array fit short).mp target
    intro target'
    cases row.targets_iff.mp target'
  have stops : g.answer true call = .error (.doubleInitialization "b" [0, 1]) := by cbv
  have done : g.answer false call' = .ok () := rfl
  obtain ⟨same, same', commute⟩ := g.independent true false call call' addressed addressed' apart
  exact ⟨same.trans stops, same'.trans done, commute⟩

end Sharing

end ArrayCells
