import ArrayCells.Proofs.RegionAssignment
import ArrayCells.Proofs.SameOperands

/-!
# What a region is assigned from

A region is assigned from one value, from a sequence or from an operand.  A single value has nothing
for any cell, which shows only if there is a cell.  A list is asked for the item at each position,
and a sequence has its values there; but only a sequence is asked how long it is.

* `Bound.assignRegion_congr`: right sides that have the same values at all positions;
* `Assignment.act_single_for_region`: the assignment of a single value, and
  `Assignment.single_for_empty_region`: the array that takes it;
* `RightSide.element_list`, `Assignment.act_list_take`: a list has the values of a sequence, as far
  as the region reaches;
* `Assignment.kind_of_enough`: what an assignment can fail for when the sequence is long enough;
* `Assignment.act_list`: the assignments of a list and of the sequence of its items, and
  `Assignment.list_longer_than_region`: a list for which they differ.
-/

namespace ArrayCells

open CellStore ArrayCells.Bound

/-! ### Single values -/

namespace Assignment

variable {σ : Type} [CellStore σ]

/-- **A single value is not assigned to a region**, and nothing changes.  The call says so when it
comes to the first cell; a region without cells leaves nothing to be refused. -/
theorem act_single_for_region (call : Assignment) {s : Bound σ} {shape : Shape} {content : Content}
    (array : s.binding.shape = some shape) (fit : shape.accepts call.indexes = true)
    (short : call.indexes.length < shape.dim) (single : call.value = .single content) :
    let lengths := shape.lengths.drop call.indexes.length
    call.act s =
      if 0 ∈ lengths then .ok () s
      else .error (.typeMismatch (.singleForRegion s.binding.name call.indexes lengths)) s := by
  intro lengths
  rw [call.act_of_short array fit short, assignRegion_eq, single, zipIdx_tuples]
  simp only [RightSide.excess?]
  by_cases empty : 0 ∈ lengths
  · rw [if_pos empty, volume_eq_zero_iff.mpr empty]
    rfl
  · obtain ⟨others, count⟩ := Nat.exists_eq_succ_of_ne_zero (mt volume_eq_zero_iff.mp empty)
    rw [if_neg empty, count, List.range'_succ, List.map_cons, Writing.forM_cons_apply,
      assignCell_eq]
    rfl

/-- A row of a matrix is not assigned a single value. -/
theorem act_single_for_region_row :
    let m : Binding :=
      { name := "m", typeName := "int", shape := some (.fresh [2, 3]), base := ⟨4⟩ }
    let s : Bound Memory := ⟨m, {}⟩
    let call : Assignment := { value := .single (.number 5), indexes := [1] }
    call.act s = .error (.typeMismatch (.singleForRegion "m" [1] [3])) s := by
  intro m s call
  have array : s.binding.shape = some (.fresh [2, 3]) := rfl
  have refused := act_single_for_region call array (by decide) (by decide) rfl
  exact refused.trans (if_neg (by decide))

/-- **An array without cells takes a single value.** -/
theorem single_for_empty_region :
    let v : Binding := { name := "v", typeName := "int", shape := some (.fresh [0]), base := ⟨0⟩ }
    let s : Bound Memory := ⟨v, {}⟩
    let call : Assignment := { value := .single (.number 5), indexes := [] }
    call.act s = .ok () s := rfl

end Assignment

/-! ### Lists and sequences -/

namespace Bound

variable {σ : Type} [CellStore σ]

/-- Right sides that have the same values at all positions are assigned alike. -/
theorem assignRegion_congr {value value' : RightSide} (t : List Int) (lengths : List Nat)
    (ctx : Context) (s : Bound σ) (excess : value.excess? lengths = value'.excess? lengths)
    (elements : ∀ k < volume lengths, ∀ (store : σ) name,
      value.element store name t lengths k (tupleAt lengths k) =
        value'.element store name t lengths k (tupleAt lengths k)) :
    assignRegion value t lengths ctx s = assignRegion value' t lengths ctx s := by
  have rounds : (tuples lengths).zipIdx.forM (assignCell value t lengths ctx : _ → Writing σ Unit) =
      (tuples lengths).zipIdx.forM (assignCell value' t lengths ctx) := by
    refine Writing.forM_congr fun cell member => ?_
    rw [zipIdx_tuples, List.mem_map] at member
    obtain ⟨k, inside, rfl⟩ := member
    rw [List.mem_range'_1] at inside
    funext s
    rw [assignCell_eq, assignCell_eq, elements k (by omega)]
  rw [assignRegion_eq, assignRegion_eq, excess, rounds]

end Bound

/-- At the positions below `n`, a list has the values of the sequence of its first `n` items. -/
theorem RightSide.element_list {σ : Type} [CellStore σ] (store : σ) (name : String) (t : List Int)
    (items : List Operand) (title label : Option String) {n k : Nat} (below : k < n) :
    (indexable (.list items title label)).element store name t [n] k (tupleAt [n] k) =
      (sequence ((items.take n).map .ofOperand)).element store name t [n] k (tupleAt [n] k) := by
  have value : ((items.take n).map Content.ofOperand)[k]? = items[k]?.map .ofOperand := by
    rw [List.getElem?_map, List.getElem?_take_of_lt below]
  simp only [element, tupleAt_singleton, Operand.item_list, value]
  cases found : items[k]? with
  | some x => rfl
  | none =>
    have ended : items.length ≤ k := List.getElem?_eq_none_iff.mp found
    rw [List.length_map, List.length_take, Nat.min_eq_right (by omega)]
    rfl

namespace Assignment

/-- The same call with the items of a list as a sequence. -/
def withItems (call : Assignment) (items : List Operand) : Assignment :=
  { call with value := .sequence (items.map .ofOperand) }

/-- **A list is assigned as the sequence of its first items**, as many as the region has cells. -/
theorem act_list_take {σ : Type} [CellStore σ] (call : Assignment) {s : Bound σ} {shape : Shape}
    {n : Nat} {items : List Operand} {title label : Option String}
    (array : s.binding.shape = some shape) (fit : shape.accepts call.indexes = true)
    (opened : shape.lengths.drop call.indexes.length = [n])
    (listed : call.value = .indexable (.list items title label)) :
    call.act s = (call.withItems (items.take n)).act s := by
  have short : call.indexes.length < shape.dim := short_of_drop opened
  have noExcess : ¬ volume [n] < ((items.take n).map Content.ofOperand).length := by
    rw [List.length_map, List.length_take, volume_singleton]
    omega
  rw [call.act_of_short array fit short,
    (call.withItems (items.take n)).act_of_short array fit short, listed]
  show assignRegion _ call.indexes (shape.lengths.drop call.indexes.length) _ s =
    assignRegion (.sequence _) call.indexes (shape.lengths.drop call.indexes.length) _ s
  rw [opened]
  refine assignRegion_congr _ _ _ s ?_ fun k below store name => ?_
  · simp only [RightSide.excess?, if_neg noExcess]
  · rw [volume_singleton] at below
    exact RightSide.element_list store name call.indexes items title label below

/-- A sequence with more values than a one-dimensional region has cells is refused at once. -/
theorem withItems_of_longer {σ : Type} [CellStore σ] (call : Assignment) {s : Bound σ}
    {shape : Shape} {n : Nat} {items : List Operand} (array : s.binding.shape = some shape)
    (fit : shape.accepts call.indexes = true)
    (opened : shape.lengths.drop call.indexes.length = [n]) (longer : n < items.length) :
    (call.withItems items).act s =
      .error (.typeMismatch
        (.sequenceTooLong items.length s.binding.name call.indexes [n])) s := by
  have excess : volume [n] < items.length := by
    rw [volume_singleton]
    exact longer
  rw [(call.withItems items).act_of_short array fit (short_of_drop opened), assignRegion_eq]
  simp only [withItems, opened, RightSide.excess?, List.length_map, if_pos excess]

/-- **With as many values as cells**, nothing can be in the way but what was written before. -/
theorem kind_of_enough (call : Assignment) {s s' : Bound Memory} {shape : Shape} {fault : Fault}
    {contents : List Content} (array : s.binding.shape = some shape)
    (fit : shape.accepts call.indexes = true) (short : call.indexes.length < shape.dim)
    (sequence : call.value = .sequence contents)
    (enough : contents.length = volume (shape.lengths.drop call.indexes.length))
    (failed : call.act s = .error fault s') :
    fault.kind = .doubleInitialization ∨ fault.kind = .constViolation := by
  have noExcess : call.value.excess? (shape.lengths.drop call.indexes.length) = none := by
    rw [sequence, RightSide.excess?, if_neg (by omega)]
  have viewless : call.value.AllViews fun _ => False := by
    rw [sequence]
    trivial
  obtain ⟨n, s₂, -, -, -, ⟨-, done⟩ | ⟨below, fault', obstacle, stopped⟩⟩ :=
    call.act_fills array fit short (call.steady_of_viewless s _ _ viewless) noExcess
  · rw [done] at failed
    cases failed
  · rw [stopped] at failed
    cases failed
    have given : contents[n]? = some contents[n] := List.getElem?_eq_getElem (by omega)
    rw [obstacle?, source, sequence] at obstacle
    simp only [RightSide.element, given] at obstacle
    exact Binding.kind_of_refusal obstacle

/-- **A list is assigned as the sequence of its items if it fits.**  The two calls then do exactly
the same, also if the list is too short.  A list that is too long is assigned as far as the region
reaches, and the rest of it is dropped; the sequence is refused, so the calls never end alike. -/
theorem act_list (call : Assignment) {s : Bound Memory} {shape : Shape} {n : Nat}
    {items : List Operand} {title label : Option String} (array : s.binding.shape = some shape)
    (fit : shape.accepts call.indexes = true)
    (opened : shape.lengths.drop call.indexes.length = [n])
    (listed : call.value = .indexable (.list items title label)) :
    (items.length ≤ n → call.act s = (call.withItems items).act s) ∧
      (n < items.length → call.act s = (call.withItems (items.take n)).act s ∧
        (call.withItems items).act s =
          .error (.typeMismatch
            (.sequenceTooLong items.length s.binding.name call.indexes [n])) s ∧
        ¬ EndsAgree Fault.SameKind Eq (call.act s) ((call.withItems items).act s)) := by
  have taken := call.act_list_take array fit opened listed
  refine ⟨fun enough => ?_, fun longer => ?_⟩
  · rw [taken, List.take_of_length_le enough]
  · have refused := call.withItems_of_longer array fit opened longer
    refine ⟨taken, refused, fun agree => ?_⟩
    rw [taken, refused] at agree
    have enough : ((items.take n).map Content.ofOperand).length =
        volume (shape.lengths.drop call.indexes.length) := by
      rw [opened, List.length_map, List.length_take, volume_singleton]
      omega
    cases ended : (call.withItems (items.take n)).act s with
    | ok _ s' =>
      rw [ended] at agree
      cases agree
    | error fault s' =>
      have kind := kind_of_enough (call.withItems (items.take n)) array fit (short_of_drop opened)
        rfl enough ended
      rw [ended] at agree
      cases agree with
      | error same =>
        have mismatch : fault.kind = .typeMismatch := same
        rw [mismatch] at kind
        obtain kind | kind := kind <;> cases kind

/-- The second row of a matrix, from a list that has an item too many. -/
theorem act_list_row :
    let m : Binding :=
      { name := "m", typeName := "int", shape := some (.fresh [2, 3]), base := ⟨4⟩ }
    let s : Bound Memory := ⟨m, { next := 10 }⟩
    let items : List Operand := [.int 5, .group (.int 6), .int 7, .int 8]
    let call : Assignment := { value := .indexable (.list items), indexes := [1] }
    call.act s = (call.withItems [.int 5, .group (.int 6), .int 7]).act s ∧
      ¬ EndsAgree Fault.SameKind Eq (call.act s) ((call.withItems items).act s) := by
  intro m s items call
  have array : s.binding.shape = some (.fresh [2, 3]) := rfl
  have longer := (act_list call array (by decide) rfl rfl).2 (by decide)
  exact ⟨longer.1, longer.2.2⟩

/-- **The last item of a list is dropped.**  The array has two cells.  It is assigned a list of
three items, and the sequence of the same items is refused. -/
theorem list_longer_than_region :
    let v : Binding := { name := "v", typeName := "int", shape := some (.fresh [2]), base := ⟨0⟩ }
    let s : Bound Memory := ⟨v, { next := 2 }⟩
    let asList : Assignment :=
      { value := .indexable (.list [.int 1, .int 2, .int 3]), indexes := [] }
    let asSequence : Assignment :=
      { value := .sequence [.number 1, .number 2, .number 3], indexes := [] }
    (∃ s', asList.act s = .ok () s') ∧
      asSequence.act s = .error (.typeMismatch (.sequenceTooLong 3 "v" [] [2])) s :=
  ⟨⟨_, rfl⟩, rfl⟩

end Assignment

end ArrayCells
