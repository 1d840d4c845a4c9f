import Mathlib.Algebra.GroupWithZero.Nat
import Mathlib.Data.List.Forall2
import ArrayCells.Proofs.Marks

/-!
# The numbering of the cells

The tuples of an array are listed in lexicographic order, and a cell is numbered by the place of its
tuple in the list.  Numbers are found from tuples and tuples from numbers, both through the lengths
of the dimensions; a region is an interval of numbers.

* `rank_eq_strides`: the number is a sum over the strides, which a loop from the last dimension on
  collects;
* `digits_of_listed`: the tuple is read off the remainders when the number is divided by the lengths,
  the last one first;
* `mem_tuples_iff`, `pairwise_tuples`: the listing has every tuple within the lengths, in
  lexicographic order;
* `TupleCursor.next?_skip`, `TupleCursor.remaining_skip`: a cursor steps through the listing and
  knows how many tuples are left;
* `Shape.CellBelow`: the cells of a region, which are numbered consecutively;
* `Shape.offset_numbers`: all of it for the offsets of a shape.
-/

namespace ArrayCells

open Shape (fits)

/-! ### From tuples to numbers and back -/

theorem volume_eq_prod (lengths : List Nat) : volume lengths = lengths.prod := by
  induction lengths with
  | nil => rfl
  | cons n lengths ih => rw [volume, List.prod_cons, ih]

/-- How far the cells of one dimension lie apart, for every dimension.  The loop goes from the last
dimension to the first and carries the stride that comes next. -/
def strides (lengths : List Nat) : List Nat :=
  (lengths.foldr (fun n later => (later.2 :: later.1, n * later.2)) ([], 1)).1

theorem foldr_strides (lengths : List Nat) :
    lengths.foldr (fun n later => (later.2 :: later.1, n * later.2)) ([], 1) =
      (strides lengths, volume lengths) := by
  induction lengths with
  | nil => rfl
  | cons n lengths ih =>
    rw [strides, List.foldr_cons, ih]
    rfl

theorem strides_cons (n : Nat) (lengths : List Nat) :
    strides (n :: lengths) = volume lengths :: strides lengths := by
  rw [strides, List.foldr_cons, foldr_strides]

/-- **The number of a tuple** counts every index as often as its stride says. -/
theorem rank_eq_strides (lengths : List Nat) (t : List Int) :
    rank lengths t = (List.zipWith (fun i stride => i.toNat * stride) t (strides lengths)).sum := by
  induction lengths generalizing t with
  | nil => cases t <;> rfl
  | cons n lengths ih =>
    rw [strides_cons]
    cases t with
    | nil => rfl
    | cons i t => rw [rank, ih, List.zipWith_cons_cons, List.sum_cons]

/-- The remainders of a number that is divided by the lengths one after the other, the last one
first, and what is left of the number in the end. -/
def digits (lengths : List Nat) (k : Nat) : List Int × Nat :=
  lengths.foldr (fun n later => (((later.2 % n : Nat) : Int) :: later.1, later.2 / n)) ([], k)

theorem digits_eq_tupleAt (lengths : List Nat) (k : Nat) :
    digits lengths k = (tupleAt lengths (k % volume lengths), k / volume lengths) := by
  induction lengths with
  | nil =>
    rw [volume, Nat.div_one]
    rfl
  | cons n lengths ih =>
    have outer : k % (n * volume lengths) / volume lengths = k / volume lengths % n :=
      Nat.mod_mul_left_div_self k (volume lengths) n
    have inner : k % (n * volume lengths) % volume lengths = k % volume lengths :=
      Nat.mod_mul_left_mod k n (volume lengths)
    have left : k / volume lengths / n = k / (n * volume lengths) := by
      rw [Nat.div_div_eq_div_mul, Nat.mul_comm]
    rw [digits] at ih
    rw [digits, List.foldr_cons, ih, volume, tupleAt, outer, inner, left]

/-- **The tuple of a number** has the remainders as indexes, and nothing is left of the number. -/
theorem digits_eq {lengths : List Nat} {k : Nat} (below : k < volume lengths) :
    digits lengths k = (tupleAt lengths k, 0) := by
  rw [digits_eq_tupleAt, Nat.mod_eq_of_lt below, Nat.div_eq_of_lt below]

theorem tupleAt_rank {lengths : List Nat} {t : List Int} (fit : fits t lengths = true)
    (full : t.length = lengths.length) : tupleAt lengths (rank lengths t) = t := by
  have below := rank_lt_volume fit full
  exact rank_injective (tupleAt_fits below) fit (length_tupleAt lengths _) full (rank_tupleAt below)

/-- Numbers in blocks of the same size are ordered by the block first. -/
theorem block_lt_iff {a b r s size : Nat} (hr : r < size) (hs : s < size) :
    a * size + r < b * size + s ↔ a < b ∨ a = b ∧ r < s := by
  rcases Nat.lt_trichotomy a b with less | rfl | greater
  · have room : (a + 1) * size ≤ b * size := Nat.mul_le_mul_right size less
    rw [Nat.add_mul, Nat.one_mul] at room
    omega
  · omega
  · have room : (b + 1) * size ≤ a * size := Nat.mul_le_mul_right size greater
    rw [Nat.add_mul, Nat.one_mul] at room
    omega

/-- **Numbering keeps the order**: a tuple comes before another one in lexicographic order if its
number is lower. -/
theorem rank_lt_rank_iff {lengths : List Nat} {s t : List Int}
    (hs : fits s lengths = true) (ht : fits t lengths = true)
    (fullS : s.length = lengths.length) (fullT : t.length = lengths.length) :
    rank lengths s < rank lengths t ↔ s < t := by
  induction lengths generalizing s t with
  | nil =>
    rw [List.eq_nil_of_length_eq_zero fullS, List.eq_nil_of_length_eq_zero fullT]
    exact iff_of_false (Nat.lt_irrefl _) (List.lt_irrefl _)
  | cons n lengths ih =>
    obtain ⟨i, s, rfl⟩ := List.exists_cons_of_length_eq_add_one fullS
    obtain ⟨j, t, rfl⟩ := List.exists_cons_of_length_eq_add_one fullT
    obtain ⟨⟨hi, -⟩, hs⟩ := (fits_cons i s n lengths).mp hs
    obtain ⟨⟨hj, -⟩, ht⟩ := (fits_cons j t n lengths).mp ht
    simp only [List.length_cons, Nat.add_right_cancel_iff] at fullS fullT
    have first : i.toNat < j.toNat ↔ i < j := by omega
    have same : i.toNat = j.toNat ↔ i = j := by omega
    rw [rank, rank, block_lt_iff (rank_lt_volume hs fullS) (rank_lt_volume ht fullT), first, same,
      ih hs ht fullS fullT, List.cons_lt_cons_iff]

/-! ### The listing -/

/-- Every index of the tuple is at least zero and below the length of its dimension, and no index
is missing or left over. -/
def TupleOf (lengths : List Nat) (t : List Int) : Prop :=
  List.Forall₂ (fun (i : Int) (n : Nat) => 0 ≤ i ∧ i < n) t lengths

theorem tupleOf_iff {lengths : List Nat} {t : List Int} :
    TupleOf lengths t ↔ fits t lengths = true ∧ t.length = lengths.length := by
  induction lengths generalizing t with
  | nil =>
    rw [TupleOf, List.forall₂_nil_right_iff]
    constructor
    · rintro rfl
      exact ⟨rfl, rfl⟩
    · rintro ⟨-, full⟩
      exact List.eq_nil_of_length_eq_zero full
  | cons n lengths ih =>
    cases t with
    | nil =>
      refine iff_of_false ?_ ?_
      · intro within
        cases within
      · rintro ⟨-, full⟩
        cases full
    | cons i t =>
      rw [TupleOf, List.forall₂_cons, ← TupleOf, ih, fits_cons, List.length_cons, List.length_cons,
        Nat.add_right_cancel_iff]
      exact and_assoc.symm

theorem tuples_eq_some_iff {lengths : List Nat} {k : Nat} {t : List Int} :
    (tuples lengths)[k]? = some t ↔ TupleOf lengths t ∧ rank lengths t = k := by
  rw [getElem?_tuples, tupleOf_iff]
  constructor
  · intro listed
    split at listed
    · rename_i below
      cases listed
      exact ⟨⟨tupleAt_fits below, length_tupleAt lengths k⟩, rank_tupleAt below⟩
    · cases listed
  · rintro ⟨⟨fit, full⟩, rfl⟩
    rw [if_pos (rank_lt_volume fit full), tupleAt_rank fit full]

/-- **The tuple at a place of the listing** is read off the remainders of the place. -/
theorem digits_of_listed {lengths : List Nat} {k : Nat} {t : List Int}
    (listed : (tuples lengths)[k]? = some t) : digits lengths k = (t, 0) := by
  rw [getElem?_tuples] at listed
  split at listed
  · rename_i below
    cases listed
    exact digits_eq below
  · cases listed

/-- **The listing is complete**: it has the tuples within the lengths and no others. -/
theorem mem_tuples_iff {lengths : List Nat} {t : List Int} :
    t ∈ tuples lengths ↔ TupleOf lengths t := by
  rw [List.mem_iff_getElem?]
  constructor
  · rintro ⟨k, listed⟩
    exact (tuples_eq_some_iff.mp listed).1
  · intro within
    exact ⟨rank lengths t, tuples_eq_some_iff.mpr ⟨within, rfl⟩⟩

/-- **The listing is in lexicographic order.** -/
theorem pairwise_tuples (lengths : List Nat) : (tuples lengths).Pairwise (· < ·) := by
  rw [List.pairwise_iff_getElem]
  intro j k hj hk before
  have first := tuples_eq_some_iff.mp (List.getElem?_eq_getElem hj)
  have second := tuples_eq_some_iff.mp (List.getElem?_eq_getElem hk)
  obtain ⟨fitS, fullS⟩ := tupleOf_iff.mp first.1
  obtain ⟨fitT, fullT⟩ := tupleOf_iff.mp second.1
  rw [← rank_lt_rank_iff fitS fitT fullS fullT, first.2, second.2]
  exact before

theorem nodup_tuples (lengths : List Nat) : (tuples lengths).Nodup := by
  refine (pairwise_tuples lengths).imp fun {s t} before same => ?_
  subst same
  exact List.lt_irrefl s before

namespace TupleCursor

variable (lengths : List Nat)

/-- Skipping stops at the end. -/
theorem skip_eq {next : Nat} (within : next ≤ volume lengths) (count : Nat) :
    skip ⟨lengths, next⟩ count = ⟨lengths, min (next + count) (volume lengths)⟩ := by
  induction count generalizing next with
  | zero => rw [skip, Nat.add_zero, Nat.min_eq_left within]
  | succ count ih =>
    rw [skip, next?]
    by_cases below : next < volume lengths
    · simp only [if_pos below]
      rw [ih below]
      congr 2
      omega
    · simp only [if_neg below]
      congr 1
      omega

theorem skip_start (count : Nat) :
    (start lengths).skip count = ⟨lengths, min count (volume lengths)⟩ := by
  rw [start, skip_eq lengths (Nat.zero_le _), Nat.zero_add]

/-- **A cursor knows how many tuples are left.** -/
theorem remaining_skip (count : Nat) :
    ((start lengths).skip count).remaining = volume lengths - count := by
  rw [skip_start, remaining]
  show volume lengths - min count (volume lengths) = volume lengths - count
  omega

/-- **A cursor steps through the listing**, and ends after it. -/
theorem next?_skip (count : Nat) :
    ((start lengths).skip count).next? =
      (tuples lengths)[count]?.map fun t => (t, (start lengths).skip (count + 1)) := by
  rw [getElem?_tuples, skip_start, skip_start, next?]
  by_cases below : count < volume lengths
  · have here : min count (volume lengths) = count := Nat.min_eq_left (Nat.le_of_lt below)
    have after : min (count + 1) (volume lengths) = count + 1 := Nat.min_eq_left below
    simp only [here, after, if_pos below, Option.map_some]
  · have last : min count (volume lengths) = volume lengths := by omega
    simp only [last, Nat.lt_irrefl, if_neg below, if_false, Option.map_none]

end TupleCursor

/-! ### Offsets -/

namespace Shape

/-- The tuple addresses a single cell, and its indexes begin with the given ones. -/
structure CellBelow (shape : Shape) (p t : List Int) : Prop where
  fit : shape.accepts t = true
  full : t.length = shape.dim
  begins : p <+: t

theorem CellBelow.ne_nil {shape : Shape} {p t : List Int} (h : shape.CellBelow p t)
    (nonempty : p ≠ []) : t ≠ [] := by
  rintro rfl
  exact nonempty (List.prefix_nil.mp h.begins)

theorem cellBelow_congr {shape shape' : Shape} (lengths : shape'.lengths = shape.lengths)
    {p t : List Int} : shape'.CellBelow p t ↔ shape.CellBelow p t := by
  constructor
  · rintro ⟨fit, full, begins⟩
    exact ⟨by rwa [accepts, lengths] at fit, by rwa [dim, lengths] at full, begins⟩
  · rintro ⟨fit, full, begins⟩
    exact ⟨by rwa [accepts, lengths], by rwa [dim, lengths], begins⟩

/-- The cells below a tuple are numbered from its rank on. -/
theorem CellBelow.exists_rank {shape : Shape} {p t : List Int} (h : shape.CellBelow p t) :
    ∃ k, k < shape.regionSize p.length ∧ rank shape.lengths t = rank shape.lengths p + k := by
  obtain ⟨q, rfl⟩ := h.begins
  have both := h.fit
  rw [accepts, fits_append, Bool.and_eq_true] at both
  have full : q.length = (shape.lengths.drop p.length).length := by
    have whole := h.full
    rw [List.length_append, dim] at whole
    rw [List.length_drop]
    omega
  exact ⟨_, rank_lt_volume both.2 full, rank_append _ _ _⟩

/-- Every number in the region of a tuple is that of a cell below it. -/
theorem exists_cellBelow {shape : Shape} {p : List Int} (fit : shape.accepts p = true) {k : Nat}
    (below : k < shape.regionSize p.length) :
    ∃ t, shape.CellBelow p t ∧ rank shape.lengths t = rank shape.lengths p + k := by
  have within : p.length ≤ shape.lengths.length := length_le_of_fits fit
  refine ⟨p ++ tupleAt (shape.lengths.drop p.length) k, ⟨?_, ?_, List.prefix_append _ _⟩, ?_⟩
  · rw [accepts, fits_append, Bool.and_eq_true]
    exact ⟨fit, tupleAt_fits below⟩
  · rw [List.length_append, length_tupleAt, List.length_drop, dim]
    omega
  · rw [rank_append, rank_tupleAt below]

theorem offset_ok_iff {shape : Shape} {t : List Int} {k : Nat} :
    shape.offset t = .ok k ↔ shape.accepts t = true ∧ rank shape.lengths t = k := by
  rw [offset]
  exact ite_ok_iff

/-- An offset is given exactly for the tuples that fit. -/
theorem exists_offset_iff {shape : Shape} {t : List Int} :
    (∃ k, shape.offset t = .ok k) ↔ shape.accepts t = true := by
  constructor
  · rintro ⟨k, given⟩
    exact (offset_ok_iff.mp given).1
  · intro fit
    exact ⟨_, offset_of_accepts fit⟩

/-- **The place of a tuple in the listing is its offset.** -/
theorem tuples_eq_some_iff {shape : Shape} {k : Nat} {t : List Int} :
    (tuples shape.lengths)[k]? = some t ↔ shape.isFull t = true ∧ shape.offset t = .ok k := by
  rw [ArrayCells.tuples_eq_some_iff, tupleOf_iff, offset_ok_iff, isFull_iff, accepts, dim,
    and_assoc]
  exact and_left_comm

/-- **Every number below the size is the offset of exactly one cell.** -/
theorem existsUnique_offset {shape : Shape} {k : Nat} (below : k < shape.size) :
    ∃! t, shape.isFull t = true ∧ shape.offset t = .ok k := by
  have listed : (tuples shape.lengths)[k]? = some (tupleAt shape.lengths k) := by
    rw [size, shape.length_marks] at below
    rw [getElem?_tuples, if_pos below]
  refine ⟨tupleAt shape.lengths k, tuples_eq_some_iff.mp listed, fun t given => ?_⟩
  have same := (tuples_eq_some_iff.mpr given).symm.trans listed
  exact Option.some.inj same

/-- **A region is an interval**: the cells below a tuple have the consecutive offsets from its own
on. -/
theorem offset_cellBelow_iff {shape : Shape} {p : List Int} {first : Nat}
    (begins : shape.offset p = .ok first) (k : Nat) :
    (∃ t, shape.CellBelow p t ∧ shape.offset t = .ok k) ↔
      first ≤ k ∧ k < first + (shape.lengths.drop p.length).prod := by
  obtain ⟨fit, rfl⟩ := offset_ok_iff.mp begins
  have room : shape.regionSize p.length = (shape.lengths.drop p.length).prod := volume_eq_prod _
  rw [← room]
  constructor
  · rintro ⟨t, cell, given⟩
    obtain ⟨j, below, number⟩ := cell.exists_rank
    obtain ⟨-, rfl⟩ := offset_ok_iff.mp given
    omega
  · rintro ⟨low, high⟩
    obtain ⟨j, rfl⟩ := Nat.exists_eq_add_of_le low
    obtain ⟨t, cell, number⟩ := exists_cellBelow fit (Nat.lt_of_add_lt_add_left high)
    exact ⟨t, cell, offset_ok_iff.mpr ⟨cell.fit, number⟩⟩

/-- **Offsets number the cells in lexicographic order.**  The listing has as many tuples as there
are cells: exactly those within the lengths, each of them once, in lexicographic order.  A cursor
steps through it and knows at every point how many tuples are left.  The offset of a tuple is its
place in the listing, and the tuple at a place is read off the remainders when the place is divided
by the lengths, the last one first, with nothing left in the end.  So every number below the size is
the offset of exactly one cell, and the order is kept.  The cells below a tuple have the consecutive
offsets from its own on, as many as the lengths left open make.  An offset is given exactly for the
tuples that fit. -/
theorem offset_numbers (shape : Shape) :
    let listing := tuples shape.lengths
    (listing.length = shape.lengths.prod ∧ shape.size = shape.lengths.prod ∧
      (∀ t, t ∈ listing ↔ TupleOf shape.lengths t) ∧
      (∀ t, t ∈ listing ↔ shape.isFull t = true ∧ shape.accepts t = true) ∧
      listing.Nodup ∧ listing.Pairwise (· < ·)) ∧
    (∀ count, let cursor := (TupleCursor.start shape.lengths).skip count
      cursor.remaining = shape.lengths.prod - count ∧
        cursor.next? = listing[count]?.map fun t =>
          (t, (TupleCursor.start shape.lengths).skip (count + 1))) ∧
    ((∀ n t, listing[n]? = some t → shape.offset t = .ok n ∧ digits shape.lengths n = (t, 0)) ∧
      (∀ k < shape.size, ∃! t, shape.isFull t = true ∧ shape.offset t = .ok k) ∧
      ∀ s ∈ listing, ∀ t ∈ listing, ∀ j k, shape.offset s = .ok j → shape.offset t = .ok k →
        (j < k ↔ s < t)) ∧
    (∀ p first, shape.offset p = .ok first → ∀ k,
      (∃ t, shape.CellBelow p t ∧ shape.offset t = .ok k) ↔
        first ≤ k ∧ k < first + (shape.lengths.drop p.length).prod) ∧
    ∀ t, (∃ k, shape.offset t = .ok k) ↔ shape.accepts t = true := by
  intro listing
  have volume := volume_eq_prod shape.lengths
  refine ⟨⟨?length, ?size, fun t => mem_tuples_iff, fun t => ?valid, nodup_tuples _,
    pairwise_tuples _⟩, fun count => ⟨?left, TupleCursor.next?_skip _ count⟩,
    ⟨fun n t listed => ⟨(tuples_eq_some_iff.mp listed).2, digits_of_listed listed⟩,
      fun k => existsUnique_offset, ?order⟩,
    fun p first => offset_cellBelow_iff, fun t => exists_offset_iff⟩
  case length => rw [length_tuples, volume]
  case size => rw [Shape.size, shape.length_marks, volume]
  case valid =>
    rw [mem_tuples_iff, tupleOf_iff, isFull_iff]
    exact and_comm
  case left => rw [TupleCursor.remaining_skip, volume]
  case order =>
    intro s hs t ht j k offsetS offsetT
    obtain ⟨-, rfl⟩ := offset_ok_iff.mp offsetS
    obtain ⟨-, rfl⟩ := offset_ok_iff.mp offsetT
    obtain ⟨fitS, fullS⟩ := tupleOf_iff.mp (mem_tuples_iff.mp hs)
    obtain ⟨fitT, fullT⟩ := tupleOf_iff.mp (mem_tuples_iff.mp ht)
    exact rank_lt_rank_iff fitS fitT fullS fullT

end Shape

end ArrayCells
