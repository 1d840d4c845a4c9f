import ArrayCells.Shape

/-!
# Ranks of index tuples

`rank` numbers the first cell below a tuple.  This file proves, for every list of dimension
lengths and every tuple that fits it:

* `rank_append` and `fits_append`: a tuple can be split anywhere, the rest being ranked by the
  lengths that are left;
* `rank_add_volume_le`: the region below the tuple lies within the array;
* `rank_injective`: two full tuples with the same number are the same tuple;
* `tupleAt_fits`, `length_tupleAt`: the tuples of the row-major listing are full tuples that fit;
* `rank_tupleAt`, `getElem?_tuples`, `zipIdx_tuples`: the listing is in the order of the ranks.

Lengths of zero need no care anywhere: nothing fits them.
-/

namespace ArrayCells

open Shape (fits)

@[simp]
theorem fits_nil (lengths : List Nat) : fits [] lengths = true := by
  cases lengths <;> rfl

@[simp]
theorem fits_cons_nil (i : Int) (indexes : List Int) : fits (i :: indexes) [] = false := rfl

@[simp]
theorem fits_cons (i : Int) (indexes : List Int) (n : Nat) (lengths : List Nat) :
    fits (i :: indexes) (n :: lengths) = true ↔ (0 ≤ i ∧ i < n) ∧ fits indexes lengths = true := by
  simp only [fits, Bool.and_eq_true, decide_eq_true_eq]

theorem length_le_of_fits {indexes : List Int} {lengths : List Nat}
    (h : fits indexes lengths = true) : indexes.length ≤ lengths.length := by
  induction indexes generalizing lengths with
  | nil => exact Nat.zero_le _
  | cons i indexes ih =>
    cases lengths with
    | nil => simp at h
    | cons n lengths =>
      have rest := ih ((fits_cons i indexes n lengths).mp h).2
      simp only [List.length_cons]
      omega

/-! ### Splitting a tuple -/

theorem fits_append (p q : List Int) (lengths : List Nat) :
    fits (p ++ q) lengths = (fits p lengths && fits q (lengths.drop p.length)) := by
  induction p generalizing lengths with
  | nil => simp
  | cons i p ih =>
    cases lengths with
    | nil => rfl
    | cons n lengths =>
      simp only [List.cons_append, fits, ih, List.length_cons, List.drop_succ_cons, Bool.and_assoc]

@[simp]
theorem rank_nil_left (indexes : List Int) : rank [] indexes = 0 := by
  cases indexes <;> rfl

@[simp]
theorem rank_nil_right (lengths : List Nat) : rank lengths [] = 0 := by
  cases lengths <;> rfl

theorem rank_append (lengths : List Nat) (p q : List Int) :
    rank lengths (p ++ q) = rank lengths p + rank (lengths.drop p.length) q := by
  induction p generalizing lengths with
  | nil => simp
  | cons i p ih =>
    cases lengths with
    | nil => simp
    | cons n lengths =>
      simp only [List.cons_append, rank, ih, List.length_cons, List.drop_succ_cons]
      omega

/-! ### Regions -/

/-- **Regions lie within the array.**  The cells below a tuple are numbered from its rank on, and
there are as many as the lengths left open make. -/
theorem rank_add_volume_le {indexes : List Int} {lengths : List Nat}
    (h : fits indexes lengths = true) :
    rank lengths indexes + volume (lengths.drop indexes.length) ≤ volume lengths := by
  induction indexes generalizing lengths with
  | nil => simp
  | cons i indexes ih =>
    cases lengths with
    | nil => simp at h
    | cons n lengths =>
      obtain ⟨⟨nonneg, below⟩, hrest⟩ := (fits_cons i indexes n lengths).mp h
      have inner := ih hrest
      have outer : (i.toNat + 1) * volume lengths ≤ n * volume lengths :=
        Nat.mul_le_mul_right _ (by omega)
      rw [Nat.add_mul, Nat.one_mul] at outer
      simp only [rank, volume, List.length_cons, List.drop_succ_cons]
      omega

/-- The regions of an array with cells have cells. -/
theorem volume_drop_pos {lengths : List Nat} (h : 0 < volume lengths) (k : Nat) :
    0 < volume (lengths.drop k) := by
  induction lengths generalizing k with
  | nil => simpa using h
  | cons n lengths ih =>
    cases k with
    | zero => exact h
    | succ k => exact ih (Nat.pos_of_mul_pos_left h) k

/-- An array has no cells if it has no room in some dimension. -/
theorem volume_eq_zero_iff {lengths : List Nat} : volume lengths = 0 ↔ 0 ∈ lengths := by
  induction lengths with
  | nil => simp [volume]
  | cons n lengths ih => rw [volume, Nat.mul_eq_zero, ih, List.mem_cons, eq_comm]

theorem volume_singleton (n : Nat) : volume [n] = n := by
  rw [volume, volume, Nat.mul_one]

theorem rank_lt_volume {indexes : List Int} {lengths : List Nat}
    (h : fits indexes lengths = true) (full : indexes.length = lengths.length) :
    rank lengths indexes < volume lengths := by
  have bound := rank_add_volume_le h
  rw [full, List.drop_length] at bound
  exact bound

/-- **Full tuples are told apart by their numbers.** -/
theorem rank_injective {s t : List Int} {lengths : List Nat}
    (hs : fits s lengths = true) (ht : fits t lengths = true)
    (fullS : s.length = lengths.length) (fullT : t.length = lengths.length)
    (same : rank lengths s = rank lengths t) : s = t := by
  induction lengths generalizing s t with
  | nil => rw [List.eq_nil_of_length_eq_zero fullS, List.eq_nil_of_length_eq_zero fullT]
  | cons n lengths ih =>
    obtain ⟨i, s, rfl⟩ := List.exists_cons_of_length_eq_add_one fullS
    obtain ⟨j, t, rfl⟩ := List.exists_cons_of_length_eq_add_one fullT
    obtain ⟨⟨hi, -⟩, hs⟩ := (fits_cons i s n lengths).mp hs
    obtain ⟨⟨hj, -⟩, ht⟩ := (fits_cons j t n lengths).mp ht
    simp only [List.length_cons, Nat.add_right_cancel_iff] at fullS fullT
    have ls := rank_lt_volume hs fullS
    have lt := rank_lt_volume ht fullT
    -- the outer index is the quotient by the volume of the inner array, the inner rank the rest
    have pos : 0 < volume lengths := by omega
    have hq : i.toNat = j.toNat := by
      have quotient := congrArg (· / volume lengths) same
      simpa only [rank, Nat.mul_comm _ (volume lengths), Nat.mul_add_div pos,
        Nat.div_eq_of_lt ls, Nat.div_eq_of_lt lt, Nat.add_zero] using quotient
    have hr : rank lengths s = rank lengths t := by
      simp only [rank, hq] at same
      omega
    rw [ih hs ht fullS fullT hr, show i = j by omega]

/-! ### The listing -/

@[simp]
theorem length_tupleAt (lengths : List Nat) (k : Nat) :
    (tupleAt lengths k).length = lengths.length := by
  induction lengths generalizing k with
  | nil => rfl
  | cons n lengths ih => simp only [tupleAt, List.length_cons, ih]

theorem tupleAt_singleton (n k : Nat) : tupleAt [n] k = [(k : Int)] := by
  simp only [tupleAt, volume, Nat.div_one]

theorem tupleAt_fits {lengths : List Nat} {k : Nat} (h : k < volume lengths) :
    fits (tupleAt lengths k) lengths = true := by
  induction lengths generalizing k with
  | nil => rfl
  | cons n lengths ih =>
    have pos : 0 < volume lengths := Nat.pos_of_mul_pos_left (Nat.zero_lt_of_lt h)
    have outer : k / volume lengths < n := (Nat.div_lt_iff_lt_mul pos).mpr h
    rw [tupleAt, fits_cons]
    exact ⟨⟨Int.natCast_nonneg _, Int.ofNat_lt.mpr outer⟩, ih (Nat.mod_lt k pos)⟩

/-- **The tuple at a position is the one with that rank.** -/
theorem rank_tupleAt {lengths : List Nat} {k : Nat} (h : k < volume lengths) :
    rank lengths (tupleAt lengths k) = k := by
  induction lengths generalizing k with
  | nil => exact (Nat.lt_one_iff.mp h).symm
  | cons n lengths ih =>
    have pos : 0 < volume lengths := Nat.pos_of_mul_pos_left (Nat.zero_lt_of_lt h)
    rw [tupleAt, rank, Int.toNat_natCast, ih (Nat.mod_lt k pos), Nat.mul_comm]
    exact Nat.div_add_mod k (volume lengths)

theorem getElem?_tuples (lengths : List Nat) (k : Nat) :
    (tuples lengths)[k]? = if k < volume lengths then some (tupleAt lengths k) else none := by
  rw [tuples, TupleCursor.toList, List.getElem?_map, TupleCursor.remaining, TupleCursor.start,
    Nat.sub_zero]
  by_cases below : k < volume lengths
  · rw [List.getElem?_range' below, if_pos below, Nat.zero_add, Nat.one_mul]
    rfl
  · rw [if_neg below, List.getElem?_eq_none (by simpa using below)]
    rfl

/-- The listing with the positions is the list of the positions with their tuples. -/
theorem zipIdx_tuples (lengths : List Nat) :
    (tuples lengths).zipIdx =
      (List.range' 0 (volume lengths)).map fun k => (tupleAt lengths k, k) := by
  refine List.ext_getElem? fun k => ?_
  rw [List.getElem?_zipIdx, getElem?_tuples, List.getElem?_map, Nat.zero_add]
  by_cases below : k < volume lengths
  · rw [if_pos below, List.getElem?_range' below, Nat.zero_add, Nat.one_mul]
    rfl
  · rw [if_neg below, List.getElem?_eq_none (by simpa using below)]
    rfl

/-- The members of the listing are full tuples that fit. -/
theorem fits_of_mem_tuples {lengths : List Nat} {t : List Int} (h : t ∈ tuples lengths) :
    fits t lengths = true ∧ t.length = lengths.length := by
  simp only [tuples, TupleCursor.toList, TupleCursor.remaining, TupleCursor.start, List.mem_map,
    List.mem_range'_1] at h
  obtain ⟨k, ⟨-, below⟩, rfl⟩ := h
  exact ⟨tupleAt_fits (by omega), length_tupleAt lengths k⟩

end ArrayCells
