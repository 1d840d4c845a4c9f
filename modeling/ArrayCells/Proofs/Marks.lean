import ArrayCells.Proofs.RowMajor

/-!
# The marks of a shape

A shape keeps one mark for every cell.  `bit` reads the mark of a cell by its number, and the three
operations are described through it:

* `isMarked_iff`: a tuple is marked if it fits and all bits of its region are set;
* `mark_of_accepts`, `mark_of_not_accepts`: marking succeeds for the tuples that fit, and sets
  exactly the bits of the region;
* `bit_fresh`: a fresh shape has no bit set;
* `ext_of_bit`, `mark_of_isMarked`: the bits are all there is, so marking again changes nothing.

For a full tuple the region is a single bit, the one at its rank.
-/

namespace ArrayCells.Shape

/-- The mark of the cell with the given number; beyond the last cell there is none. -/
def bit (shape : Shape) (k : Nat) : Bool :=
  shape.marks.getD k false

@[simp]
theorem bit_fresh (lengths : List Nat) (k : Nat) : (fresh lengths).bit k = false := by
  simp only [bit, fresh, List.getD_eq_getElem?_getD, List.getElem?_replicate]
  split <;> rfl

/-- A stretch of a list of marks is all set if every mark in it is. -/
theorem all_stretch_iff (marks : List Bool) {first count : Nat}
    (within : first + count ≤ marks.length) :
    ((marks.drop first).take count).all id = true ↔
      ∀ k, first ≤ k → k < first + count → marks.getD k false = true := by
  simp only [List.all_eq_true, List.mem_iff_getElem?, forall_exists_index, id_eq,
    List.getElem?_take, List.getElem?_drop]
  constructor
  · intro all k low high
    have read : marks[k]? = some (marks.getD k false) := by
      rw [List.getD_eq_getElem?_getD, List.getElem?_eq_getElem (by omega), Option.getD_some]
    apply all _ (k - first)
    rw [if_pos (by omega), show first + (k - first) = k by omega, read]
  · intro all mark j hj
    split at hj
    · have set := all (first + j) (by omega) (by omega)
      rwa [List.getD_eq_getElem?_getD, hj] at set
    · cases hj

theorem isFull_iff {shape : Shape} {t : List Int} :
    shape.isFull t = true ↔ t.length = shape.dim :=
  beq_iff_eq

theorem not_isFull_iff {shape : Shape} {t : List Int} :
    shape.isFull t = false ↔ t.length ≠ shape.dim :=
  beq_eq_false_iff_ne

theorem rank_add_regionSize_le {shape : Shape} {t : List Int} (h : shape.accepts t = true) :
    rank shape.lengths t + shape.regionSize t.length ≤ volume shape.lengths :=
  rank_add_volume_le h

/-- **A tuple is marked if it fits and every cell of its region is marked.** -/
theorem isMarked_iff (shape : Shape) (t : List Int) :
    shape.isMarked t = true ↔ shape.accepts t = true ∧
      ∀ k, rank shape.lengths t ≤ k → k < rank shape.lengths t + shape.regionSize t.length →
        shape.bit k = true := by
  rw [isMarked, Bool.and_eq_true]
  refine and_congr_right fun fit => ?_
  exact all_stretch_iff shape.marks (by rw [shape.length_marks]; exact rank_add_regionSize_le fit)

/-- Before anything is marked, a tuple is answered for only if its region has no cells. -/
theorem isMarked_fresh_iff (lengths : List Nat) (t : List Int) :
    (fresh lengths).isMarked t = true ↔
      (fresh lengths).accepts t = true ∧ (fresh lengths).regionSize t.length = 0 := by
  rw [isMarked_iff]
  refine and_congr_right fun _ => ?_
  constructor
  · intro set
    rcases Nat.eq_zero_or_pos ((fresh lengths).regionSize t.length) with empty | room
    · exact empty
    · have first := set _ (Nat.le_refl _) (Nat.lt_add_of_pos_right room)
      rw [bit_fresh] at first
      cases first
  · intro empty k low high
    omega

theorem regionSize_of_full {shape : Shape} {t : List Int} (full : t.length = shape.dim) :
    shape.regionSize t.length = 1 := by
  rw [regionSize, full, dim, List.drop_length, volume]

/-- The region of a full tuple is the one cell at its rank. -/
theorem isMarked_of_full {shape : Shape} {t : List Int} (fit : shape.accepts t = true)
    (full : t.length = shape.dim) : shape.isMarked t = shape.bit (rank shape.lengths t) := by
  rw [Bool.eq_iff_iff, isMarked_iff, regionSize_of_full full]
  constructor
  · exact fun h => h.2 _ (Nat.le_refl _) (Nat.lt_succ_self _)
  · intro h
    refine ⟨fit, fun k low high => ?_⟩
    rw [show k = rank shape.lengths t by omega]
    exact h

/-! ### Offsets and marking -/

theorem offset_of_accepts {shape : Shape} {t : List Int} (h : shape.accepts t = true) :
    shape.offset t = .ok (rank shape.lengths t) := by
  rw [offset, if_pos h]

theorem offset_of_not_accepts {shape : Shape} {t : List Int} (h : ¬ shape.accepts t = true) :
    shape.offset t = .error (shape.outOfShape t) := by
  rw [offset, if_neg h]

theorem locate_of_accepts {shape : Shape} {t : List Int} (base : CellId)
    (h : shape.accepts t = true) :
    shape.locate base t = .ok (base.advance (rank shape.lengths t)) := by
  rw [locate, offset_of_accepts h]
  rfl

theorem locate_of_not_accepts {shape : Shape} {t : List Int} (base : CellId)
    (h : ¬ shape.accepts t = true) : shape.locate base t = .error (shape.outOfShape t) := by
  rw [locate, offset_of_not_accepts h]
  rfl

theorem mark_of_not_accepts {shape : Shape} {t : List Int} (h : ¬ shape.accepts t = true) :
    shape.mark t = .error (shape.outOfShape t) := by
  rw [mark, offset_of_not_accepts h]
  rfl

/-- **Marking sets the bits of the region and no others.** -/
theorem mark_of_accepts {shape : Shape} {t : List Int} (h : shape.accepts t = true) :
    ∃ marked, shape.mark t = .ok marked ∧ marked.lengths = shape.lengths ∧
      ∀ k, marked.bit k = (shape.bit k || (decide (rank shape.lengths t ≤ k) &&
        decide (k < rank shape.lengths t + shape.regionSize t.length))) := by
  rw [mark, offset_of_accepts h]
  refine ⟨_, rfl, rfl, fun k => ?_⟩
  have within := rank_add_regionSize_le h
  have len := shape.length_marks
  simp only [bit, List.getD_eq_getElem?_getD, List.getElem?_mapIdx]
  by_cases hk : k < shape.marks.length
  · rw [List.getElem?_eq_getElem hk]
    rfl
  · rw [List.getElem?_eq_none (by omega), Option.map_none, Option.getD_none, Bool.false_or,
      decide_eq_false (p := k < _) (by omega), Bool.and_false]

/-- A shape is known by its lengths and its bits. -/
theorem ext_of_bit {shape shape' : Shape} (lengths : shape.lengths = shape'.lengths)
    (bits : ∀ k, shape.bit k = shape'.bit k) : shape = shape' := by
  rcases shape with ⟨n, marks, count⟩
  rcases shape' with ⟨n', marks', count'⟩
  cases lengths
  have same : marks = marks' := by
    refine List.ext_getElem (count.trans count'.symm) fun k below below' => ?_
    have read := bits k
    simpa only [bit, List.getD_eq_getElem?_getD, List.getElem?_eq_getElem below,
      List.getElem?_eq_getElem below', Option.getD_some] using read
  subst same
  rfl

/-- **Marking again changes nothing.** -/
theorem mark_of_isMarked {shape : Shape} {t : List Int} (marked : shape.isMarked t = true) :
    shape.mark t = .ok shape := by
  obtain ⟨fit, set⟩ := (isMarked_iff shape t).mp marked
  obtain ⟨again, hm, lengths, bits⟩ := mark_of_accepts fit
  have same : again = shape := by
    refine ext_of_bit lengths fun k => ?_
    rw [bits, Bool.or_eq_left_iff_imp, Bool.and_eq_true, decide_eq_true_eq, decide_eq_true_eq]
    exact fun ⟨low, high⟩ => set k low high
  rw [hm, same]

end ArrayCells.Shape
