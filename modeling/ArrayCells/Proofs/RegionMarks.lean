import ArrayCells.Proofs.Numbering

/-!
# The marks of a shape add up

Marking a tuple goes through the cells of its region, which are numbered from the first cell of the
region and the strides of the dimensions left open, and sets their marks.  Regions may overlap, and
a tuple may be refused; after any calls the marks are the union of the regions that were marked.

* `Shape.regionCells_of_accepts`, `Shape.lt_size_of_mem_regionCells`: the numbers of the cells of a
  region are consecutive, and none of them lies outside the marks;
* `Shape.mark_eq_regionCells`, `Shape.isMarked_iff_regionCells`: marking and asking go through them;
* `Shape.begins_iff_rank`: the cells below a tuple are told by their numbers;
* `Shape.isMarked_iff_cells`: a region is marked if all its cells are;
* `Shape.isMarked_afterMark`: what one call adds, and `Shape.isMarked_afterMarks`: what a run adds;
* `Shape.marks_union`: all of it for the marks that a fresh shape has after any calls.
-/

namespace ArrayCells

open Shape (fits)

/-! ### The cells of a region -/

theorem drop_strides (lengths : List Nat) (k : Nat) :
    (strides lengths).drop k = strides (lengths.drop k) := by
  induction lengths generalizing k with
  | nil => rw [List.drop_nil, strides, List.foldr_nil, List.drop_nil]
  | cons n lengths ih =>
    cases k with
    | zero => rfl
    | succ k => rw [strides_cons, List.drop_succ_cons, List.drop_succ_cons, ih]

/-- The tuples of the listing have the numbers from zero on. -/
theorem map_rank_tuples (lengths : List Nat) :
    (tuples lengths).map (rank lengths) = List.range (volume lengths) := by
  refine List.ext_getElem? fun k => ?_
  rw [List.getElem?_map, getElem?_tuples]
  by_cases below : k < volume lengths
  · rw [if_pos below, Option.map_some, rank_tupleAt below, List.getElem?_range below]
  · rw [if_neg below, List.getElem?_eq_none (by simpa using below)]
    rfl

/-- Every index of the tuple is at least zero and below the length of its dimension.  Dimensions may
be left open, but no index is left over. -/
def PrefixOf (lengths : List Nat) (p : List Int) : Prop :=
  TupleOf (lengths.take p.length) p

theorem prefixOf_iff {lengths : List Nat} {p : List Int} :
    PrefixOf lengths p ↔ fits p lengths = true := by
  induction p generalizing lengths with
  | nil => exact iff_of_true List.Forall₂.nil (fits_nil lengths)
  | cons i p ih =>
    cases lengths with
    | nil =>
      refine iff_of_false ?_ Bool.false_ne_true
      intro within
      cases within
    | cons n lengths =>
      rw [fits_cons, ← ih]
      exact List.forall₂_cons

namespace Shape

variable {shape : Shape} {t : List Int}

/-- The numbers of the cells of a region, one after the other.  The tuples of the dimensions left
open are listed, and each counts its indexes as often as the strides of these dimensions say, from
the first cell of the region on. -/
def regionCells (shape : Shape) (t : List Int) : Except Fault (List Nat) := do
  let first ← shape.offset t
  let inner := (strides shape.lengths).drop t.length
  return (tuples (shape.lengths.drop t.length)).map fun q =>
    first + (List.zipWith (fun i stride => i.toNat * stride) q inner).sum

/-- **The cells of a region are consecutive.** -/
theorem regionCells_of_accepts (fit : shape.accepts t = true) :
    shape.regionCells t =
      .ok (List.range' (rank shape.lengths t) (shape.regionSize t.length)) := by
  have numbers (q : List Int) :
      (List.zipWith (fun i stride => i.toNat * stride) q
        ((strides shape.lengths).drop t.length)).sum = rank (shape.lengths.drop t.length) q := by
    rw [drop_strides, rank_eq_strides]
  rw [regionCells, offset_of_accepts fit]
  show Except.ok _ = Except.ok _
  simp only [numbers]
  rw [regionSize, List.range'_eq_map_range, ← map_rank_tuples, List.map_map]
  rfl

theorem regionCells_of_not_accepts (h : ¬ shape.accepts t = true) :
    shape.regionCells t = .error (shape.outOfShape t) := by
  rw [regionCells, offset_of_not_accepts h]
  rfl

/-- Marks the cell with the given number. -/
def markCell (shape : Shape) (k : Nat) : Shape where
  lengths := shape.lengths
  marks := shape.marks.set k true
  length_marks := by rw [List.length_set, shape.length_marks]

theorem bit_markCell {k : Nat} (within : k < shape.size) (j : Nat) :
    (shape.markCell k).bit j = (shape.bit j || decide (j = k)) := by
  simp only [bit, markCell, List.getD_eq_getElem?_getD, List.getElem?_set]
  rw [size] at within
  by_cases same : k = j
  · subst same
    rw [if_pos rfl, if_pos within, decide_eq_true rfl, Bool.or_true, Option.getD_some]
  · rw [if_neg same, decide_eq_false (Ne.symm same), Bool.or_false]

theorem lengths_markCells (shape : Shape) (cells : List Nat) :
    (cells.foldl markCell shape).lengths = shape.lengths := by
  induction cells generalizing shape with
  | nil => rfl
  | cons k cells ih => exact ih (shape.markCell k)

/-- Cells that are marked one after the other. -/
theorem bit_markCells {cells : List Nat} (within : ∀ k ∈ cells, k < shape.size) (j : Nat) :
    (cells.foldl markCell shape).bit j = (shape.bit j || decide (j ∈ cells)) := by
  induction cells generalizing shape with
  | nil => rw [List.foldl_nil, decide_eq_false List.not_mem_nil, Bool.or_false]
  | cons k cells ih =>
    obtain ⟨here, later⟩ := List.forall_mem_cons.mp within
    have kept : (shape.markCell k).size = shape.size := List.length_set
    rw [List.foldl_cons, ih (by rwa [kept]), bit_markCell here, Bool.or_assoc, ← Bool.decide_or]
    simp only [List.mem_cons]

/-- No cell of a region lies outside the marks. -/
theorem lt_size_of_mem_regionCells {cells : List Nat} (given : shape.regionCells t = .ok cells) :
    ∀ k ∈ cells, k < shape.size := by
  intro k among
  by_cases fit : shape.accepts t = true
  · rw [regionCells_of_accepts fit] at given
    cases given
    have within := rank_add_regionSize_le fit
    have inside := (List.mem_range'_1.mp among).2
    rw [size, shape.length_marks]
    omega
  · rw [regionCells_of_not_accepts fit] at given
    cases given

/-- **Marking goes through the cells of the region**, which have been found before the first of them
is marked. -/
theorem mark_eq_regionCells (shape : Shape) (t : List Int) :
    shape.mark t = (shape.regionCells t).map fun cells => cells.foldl markCell shape := by
  by_cases fit : shape.accepts t = true
  · have cells := regionCells_of_accepts fit
    obtain ⟨marked, given, lengths, bits⟩ := mark_of_accepts fit
    rw [given, cells, Except.map, Except.ok.injEq]
    refine ext_of_bit (lengths.trans (lengths_markCells shape _).symm) fun k => ?_
    rw [bits, bit_markCells (lt_size_of_mem_regionCells cells), ← Bool.decide_and]
    simp only [List.mem_range'_1]
  · rw [mark_of_not_accepts fit, regionCells_of_not_accepts fit]
    rfl

/-- **Asking goes through the cells of the region.** -/
theorem isMarked_iff_regionCells (shape : Shape) (t : List Int) :
    shape.isMarked t = true ↔
      ∃ cells, shape.regionCells t = .ok cells ∧ ∀ k ∈ cells, shape.bit k = true := by
  rw [isMarked_iff]
  constructor
  · rintro ⟨fit, set⟩
    refine ⟨_, regionCells_of_accepts fit, fun k among => ?_⟩
    obtain ⟨low, high⟩ := List.mem_range'_1.mp among
    exact set k low high
  · rintro ⟨cells, given, set⟩
    by_cases fit : shape.accepts t = true
    · rw [regionCells_of_accepts fit] at given
      cases given
      exact ⟨fit, fun k low high => set k (List.mem_range'_1.mpr ⟨low, high⟩)⟩
    · rw [regionCells_of_not_accepts fit] at given
      cases given

/-! ### Regions and the cells below a tuple -/

/-- The tuple of a cell fits, and has an index for every dimension. -/
theorem fit_full_of_tupleOf (cell : TupleOf shape.lengths t) :
    shape.accepts t = true ∧ t.length = shape.dim :=
  tupleOf_iff.mp cell

theorem cellBelow_iff {p : List Int} :
    shape.CellBelow p t ↔ TupleOf shape.lengths t ∧ p <+: t := by
  constructor
  · rintro ⟨fit, full, begins⟩
    exact ⟨tupleOf_iff.mpr ⟨fit, full⟩, begins⟩
  · rintro ⟨cell, begins⟩
    obtain ⟨fit, full⟩ := fit_full_of_tupleOf cell
    exact ⟨fit, full, begins⟩

theorem accepts_of_begins {p : List Int} (begins : p <+: t) (fit : shape.accepts t = true) :
    shape.accepts p = true := by
  obtain ⟨q, rfl⟩ := begins
  rw [accepts, fits_append, Bool.and_eq_true] at fit
  exact fit.1

/-- **The cells below a tuple are told by their numbers.** -/
theorem begins_iff_rank {p : List Int} (fit : shape.accepts p = true)
    (cell : TupleOf shape.lengths t) :
    p <+: t ↔ rank shape.lengths p ≤ rank shape.lengths t ∧
      rank shape.lengths t < rank shape.lengths p + shape.regionSize p.length := by
  constructor
  · intro begins
    obtain ⟨k, below, number⟩ := (cellBelow_iff.mpr ⟨cell, begins⟩).exists_rank
    omega
  · rintro ⟨low, high⟩
    obtain ⟨k, number⟩ := Nat.exists_eq_add_of_le low
    obtain ⟨t', below, number'⟩ := exists_cellBelow (k := k) fit (by omega)
    obtain ⟨inside, full⟩ := fit_full_of_tupleOf cell
    have same : t' = t := rank_injective below.fit inside below.full full
      (number'.trans number.symm)
    rw [← same]
    exact below.begins

/-- **A region is marked if all its cells are.** -/
theorem isMarked_iff_cells {p : List Int} (fit : shape.accepts p = true) :
    shape.isMarked p = true ↔ ∀ t, shape.CellBelow p t → shape.isMarked t = true := by
  rw [isMarked_iff]
  constructor
  · rintro ⟨-, marked⟩ t cell
    obtain ⟨k, below, number⟩ := cell.exists_rank
    rw [isMarked_of_full cell.fit cell.full, number]
    exact marked _ (Nat.le_add_right _ _) (Nat.add_lt_add_left below _)
  · intro all
    refine ⟨fit, fun k low high => ?_⟩
    obtain ⟨j, rfl⟩ := Nat.exists_eq_add_of_le low
    obtain ⟨t, cell, number⟩ := exists_cellBelow fit (Nat.lt_of_add_lt_add_left high)
    rw [← number, ← isMarked_of_full cell.fit cell.full]
    exact all t cell

theorem isMarked_of_not_accepts (h : ¬ shape.accepts t = true) : shape.isMarked t = false := by
  rw [Bool.eq_false_iff]
  exact fun marked => h ((isMarked_iff shape t).mp marked).1

/-- A cell is marked if its bit is set. -/
theorem isMarked_of_tupleOf (cell : TupleOf shape.lengths t) :
    shape.isMarked t = shape.bit (rank shape.lengths t) := by
  obtain ⟨fit, full⟩ := fit_full_of_tupleOf cell
  exact isMarked_of_full fit full

/-! ### Calls -/

theorem exists_mark_iff : (∃ marked, shape.mark t = .ok marked) ↔ shape.accepts t = true := by
  constructor
  · rintro ⟨marked, given⟩
    by_contra refused
    rw [mark_of_not_accepts refused] at given
    cases given
  · intro fit
    obtain ⟨marked, given, -⟩ := mark_of_accepts fit
    exact ⟨marked, given⟩

/-- The shape after a call that marks a tuple.  A call that is refused leaves it as it is. -/
def afterMark (shape : Shape) (t : List Int) : Shape :=
  match shape.mark t with
  | .ok marked => marked
  | .error _ => shape

/-- The shape after calls that mark one tuple after the other, whether they are refused or not. -/
def afterMarks (shape : Shape) (calls : List (List Int)) : Shape :=
  calls.foldl afterMark shape

theorem afterMark_of_not_accepts (h : ¬ shape.accepts t = true) : shape.afterMark t = shape := by
  rw [afterMark, mark_of_not_accepts h]

theorem lengths_afterMark (shape : Shape) (t : List Int) :
    (shape.afterMark t).lengths = shape.lengths := by
  by_cases fit : shape.accepts t = true
  · obtain ⟨marked, given, lengths, -⟩ := mark_of_accepts fit
    rw [afterMark, given]
    exact lengths
  · rw [afterMark_of_not_accepts fit]

theorem lengths_afterMarks (shape : Shape) (calls : List (List Int)) :
    (shape.afterMarks calls).lengths = shape.lengths := by
  induction calls generalizing shape with
  | nil => rfl
  | cons p calls ih => exact (ih (shape.afterMark p)).trans (lengths_afterMark shape p)

/-- **A call marks the cells below its tuple** and no others. -/
theorem isMarked_afterMark (p : List Int) (cell : TupleOf shape.lengths t) :
    (shape.afterMark p).isMarked t = true ↔ shape.isMarked t = true ∨ p <+: t := by
  by_cases fit : shape.accepts p = true
  · obtain ⟨marked, given, lengths, bits⟩ := mark_of_accepts fit
    have after : shape.afterMark p = marked := by rw [afterMark, given]
    have cell' : TupleOf marked.lengths t := by rwa [lengths]
    rw [after, isMarked_of_tupleOf cell', isMarked_of_tupleOf cell, lengths, bits,
      begins_iff_rank fit cell, ← Bool.decide_and, Bool.or_eq_true, decide_eq_true_eq]
  · rw [afterMark_of_not_accepts fit]
    refine (or_iff_left fun begins => fit ?_).symm
    exact accepts_of_begins begins (fit_full_of_tupleOf cell).1

/-- **A run marks the cells below the tuples of its calls** and no others. -/
theorem isMarked_afterMarks (calls : List (List Int)) (cell : TupleOf shape.lengths t) :
    (shape.afterMarks calls).isMarked t = true ↔
      shape.isMarked t = true ∨ ∃ p ∈ calls, p <+: t := by
  induction calls generalizing shape with
  | nil =>
    simp only [afterMarks, List.foldl_nil, List.not_mem_nil, false_and, exists_false, or_false]
  | cons p calls ih =>
    have cell' : TupleOf (shape.afterMark p).lengths t := by rwa [lengths_afterMark]
    have rest := ih cell'
    rw [isMarked_afterMark p cell, or_assoc] at rest
    simp only [List.mem_cons, exists_eq_or_imp]
    exact rest

/-- One of the calls of a run succeeds, and its tuple begins the given one. -/
def MarkedBy (shape : Shape) (calls : List (List Int)) (t : List Int) : Prop :=
  ∃ earlier p later, calls = earlier ++ p :: later ∧
    (∃ marked, (shape.afterMarks earlier).mark p = .ok marked) ∧ p <+: t

/-- A call whose tuple begins that of a cell succeeds, whatever calls came before it. -/
theorem markedBy_iff {calls : List (List Int)} (cell : TupleOf shape.lengths t) :
    shape.MarkedBy calls t ↔ ∃ p ∈ calls, p <+: t := by
  constructor
  · rintro ⟨earlier, p, later, rfl, -, begins⟩
    exact ⟨p, List.mem_append_right _ List.mem_cons_self, begins⟩
  · rintro ⟨p, among, begins⟩
    obtain ⟨earlier, later, split⟩ := List.append_of_mem among
    have fit : (shape.afterMarks earlier).accepts p = true := by
      rw [accepts, lengths_afterMarks]
      exact accepts_of_begins begins (fit_full_of_tupleOf cell).1
    exact ⟨earlier, p, later, split, exists_mark_iff.mpr fit, begins⟩

/-- **The marks are the union of the marked regions.**  A shape starts without marks, and calls mark
one tuple after the other.  A call is refused exactly if its tuple does not fit, and then changes
nothing.  A cell is marked afterwards exactly if the tuple of a call that succeeded begins the tuple
of the cell.  A region, also the whole array, is marked exactly if all its cells are, and a tuple
that does not fit never is.  There is always one mark for every cell, and the cells that a call or a
question goes through are among them. -/
theorem marks_union (lengths : List Nat) (calls : List (List Int)) :
    let shape := (fresh lengths).afterMarks calls
    (∀ p, shape.mark p = .error (.indexOutOfShape p lengths) ∧ shape.afterMark p = shape ↔
      ¬ PrefixOf lengths p) ∧
    (∀ t, TupleOf lengths t →
      (shape.isMarked t = true ↔ (fresh lengths).MarkedBy calls t)) ∧
    (∀ p, PrefixOf lengths p →
      (shape.isMarked p = true ↔
        ∀ t, TupleOf lengths t → p <+: t → shape.isMarked t = true)) ∧
    (∀ p, ¬ PrefixOf lengths p → shape.isMarked p = false) ∧
    shape.marks.length = lengths.prod ∧
    ∀ p, PrefixOf lengths p → ∃ cells, shape.regionCells p = .ok cells ∧
      (∀ k ∈ cells, k < shape.marks.length) ∧
      shape.mark p = .ok (cells.foldl markCell shape) ∧
      (shape.isMarked p = true ↔ ∀ k ∈ cells, shape.bit k = true) := by
  intro shape
  have same : shape.lengths = lengths := lengths_afterMarks (fresh lengths) calls
  have accepted (p : List Int) : PrefixOf lengths p ↔ shape.accepts p = true := by
    rw [prefixOf_iff, accepts, same]
  refine ⟨fun p => ?refused, fun t cell => ?marked, fun p fit => ?region, fun p misfit => ?misfit,
    ?size, fun p fit => ?cells⟩
  case refused =>
    rw [accepted]
    constructor
    · rintro ⟨refused, -⟩ fit
      obtain ⟨marked, given⟩ := exists_mark_iff.mpr fit
      rw [refused] at given
      cases given
    · intro misfit
      refine ⟨?_, afterMark_of_not_accepts misfit⟩
      rw [mark_of_not_accepts misfit, outOfShape, same]
  case marked =>
    have cell' : TupleOf (fresh lengths).lengths t := cell
    have unmarked : ¬ (fresh lengths).isMarked t = true := by
      rw [isMarked_of_tupleOf cell', bit_fresh]
      exact Bool.false_ne_true
    rw [isMarked_afterMarks calls cell', or_iff_right unmarked, markedBy_iff cell']
  case region =>
    rw [isMarked_iff_cells ((accepted p).mp fit)]
    simp only [cellBelow_iff, same, and_imp]
  case misfit => exact isMarked_of_not_accepts (mt (accepted p).mpr misfit)
  case size => rw [shape.length_marks, same, volume_eq_prod]
  case cells =>
    have listed := regionCells_of_accepts ((accepted p).mp fit)
    refine ⟨_, listed, lt_size_of_mem_regionCells listed, ?_, ?_⟩
    · rw [mark_eq_regionCells, listed]
      rfl
    · rw [isMarked_iff_regionCells, listed]
      simp only [Except.ok.injEq, exists_eq_left']

/-- A row that is marked over one of its cells, with two tuples that are refused. -/
example :
    ((fresh [3, 2]).afterMarks [[1, 0], [3], [1], [0, 1], [0, 1, 0]]).marks =
      [false, true, true, true, false, false] := by
  decide

end Shape

end ArrayCells
