import ArrayCells.Binding.Read
import ArrayCells.Proofs.Selection

/-!
# What is read from one cell or row

A tuple that selects a cell or a row reads what the store holds there, and reading fails only where
the store holds nothing.  Rows and cells differ in the fault alone.  An evaluator gives the tuple as
operands; integers stand for themselves.
-/

namespace ArrayCells

namespace Access

theorem ofOperandsFrom_int (t : List Int) (position count : Nat) :
    ofOperandsFrom position count (t.map (.int ·)) = .ok ⟨t, none⟩ := by
  induction t generalizing position with
  | nil => rfl
  | cons i t ih =>
    rw [List.map_cons, ofOperandsFrom, ih]
    rfl

/-- The access by a tuple of integers. -/
theorem ofOperands_int (t : List Int) : ofOperands (t.map (.int ·)) = .ok ⟨t, none⟩ :=
  ofOperandsFrom_int t 0 _

end Access

namespace Binding

open CellStore

variable {σ : Type} [CellStore σ]

/-- The fault of reading an address that holds nothing. -/
def unread (b : Binding) (t : List Int) : Address → Fault
  | .row id => .uninitializedRead b.name (.row id.row)
  | .cell _ => .uninitializedRead b.name (.element t)

/-- **A read gives what is held at the address of its target.** -/
theorem read_of_target {b : Binding} {store : σ} {t : List Int} {target : Target}
    (h : b.target (hasRows store) t = .ok target) :
    b.read store t =
      match readAt store target.address with
      | some content => .ok content
      | none => .error (b.unread t target.address) := by
  unfold Binding.read
  rw [h]
  cases target with
  | scalar c =>
    show (match CellStore.read store c with | some content => _ | none => _) = _
    rfl
  | indexed c =>
    show (match CellStore.read store c with | some content => _ | none => _) = _
    rfl
  | row c n =>
    show (match CellStore.readRow store c n with | some content => _ | none => _) = _
    rfl

theorem read_of_target_error {b : Binding} {store : σ} {t : List Int} {fault : Fault}
    (h : b.target (hasRows store) t = .error fault) : b.read store t = .error fault := by
  unfold Binding.read
  rw [h]
  rfl

theorem read_ok_iff_of_target {b : Binding} {store : σ} {t : List Int} {target : Target}
    (h : b.target (hasRows store) t = .ok target) :
    (∃ content, b.read store t = .ok content) ↔
      (readAt store target.address).isSome = true := by
  rw [read_of_target h]
  cases readAt store target.address with
  | none =>
    constructor
    · rintro ⟨content, absurd⟩
      cases absurd
    · intro absurd
      cases absurd
  | some content => exact ⟨fun _ => rfl, fun _ => ⟨content, rfl⟩⟩

theorem Selects.read {b : Binding} {store : σ} {t : List Int} {a : Address}
    (h : b.Selects (hasRows store) t a) :
    b.read store t =
      match readAt store a with
      | some content => .ok content
      | none => .error (b.unread t a) := by
  obtain ⟨target, ht, rfl⟩ := h.target
  exact read_of_target ht

theorem Selects.read_ok_iff {b : Binding} {store : σ} {t : List Int} {a : Address}
    (h : b.Selects (hasRows store) t a) :
    (∃ content, b.read store t = .ok content) ↔ (readAt store a).isSome = true := by
  obtain ⟨target, ht, rfl⟩ := h.target
  exact read_ok_iff_of_target ht

end Binding

end ArrayCells
