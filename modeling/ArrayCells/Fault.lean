import ArrayCells.Cell
import ArrayCells.Operand.Kind
import ArrayCells.Source.Form

/-!
What can go wrong when a binding is addressed, read or written, and how a message tells it.
A fault is a cause; `Fault.message` holds all the wording.  `Fault.within` attaches the place in
the evaluated program, at most once.
-/

namespace ArrayCells

/-- A place in the evaluated program. -/
structure Place where
  file : String
  line : Nat
  column : Nat
deriving DecidableEq

/-- Places are written `file:line:column`. -/
def Place.text (place : Place) : String :=
  place.file ++ ":" ++ toString place.line ++ ":" ++ toString place.column

/-- An index tuple as it follows a name: every index in brackets of its own. -/
def bracketed (indexes : List Int) : String :=
  String.join (indexes.map fun i => "[" ++ toString i ++ "]")

/-- Items separated by commas, without blanks. -/
def commaSeparated {α : Type} [ToString α] (items : List α) : String :=
  String.intercalate "," (items.map toString)

/-- What was read before anything was written to it. -/
inductive Unread where
  | cell (id : CellId)
  | element (indexes : List Int)
  | row (row : Int)
  /-- A row that an evaluated access selects; the binding is then named by a label. -/
  | labelledRow (row : Int)
  | described (text : String)
deriving DecidableEq

def Unread.text : Unread → String
  | .cell id => "cell " ++ id.text
  | .element tuple => "cell " ++ bracketed tuple
  | .row n => "row " ++ toString n
  | .labelledRow n => "Row " ++ toString n
  | .described text => text

/-- How an operand or a right side fails to be of the kind that its place needs. -/
inductive Mismatch where
  | expectedInt (found : OperandKind)
  | notUnrollable (found : OperandKind)
  | negationOverflow
  | overflow (op : ArithOp) (lhs rhs : Int)
  | literalTooLarge
  | sequenceForCell (count : Nat) (name : String)
  | sequenceTooLong (count : Nat) (name : String) (indexes : List Int) (lengths : List Nat)
  | singleForRegion (name : String) (indexes : List Int) (lengths : List Nat)
  | described (text : String)
deriving DecidableEq

def Mismatch.text : Mismatch → String
  | .expectedInt found => "expected int, got " ++ found.name
  | .notUnrollable found => "cannot unroll " ++ found.name
  | .negationOverflow => "integer overflow in negation"
  | .overflow op lhs rhs =>
    "integer overflow in " ++ toString lhs ++ " " ++ op.symbol ++ " " ++ toString rhs
  | .literalTooLarge => "invalid integer literal: number too large to fit in target type"
  | .sequenceForCell count name =>
    "cannot assign a sequence of " ++ toString count ++ " values to a single cell of " ++ name
  | .sequenceTooLong count name indexes lengths =>
    "cannot assign " ++ toString count ++ " values to " ++ name ++ bracketed indexes
      ++ " of shape [" ++ commaSeparated lengths ++ "]"
  | .singleForRegion name indexes lengths =>
    "cannot assign a single value to " ++ name ++ bracketed indexes
      ++ " of shape [" ++ commaSeparated lengths ++ "]"
  | .described text => text

/-- Source text that does not denote what was asked for. -/
inductive Unsupported where
  | form (found : Source.Form)
  | nonIntegerLiteral
  | qualifiedPath
  /-- The text is no expression at all. -/
  | malformed
  | described (text : String)
deriving DecidableEq

def Unsupported.text : Unsupported → String
  | .form found => found.name
  | .nonIntegerLiteral => "non-integer literal"
  | .qualifiedPath => "qualified path"
  | .malformed => "Rust syntax error"
  | .described text => text

/-- The cause of a failed access, and for `located` also the place of the evaluation. -/
inductive Fault where
  /-- A list index that is negative or not below the length. -/
  | outOfBounds (index : Int) (length : Nat)
  /-- An index tuple that does not fit the shape. -/
  | indexOutOfShape (indexes : List Int) (lengths : List Nat)
  /-- Indexes on something with neither a shape nor rows. -/
  | notAnArray (name : String)
  /-- An initializing write to a cell that already holds a value. -/
  | doubleInitialization (name : String) (indexes : List Int)
  /-- A second write to a cell of a constant. -/
  | constViolation (name : String) (indexes : List Int)
  | uninitializedRead (name : String) (what : Unread)
  /-- A range anywhere but in the last index. -/
  | misplacedRange (position count : Nat)
  /-- A flag whose name is already taken. -/
  | propertyCollision (name reference : String)
  | typeMismatch (cause : Mismatch)
  | undefinedReference (name : String)
  | unsupported (cause : Unsupported)
  | located (place : Place) (cause : Fault)
deriving DecidableEq

/-- The variants of faults, without what they carry. -/
inductive FaultKind where
  | outOfBounds
  | indexOutOfShape
  | notAnArray
  | doubleInitialization
  | constViolation
  | uninitializedRead
  | misplacedRange
  | propertyCollision
  | typeMismatch
  | undefinedReference
  | unsupported
  | located
deriving DecidableEq

namespace Fault

def kind : Fault → FaultKind
  | outOfBounds .. => .outOfBounds
  | indexOutOfShape .. => .indexOutOfShape
  | notAnArray .. => .notAnArray
  | doubleInitialization .. => .doubleInitialization
  | constViolation .. => .constViolation
  | uninitializedRead .. => .uninitializedRead
  | misplacedRange .. => .misplacedRange
  | propertyCollision .. => .propertyCollision
  | typeMismatch .. => .typeMismatch
  | undefinedReference .. => .undefinedReference
  | unsupported .. => .unsupported
  | located .. => .located

/-- The fault without places. -/
def root : Fault → Fault
  | located _ cause => cause.root
  | fault => fault

/-- The fault directly below a place. -/
def source? : Fault → Option Fault
  | located _ cause => some cause
  | _ => none

/-- Attaches a place unless the fault already has one. -/
def within (fault : Fault) (place : Option Place) : Fault :=
  match fault, place with
  | located p cause, _ => located p cause
  | cause, some p => located p cause
  | cause, none => cause

/-- The text that reports a fault. -/
def message : Fault → String
  | outOfBounds index length =>
    "Out of bounds, try to access index " ++ toString index ++ " but list only has "
      ++ toString length ++ " elements"
  | indexOutOfShape indexes lengths =>
    "index [" ++ commaSeparated indexes ++ "] out of range for shape ["
      ++ commaSeparated lengths ++ "]"
  | notAnArray name => "try to access to index on non-array value " ++ name
  | doubleInitialization name indexes => "value initialized: " ++ name ++ bracketed indexes
  | constViolation name indexes => "setting " ++ name ++ bracketed indexes ++ " a const element"
  | uninitializedRead name what => what.text ++ " of " ++ name ++ " isn't initialized"
  | misplacedRange position count =>
    "range index is valid only in last index (found at position " ++ toString position
      ++ " of " ++ toString count ++ ")"
  | propertyCollision name reference =>
    "property `" ++ name ++ "` already exists on reference " ++ reference
  | typeMismatch cause => "Type error: " ++ cause.text
  | undefinedReference name => "undefined reference `" ++ name ++ "`"
  | unsupported cause => "unsupported expression: " ++ cause.text
  | located place cause => cause.message ++ " at " ++ place.text

end Fault

/-- What gives a result has got through its first step. -/
theorem exists_of_bind_ok {ε α β : Type} {r : Except ε α} {next : α → Except ε β} {b : β}
    (h : (r >>= next) = .ok b) : ∃ a, r = .ok a ∧ next a = .ok b := by
  cases r with
  | error fault => cases h
  | ok a => exact ⟨a, rfl, h⟩

theorem bind_ok_iff {ε α β : Type} {r : Except ε α} {next : α → Except ε β} {b : β} :
    (r >>= next) = .ok b ↔ ∃ a, r = .ok a ∧ next a = .ok b := by
  constructor
  · exact exists_of_bind_ok
  · rintro ⟨a, rfl, last⟩
    exact last

/-- What fails has failed in its first step or after it. -/
theorem bind_error_iff {ε α β : Type} {r : Except ε α} {next : α → Except ε β} {fault : ε} :
    (r >>= next) = .error fault ↔
      r = .error fault ∨ ∃ a, r = .ok a ∧ next a = .error fault := by
  cases r with
  | error first =>
    show Except.error first = .error fault ↔ _
    simp only [Except.error.injEq, reduceCtorEq, false_and, exists_false, or_false]
  | ok a =>
    show next a = .error fault ↔ _
    simp only [reduceCtorEq, Except.ok.injEq, exists_eq_left', false_or]

theorem pure_ok_iff {ε α : Type} {a b : α} : (pure a : Except ε α) = .ok b ↔ a = b :=
  Iff.of_eq (Except.ok.injEq a b)

/-- What is given after a check has passed it. -/
theorem ite_ok_iff {ε α : Type} {p : Prop} [Decidable p] {a b : α} {fault : ε} :
    (if p then .ok a else .error fault) = Except.ok b ↔ p ∧ a = b := by
  by_cases holds : p
  · rw [if_pos holds, Except.ok.injEq, and_iff_right holds]
  · rw [if_neg holds]
    exact iff_of_false (fun same => by cases same) fun both => holds both.1

/-- A check that was not passed. -/
theorem ite_error_iff {ε α : Type} {p : Prop} [Decidable p] {a : α} {fault fault' : ε} :
    (if p then .ok a else .error fault) = Except.error fault' ↔ ¬ p ∧ fault = fault' := by
  by_cases holds : p
  · rw [if_pos holds]
    exact iff_of_false (fun same => by cases same) fun both => both.1 holds
  · rw [if_neg holds, Except.error.injEq, and_iff_right holds]

end ArrayCells
