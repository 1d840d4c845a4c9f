import ArrayCells.Fault

/-!
What an evaluation, a read or a write is told besides its operands.
-/

namespace ArrayCells

/-- Options of one access. -/
structure Context where
  /-- The label for what an access reads. -/
  label : Option String := none
  /-- Whether instantiating a spread replaces it by the list of its elements. -/
  unroll : Bool := true
  /-- Whether a write has to be the first one to its cell. -/
  forceInit : Bool := false
  /-- Where the evaluation stands. -/
  place : Option Place := none
deriving DecidableEq, Inhabited

end ArrayCells
