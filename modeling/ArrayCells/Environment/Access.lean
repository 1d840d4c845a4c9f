import ArrayCells.Environment
import ArrayCells.Source.Lowering

/-!
Evaluating accesses that are given as text.
-/

namespace ArrayCells.Environment

/-- What the access in a text reads.  Text that is no access is refused without a place. -/
def access {σ : Type} [CellStore σ] (env : Environment σ) (text : String) (ctx : Context) :
    Except Fault Operand := do
  let (name, indexes) ← Source.accessOfText text
  env.read name indexes ctx

end ArrayCells.Environment
