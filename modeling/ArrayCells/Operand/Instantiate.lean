import ArrayCells.Operand.Element

/-!
Instantiation prepares operands for use as arguments.  It keeps their structure, except that the
items of a list are spliced: an item that is a group directly around a spread is replaced by what
the spread stands for.  A spread on its own becomes a list if `unroll` is set and stays otherwise.
-/

namespace ArrayCells.Operand

variable {σ : Type} [CellStore σ]

/-- What an instantiated item contributes to its list. -/
def spliced (store : σ) : Operand → Except Fault (List Operand)
  | group (spread x _) _ => x.elements store
  | x => .ok [x]

mutual

/-- The operand with spreads inside its lists spliced, and all labels kept. -/
def instantiate (store : σ) (unroll : Bool) : Operand → Except Fault Operand
  | int n l => .ok (int n l)
  | view v l => .ok (view v l)
  | range lo hi l => do
    let lo ← instantiateBound store unroll lo
    let hi ← instantiateBound store unroll hi
    return range lo hi l
  | list items _ l => return list (← materializeItems store items) none l
  | group x l => return group (← instantiate store unroll x) l
  | neg x l => return neg (← instantiate store unroll x) l
  | arith op a b l => do
    let a ← instantiate store unroll a
    let b ← instantiate store unroll b
    return arith op a b l
  | spread x l => do
    let inner ← instantiate store unroll x
    if unroll then
      return list (← inner.elements store) none l
    else
      return spread inner l

def instantiateBound (store : σ) (unroll : Bool) : Option Operand → Except Fault (Option Operand)
  | none => .ok none
  | some x => return some (← instantiate store unroll x)

/-- The items of a list, each instantiated without unrolling and then spliced, from left to
right. -/
def materializeItems (store : σ) : List Operand → Except Fault (List Operand)
  | [] => .ok []
  | x :: rest => do
    let y ← instantiate store false x
    let here ← spliced store y
    let others ← materializeItems store rest
    return here ++ others

end

end ArrayCells.Operand

namespace ArrayCells

/-- The list with its spreads spliced, without a title. -/
def TitledList.materialize {σ : Type} [CellStore σ] (store : σ) (list : TitledList) :
    Except Fault TitledList :=
  return { items := ← Operand.materializeItems store list.items }

end ArrayCells
