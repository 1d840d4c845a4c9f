import ArrayCells.Operand

/-!
How operands are written.  No parentheses are added: an operand that needs them is a group already.
-/

namespace ArrayCells

/-- A view is written as its type, its lengths and its first cell. -/
def View.text (view : View) : String :=
  view.typeName ++ bracketed (view.shape.lengths.map Int.ofNat) ++ view.base.text

namespace Operand

mutual

/-- The written form of an operand, without labels. -/
def text : Operand → String
  | int n _ => toString n
  | range lo hi _ => boundText lo ++ ".." ++ boundText hi
  | view v _ => v.text
  | list items _ _ => "[" ++ itemsText items ++ "]"
  | spread x _ => "..." ++ text x
  | group x _ => "(" ++ text x ++ ")"
  | neg x _ => "-" ++ text x
  | arith op a b _ => text a ++ " " ++ op.symbol ++ " " ++ text b

def boundText : Option Operand → String
  | none => ""
  | some x => text x

def itemsText : List Operand → String
  | [] => ""
  | [x] => text x
  | x :: y :: rest => text x ++ "," ++ itemsText (y :: rest)

end

/-- The written form, followed by the label in a comment if there is one. -/
def labelledText (x : Operand) : String :=
  match x.label? with
  | some l => x.text ++ " /* " ++ l ++ " */"
  | none => x.text

end Operand

def TitledList.text (list : TitledList) : String :=
  "[" ++ Operand.itemsText list.items ++ "]"

end ArrayCells
