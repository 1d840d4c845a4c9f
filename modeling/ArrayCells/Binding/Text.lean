import ArrayCells.Binding
import ArrayCells.Operand
import ArrayCells.Text.Quoted

/-!
Full descriptions of views and bindings, for people who look for errors: every field with its name,
texts in quotes.
-/

namespace ArrayCells

/-- Items between brackets, separated by a comma and a blank. -/
def listed (items : List String) : String :=
  "[" ++ String.intercalate ", " items ++ "]"

/-- Fields between braces, after the name of what they belong to. -/
def described (name : String) (fields : List String) : String :=
  name ++ " \x7b " ++ String.intercalate ", " fields ++ " \x7d"

def CellId.description (cell : CellId) : String :=
  "Locator(" ++ toString cell.number ++ ")"

def View.description (view : View) : String :=
  described "ArrayView"
    ["type_name: " ++ Text.quoted view.typeName,
      "lengths: " ++ listed (view.shape.lengths.map toString),
      "base: " ++ view.base.description]

def Flags.description (flags : Flags) : String :=
  let named := flags.named.map fun (name, value) => Text.quoted name ++ ": " ++ toString value
  described "RefFlags"
    ["is_const: " ++ toString flags.constant,
      "extra: \x7b" ++ String.intercalate ", " named ++ "\x7d"]

/-- The store and the rows themselves are left out. -/
def Binding.description (b : Binding) : String :=
  let lengths :=
    match b.shape with
    | some shape => "Some(" ++ listed (shape.lengths.map toString) ++ ")"
    | none => "None"
  described "Reference"
    ["name: " ++ Text.quoted b.name,
      "type_name: " ++ Text.quoted b.typeName,
      "is_reference: " ++ toString b.isAlias,
      "lengths: " ++ lengths,
      "locator: " ++ b.base.description,
      "scope_id: ScopeId(" ++ toString b.scope.number ++ ")",
      "initialized: " ++ toString b.whole,
      "rows: " ++ toString b.rows.size,
      "flags: " ++ b.flags.description,
      ".."]

end ArrayCells
