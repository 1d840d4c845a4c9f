import ArrayCells.Source.Reader

/-!
Attributes, and calls of built-in forms.  They are read only to find their end.  The value of an
attribute is an expression, the reader of which is given as part of `Inner`.
-/

namespace ArrayCells.Source

open Reader

/-- The readers of what attributes, types, patterns and items can hold. -/
structure Inner where
  expression : Reader Unit
  /-- A block, which can begin with attributes of its own. -/
  block : Reader Unit

/-- Reads what stands between the brackets of an attribute: a path, and possibly a group or a value
after it.  No attribute can begin the value. -/
def attributeBody (inner : Inner) : Reader Unit := do
  if !(← optionalWord "unsafe") then simplePath
  if ← optionalMark "=" then
    if ← sees fun ts => isMark "#" ts && isOpening .bracket (ts.drop 1) then failure
    inner.expression
  else if !(← atEnd) then discard anyGroup

/-- Reads the attributes of what follows. -/
def attributes (inner : Inner) (fuel : Nat) : Reader Unit :=
  whileSeen (isMark "#") (do
    mark "#"
    enclosed .bracket (attributeBody inner)) fuel

/-- Reads the attributes of what contains them. -/
def innerAttributes (inner : Inner) (fuel : Nat) : Reader Unit :=
  whileSeen (fun ts => isMark "#" ts && isMark "!" (ts.drop 1)) (do
    skip 2
    enclosed .bracket (attributeBody inner)) fuel

/-- Whether a built-in form begins the tokens. -/
def isBuiltin (ts : List Token) : Bool :=
  isWord ["builtin"] ts && isMark "#" (ts.drop 1)

/-- Reads a built-in form: its name and its arguments, which can be any tokens. -/
def builtinForm : Reader Unit := do
  word "builtin"
  mark "#"
  discard name
  if !(← seesOpening .paren) then failure
  discard anyGroup

end ArrayCells.Source
