import ArrayCells.Source.Type

/-!
Patterns inside expressions.  Like types, patterns are read only to find their end.
-/

namespace ArrayCells.Source

open Reader

/-- Whether the tokens begin with a path that is more than a binding name. -/
def isPathPattern (ts : List Token) : Bool :=
  let next := ts.drop 1
  (isName ts && (isMark "::" next || isMark "!" next || isMark ".." next || isOpening .brace next
      || isOpening .paren next))
    || (isWord ["self"] ts && isMark "::" next)
    || isMark "::" ts || isMark "<" ts
    || isWord ["Self", "super", "crate"] ts

/-- Whether a range pattern ends here, without an upper bound. -/
def endsRangePattern (ts : List Token) : Bool :=
  isEnd ts || isMark "|" ts || isMark "=" ts || isColon ts || isMark "," ts || isMark ";" ts
    || isWord ["if"] ts

/-- Whether a bar begins the tokens that separates alternatives. -/
def isAlternative (ts : List Token) : Bool :=
  isMark "|" ts && !isMark "||" ts && !isMark "|=" ts

/-- Reads what a range pattern can have as a bound: a literal, a block of constants or a path. -/
def patternBound (inner : Inner) (fuel : Nat) : Reader Unit := do
  if ← sees isLiteral then literal
  else if ← optionalWord "const" then inner.block
  else if ← sees isPathStart then discard (path inner fuel true)
  else failure

/-- Reads the upper bound of a range pattern and tells whether there is one.  A closed range has to
have it. -/
def upperBound (inner : Inner) (fuel : Nat) (closed : Bool) : Reader Bool := do
  if ← sees endsRangePattern then
    if closed then failure
    return false
  else
    patternBound inner fuel
    return true

/-- Reads the rest of a range pattern after its lower bound, if one goes on here, and tells whether
that is a range without an upper bound.  The operator of a closed range can be written with three
points. -/
def rangeAfterBound (inner : Inner) (fuel : Nat) : Reader Bool := do
  if (← seesMark "..=") || (← seesMark "...") then
    skip 3
    discard (upperBound inner fuel true)
    return false
  else if ← optionalMark ".." then
    return !(← upperBound inner fuel false)
  else
    return false

mutual

/-- Reads a pattern without alternatives, and tells whether it is a range that lacks a bound. -/
def pattern (inner : Inner) : Nat → Reader Bool
  | 0 => failure
  | n + 1 => do
    if ← sees isPathPattern then
      let p ← path inner n true
      if p.isPlain && (← sees isBang) then
        skip 1
        discard anyGroup
        return false
      else if ← seesOpening .brace then
        enclosed .brace (fieldPatterns inner n)
        return false
      else if ← seesOpening .paren then
        discard (enclosed .paren (separated (patterns inner n) n))
        return false
      else
        rangeAfterBound inner n
    else if ← optionalWord "_" then
      return false
    else if ← optionalWord "box" then
      discard (pattern inner n)
      return false
    else if (← sees isLiteral) || (← seesWord "const") then
      patternBound inner n
      rangeAfterBound inner n
    else if (← sees isName) || (← sees (isWord ["ref", "mut", "self"])) then
      discard (optionalWord "ref")
      discard (optionalWord "mut")
      nameOr ["self"]
      if ← optionalMark "@" then discard (pattern inner n)
      return false
    else if ← optionalMark "&" then
      discard (optionalWord "mut")
      discard (pattern inner n)
      return false
    else if ← seesOpening .paren then
      discard (enclosed .paren (separated (patterns inner n) n))
      return false
    else if ← seesOpening .bracket then
      discard (enclosed .bracket (separated (elementPattern inner n) n))
      return false
    else if ← seesMark "..." then
      failure
    else if ← optionalMark "..=" then
      upperBound inner n true
    else if ← optionalMark ".." then
      upperBound inner n false
    else failure

/-- Reads an element of a slice pattern; a range that lacks a bound would need parentheses. -/
def elementPattern (inner : Inner) : Nat → Reader Unit
  | 0 => failure
  | n + 1 => do
    if ← patterns inner n then failure

/-- Reads the patterns of the fields of a structure. -/
def fieldPatterns (inner : Inner) : Nat → Reader Unit
  | 0 => failure
  | n + 1 => do
    if ← atEnd then return
    attributes inner n
    if ← optionalMark ".." then return
    let boxed ← optionalWord "box"
    let byReference ← optionalWord "ref"
    let mutable ← optionalWord "mut"
    if boxed || byReference || mutable then
      discard name
    else if ← fieldLabel then
      if ← optionalMark ":" then discard (patterns inner n)
    else
      mark ":"
      discard (patterns inner n)
    if ← atEnd then return
    mark ","
    fieldPatterns inner n

/-- Reads alternatives, of which a bar may also stand before the first, and tells whether they are a
single range that lacks a bound. -/
def patterns (inner : Inner) : Nat → Reader Bool
  | 0 => failure
  | n + 1 => do
    let barred ← optionalMark "|"
    let partially ← pattern inner n
    let alternatives ← sees isAlternative
    whileSeen isAlternative (do
      mark "|"
      discard (pattern inner n)) n
    return partially && !barred && !alternatives

end

end ArrayCells.Source
