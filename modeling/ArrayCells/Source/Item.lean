import ArrayCells.Source.Pattern

/-!
Items: the declarations that can stand among the statements of a block.  They denote nothing, and
are read only to find their end.  Modules, the only items that hold items without a block between,
are the one place where the reader of an item calls itself.
-/

namespace ArrayCells.Source

open Reader

/-! ### What items begin with -/

/-- Whether the signature of a function begins the tokens; `foreign` ones can be called safe. -/
def isSignature (foreign : Bool) (ts : List Token) : Bool :=
  let ts := afterWord ["async"] (afterWord ["const"] ts)
  let ts := afterWord (if foreign then ["unsafe", "safe"] else ["unsafe"]) ts
  isWord ["fn"] <|
    match ts with
    | .name "extern" :: .text :: rest => rest
    | _ => afterWord ["extern"] ts

/-- Whether the path of a macro begins the tokens. -/
def isMacroPath (ts : List Token) : Bool :=
  isName ts || isWord ["self", "super", "crate"] ts || isMark "::" ts

/-- Whether a macro call begins the tokens that has a name between its mark and its arguments. -/
def isNamedMacro (ts : List Token) : Bool :=
  match afterMacroName? ts with
  | some rest => isName rest || isWord ["try"] rest
  | none => false

/-- Whether a macro call with braces begins the tokens that is a statement: no field and no `?`
belongs to it. -/
def isStatementMacro (ts : List Token) : Bool :=
  match afterMacroName? ts with
  | some rest =>
    let after := dropTree rest
    isOpening .brace rest && !isPoint after && !isMark "?" after
  | none => false

/-- Whether a statement with these tokens is an item. -/
def isItem (ts : List Token) : Bool :=
  let next := ts.drop 1
  isWord ["pub", "extern", "use", "fn", "mod", "type", "struct", "enum", "trait", "impl", "macro"]
      ts
    || (isWord ["crate"] ts && !isMark "::" next)
    || (isWord ["static"] ts && (isWord ["mut"] next || isName next))
    || (isWord ["const"] ts && !isOpening .brace next && !isWord ["static", "move"] next
      && !isMark "|" next
      && (!isWord ["async"] next || isWord ["unsafe", "extern", "fn"] (next.drop 1)))
    || (isWord ["unsafe"] ts && !isOpening .brace next)
    || (isWord ["async"] ts && isWord ["unsafe", "extern", "fn"] next)
    || (isWord ["union"] ts && isName next)
    || (isWord ["auto"] ts && isWord ["trait"] next)
    || (isWord ["default"] ts && isWord ["unsafe", "impl"] next)
    || isNamedMacro ts

/-- Whether a trait begins the tokens, possibly one that holds by itself. -/
def isTrait (ts : List Token) : Bool :=
  isWord ["trait"] (afterWord ["auto"] ts)

/-! ### Parts of items -/

/-- Reads who can see an item, if that is said, and tells whether it is.  Parentheses belong to it
only if they hold a scope and nothing else, or `in` and a path. -/
def visibility : Reader Bool := do
  if ← optionalWord "pub" then
    match ← get with
    | .opening .paren :: .name "in" :: _ =>
      enclosed .paren do
        word "in"
        simplePath
    | .opening .paren :: scope :: .closing _ :: rest =>
      if isWord ["crate", "self", "super"] [scope] then set rest
    | _ => pure ()
    return true
  else
    return false

/-- Reads generic parameters, if there are any. -/
def generics (inner : Inner) (fuel : Nat) : Reader Unit := do
  if ← optionalMark "<" then
    discard <| countedTo ">" (do
      attributes inner fuel
      if !(← optionalWord "_") then genericParameter inner fuel) fuel
    mark ">"

/-- Whether a predicate, or the clause that it stands in, ends here. -/
def endsPredicate (ts : List Token) : Bool :=
  isEnd ts || isOpening .brace ts || isMark "," ts || isMark ";" ts || isColon ts || isMark "=" ts

/-- Reads what is required of a lifetime or of a type. -/
def predicate (inner : Inner) (fuel : Nat) : Reader Unit := do
  if ← sees fun ts => isLifetime ts && isMark ":" (ts.drop 1) then
    skip 2
    modify afterLifetimes
  else
    if ← seesWord "for" then binder inner fuel
    discard (type inner fuel true)
    mark ":"
    boundsUntil inner endsPredicate true fuel

/-- Reads predicates with commas between them and possibly after the last one. -/
def predicates (inner : Inner) : Nat → Reader Unit
  | 0 => failure
  | fuel + 1 => do
    if ← sees endsPredicate then return
    predicate inner fuel
    if ← optionalMark "," then predicates inner fuel

/-- Reads what is required of generic parameters, if anything is, and tells whether it is. -/
def whereClause (inner : Inner) (fuel : Nat) : Reader Bool := do
  if ← optionalWord "where" then
    if ← sees beginsGenerics then failure
    predicates inner fuel
    return true
  else
    return false

/-- Reads the parameter that stands for the value whose method is called. -/
def receiver (inner : Inner) (fuel : Nat) : Reader Unit := do
  let byReference ← optionalMark "&"
  if byReference then discard optionalLifetime
  discard (optionalWord "mut")
  word "self"
  if !byReference then
    if ← optionalMark ":" then discard (type inner fuel true)

/-- Reads the parameters of a function, of which only the first can be a receiver.  Points at the
end stand for any further ones, and what looks like a type with arguments for a nameless one. -/
def parameters (inner : Inner) : Nat → Bool → Reader Unit
  | 0, _ => failure
  | fuel + 1, first => do
    if ← atEnd then return
    attributes inner fuel
    let variadic ←
      if ← optionalMark "..." then
        pure true
      else if ← attempt (receiver inner fuel) then
        if !first then failure
        pure false
      else if ← sees fun ts => isName ts && isMark "<" (ts.drop 1) then
        discard (type inner fuel true)
        pure false
      else
        discard (pattern inner fuel)
        mark ":"
        if ← optionalMark "..." then
          pure true
        else
          discard (type inner fuel true)
          pure false
    if ← atEnd then return
    mark ","
    if !variadic then parameters inner fuel false

/-- Reads the signature of a function. -/
def signature (inner : Inner) (fuel : Nat) (foreign : Bool) : Reader Unit := do
  discard (optionalWord "const")
  discard (optionalWord "async")
  modify (afterWord (if foreign then ["unsafe", "safe"] else ["unsafe"]))
  abi
  word "fn"
  discard name
  generics inner fuel
  enclosed .paren (parameters inner fuel true)
  if ← optionalMark "->" then discard (type inner fuel true)
  discard (whereClause inner fuel)

/-- Reads a function, whose body can be left out. -/
def function (inner : Inner) (fuel : Nat) (foreign : Bool) : Reader Unit := do
  signature inner fuel foreign
  if !(← optionalMark ";") then inner.block

/-- Reads a named constant. -/
def constantItem (inner : Inner) (fuel : Nat) : Reader Unit := do
  word "const"
  nameOr ["_"]
  generics inner fuel
  mark ":"
  discard (type inner fuel true)
  if ← optionalMark "=" then inner.expression
  discard (whereClause inner fuel)
  mark ";"

/-- Where the requirements of a type alias can stand. -/
inductive ClausePlace where
  | beforeDefinition
  | afterDefinition
  | anywhere
deriving DecidableEq

/-- Reads a type alias; the bounds and the definition can be missing. -/
def typeAlias (inner : Inner) (fuel : Nat) (place : ClausePlace) : Reader Unit := do
  word "type"
  discard name
  generics inner fuel
  if ← optionalMark ":" then
    boundsUntil inner (fun ts => isWord ["where"] ts || isMark "=" ts || isMark ";" ts) true fuel
  let required ← if place == .afterDefinition then pure false else whereClause inner fuel
  if ← optionalMark "=" then discard (type inner fuel true)
  if !required && place != .beforeDefinition then discard (whereClause inner fuel)
  mark ";"

/-- Reads a macro call that stands for items; `named` tells whether a name can come before the
arguments. -/
def macroItem (named : Bool) : Reader Unit := do
  if !(← sees isMacroPath) then failure
  simplePath
  mark "!"
  if named then
    if (← sees isName) || (← seesWord "try") then skip 1
  if (← anyGroup) != .brace then mark ";"

/-- Reads the definition of a macro: optional parameters and a body, which can be any tokens. -/
def macroDefinition : Reader Unit := do
  word "macro"
  discard name
  if ← seesOpening .paren then discard anyGroup
  if ← seesOpening .brace then discard anyGroup else failure

/-- Reads braces with attributes of what contains them and any number of members. -/
def membersOf (inner : Inner) (fuel : Nat) (one : Reader Unit) : Reader Unit :=
  enclosed .brace do
    innerAttributes inner fuel
    toEnd (do attributes inner fuel; one) fuel

/-! ### Items without members -/

/-- Reads the import of a library. -/
def externCrate : Reader Unit := do
  word "extern"
  word "crate"
  nameOr ["self"]
  if ← optionalWord "as" then nameOr ["_"]
  mark ";"

/-- Reads what an import names: one thing, all of a scope, or a group.  A `::` can begin the members
of a group while `rooted` holds, that is, as long as nothing stands before it. -/
def useTree : Nat → Bool → Reader Unit
  | 0, _ => failure
  | fuel + 1, rooted => do
    if ← optionalMark "*" then return
    else if ← seesOpening .brace then
      discard <| enclosed .brace <| separated (do
        if rooted then
          let absolute ← optionalMark "::"
          useTree fuel (!absolute)
        else
          useTree fuel false) fuel
    else
      nameOr ["self", "super", "crate", "try"]
      if ← optionalMark "::" then useTree fuel false
      else if ← optionalWord "as" then nameOr ["_"]

/-- Reads an import. -/
def useItem (fuel : Nat) : Reader Unit := do
  word "use"
  let absolute ← optionalMark "::"
  useTree fuel (!absolute)
  mark ";"

/-- Reads a global variable, which has a type or a value. -/
def staticItem (inner : Inner) (fuel : Nat) : Reader Unit := do
  word "static"
  discard (optionalWord "mut")
  discard name
  if !(← seesMark "=") then
    mark ":"
    discard (type inner fuel true)
    if ← optionalMark ";" then return
  mark "="
  inner.expression
  mark ";"

/-- Reads the fields of a tuple-like structure. -/
def tupleFields (inner : Inner) (fuel : Nat) : Reader Unit := do
  discard <| enclosed .paren <| separated (do
    attributes inner fuel
    discard visibility
    discard (type inner fuel true)) fuel

/-- Reads fields with names.  A field without a name can hold fields of its own. -/
def namedFields (inner : Inner) : Nat → Reader Unit
  | 0 => failure
  | fuel + 1 =>
    discard <| enclosed .brace <| separated (do
      attributes inner fuel
      discard visibility
      let unnamed ← seesWord "_"
      nameOr ["_"]
      mark ":"
      if unnamed && (← sees fun ts =>
          isWord ["struct"] ts || (isWord ["union"] ts && isOpening .brace (ts.drop 1))) then
        skip 1
        namedFields inner fuel
      else
        discard (type inner fuel true)) fuel

/-- Reads a structure. -/
def structItem (inner : Inner) (fuel : Nat) : Reader Unit := do
  word "struct"
  discard name
  generics inner fuel
  let required ← whereClause inner fuel
  if !required && (← seesOpening .paren) then
    tupleFields inner fuel
    discard (whereClause inner fuel)
    mark ";"
  else if ← seesOpening .brace then
    namedFields inner fuel
  else
    mark ";"

/-- Reads an enumeration. -/
def enumItem (inner : Inner) (fuel : Nat) : Reader Unit := do
  word "enum"
  discard name
  generics inner fuel
  discard (whereClause inner fuel)
  discard <| enclosed .brace <| separated (do
    attributes inner fuel
    discard visibility
    discard name
    if ← seesOpening .brace then namedFields inner fuel
    else if ← seesOpening .paren then tupleFields inner fuel
    if ← optionalMark "=" then inner.expression) fuel

/-- Reads a union. -/
def unionItem (inner : Inner) (fuel : Nat) : Reader Unit := do
  word "union"
  discard name
  generics inner fuel
  discard (whereClause inner fuel)
  namedFields inner fuel

/-! ### Items with members -/

/-- Reads a member of a trait. -/
def traitMember (inner : Inner) (fuel : Nat) : Reader Unit := do
  let visible ← visibility
  let preset ← optionalWord "default"
  if ← sees (isSignature false) then function inner fuel false
  else if ← seesWord "const" then constantItem inner fuel
  else if ← seesWord "type" then typeAlias inner fuel .afterDefinition
  else if visible || preset then failure
  else macroItem false

/-- Reads a trait, or the name of several bounds. -/
def traitItem (inner : Inner) (fuel : Nat) : Reader Unit := do
  let marked ← sees (isWord ["unsafe", "auto"])
  discard (optionalWord "unsafe")
  discard (optionalWord "auto")
  word "trait"
  discard name
  generics inner fuel
  if !marked && (← seesMark "=") then
    skip 1
    boundsUntil inner (fun ts => isWord ["where"] ts || isMark ";" ts) false fuel
    discard (whereClause inner fuel)
    mark ";"
  else
    if ← optionalMark ":" then
      boundsUntil inner (fun ts => isWord ["where"] ts || isOpening .brace ts) true fuel
    discard (whereClause inner fuel)
    membersOf inner fuel (traitMember inner fuel)

/-- Reads a member of an implementation. -/
def implMember (inner : Inner) (fuel : Nat) : Reader Unit := do
  let visible ← visibility
  let preset ← sees fun ts => isWord ["default"] ts && !isMark "!" (ts.drop 1)
  if preset then skip 1
  if ← sees (isSignature false) then function inner fuel false
  else if ← seesWord "const" then constantItem inner fuel
  else if ← seesWord "type" then typeAlias inner fuel .afterDefinition
  else if visible || preset then failure
  else macroItem false

/-- Reads an implementation.  Only that of a trait can be negative. -/
def implItem (inner : Inner) (fuel : Nat) : Reader Unit := do
  discard (optionalWord "default")
  discard (optionalWord "unsafe")
  word "impl"
  if ← sees beginsGenerics then generics inner fuel
  if ← sees fun ts => isMark "?" ts && isWord ["const"] (ts.drop 1) then skip 2
  else discard (optionalWord "const")
  let negative ← sees fun ts => isMark "!" ts && !isOpening .brace (ts.drop 1)
  if negative then skip 1
  discard (type inner fuel true)
  if ← optionalWord "for" then discard (type inner fuel true)
  else if negative then failure
  discard (whereClause inner fuel)
  membersOf inner fuel (implMember inner fuel)

/-- Reads a member of a block of foreign items. -/
def foreignMember (inner : Inner) (fuel : Nat) : Reader Unit := do
  let visible ← visibility
  if ← sees (isSignature true) then function inner fuel true
  else if ← sees fun ts => isWord ["static"] (afterWord ["unsafe", "safe"] ts) then
    modify (afterWord ["unsafe", "safe"])
    word "static"
    discard (optionalWord "mut")
    discard name
    mark ":"
    discard (type inner fuel true)
    if ← optionalMark "=" then inner.expression
    mark ";"
  else if ← seesWord "type" then typeAlias inner fuel .anywhere
  else if visible then failure
  else macroItem false

/-- Reads a block of foreign items. -/
def foreignBlock (inner : Inner) (fuel : Nat) : Reader Unit := do
  discard (optionalWord "unsafe")
  if !(← seesWord "extern") then failure
  abi
  membersOf inner fuel (foreignMember inner fuel)

/-- Reads an item after its attributes. -/
def item (inner : Inner) : Nat → Reader Unit
  | 0 => failure
  | fuel + 1 => do
    let visible ← visibility
    let ts ← get
    let bare := afterWord ["unsafe"] ts
    if isSignature false ts then function inner fuel false
    else if isWord ["extern"] ts && isWord ["crate"] (ts.drop 1) then externCrate
    else if isWord ["extern"] bare then
      if visible then failure
      foreignBlock inner fuel
    else if isWord ["use"] ts then useItem fuel
    else if isWord ["static"] ts then staticItem inner fuel
    else if isWord ["const"] ts then constantItem inner fuel
    else if isWord ["mod"] bare then
      discard (optionalWord "unsafe")
      word "mod"
      nameOr ["try"]
      if !(← optionalMark ";") then membersOf inner fuel (item inner fuel)
    else if isWord ["type"] ts then typeAlias inner fuel .beforeDefinition
    else if isWord ["struct"] ts then structItem inner fuel
    else if isWord ["enum"] ts then enumItem inner fuel
    else if isWord ["union"] ts && isName (ts.drop 1) then unionItem inner fuel
    else if isTrait bare then traitItem inner fuel
    else if isWord ["impl"] bare || (isWord ["default"] ts && !isMark "!" (ts.drop 1)) then
      implItem inner fuel
    else if isWord ["macro"] ts then macroDefinition
    else if visible then failure
    else macroItem true

end ArrayCells.Source
