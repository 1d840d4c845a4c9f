import ArrayCells.Source.Attribute

/-!
Types, paths and bounds inside expressions.  Nothing of a type is kept but what decides how reading
goes on; the readers find its end.  A type can hold expressions (the length of an array) and blocks
(constant arguments), the readers of which are given as `Inner`.

The argument `plus` of a reader tells whether bounds can be added with a plus.
-/

namespace ArrayCells.Source

open Reader

/-- A part of a path, and the number of its arguments if it has any brackets for them. -/
structure Segment where
  text : String
  arguments : Option Nat

/-- What is kept of a path. -/
structure Path where
  /-- Whether a type in angle brackets begins it. -/
  qualified : Bool
  /-- Whether a `::` begins it. -/
  rooted : Bool
  segments : List Segment

namespace Path

/-- Whether the path is one segment. -/
def isSingle (p : Path) : Bool :=
  !p.qualified && !p.rooted && p.segments.length == 1

/-- The name, if the path is a single identifier. -/
def name? (p : Path) : Option String :=
  match p.segments with
  | [⟨text, none⟩] => if p.qualified || p.rooted then none else some text
  | _ => none

/-- Whether the path has neither a type before it nor arguments, so that a macro can have it. -/
def isPlain (p : Path) : Bool :=
  !p.qualified && p.segments.all fun s => s.arguments.isNone

/-- Whether arguments in parentheses can follow: the last segment has none so far. -/
def takesArguments (p : Path) : Bool :=
  match p.segments.getLast? with
  | some s => s.arguments.getD 0 == 0
  | none => false

end Path

/-- What it depends on how reading goes on after a type. -/
inductive TypeShape where
  /-- A path of one segment. -/
  | name
  /-- Any other path that no type begins. -/
  | path
  /-- One trait that stands for its objects. -/
  | bound
  | other
deriving DecidableEq

/-- Whether a path begins the tokens. -/
def isPathStart (ts : List Token) : Bool :=
  isName ts || isWord scopeWords ts || isMark "::" ts || isMark "<" ts

/-- Whether a `<` begins the tokens that is not part of a longer comparison. -/
def isAngle (ts : List Token) : Bool :=
  isMark "<" ts && !isMark "<=" ts && !isMark "<<=" ts

/-- Whether a `::` begins the tokens that is followed by a `<`. -/
def isArgumentMark (ts : List Token) : Bool :=
  isMark "::" ts && isMark "<" (ts.drop 2)

/-- Whether arguments in parentheses begin the tokens. -/
def isFunctionArguments (ts : List Token) : Bool :=
  isOpening .paren ts || (isMark "::" ts && isOpening .paren (ts.drop 2))

/-- Whether a constant argument begins the tokens that cannot be a type. -/
def isConstant (ts : List Token) : Bool :=
  isLiteral ts || isOpening .brace ts

/-- Whether a bound can begin with these tokens after a plus; `constness` tells whether one that is
conditional on constness can. -/
def isFurtherBound (constness : Bool) (ts : List Token) : Bool :=
  isAnyName ts || isMark "::" ts || isMark "?" ts || isLifetime ts || isOpening .paren ts
    || (constness && isOpening .bracket ts)

/-- Whether generic parameters begin the tokens, and not a path with a type before it. -/
def beginsGenerics (ts : List Token) : Bool :=
  let first := ts.drop 1
  let second := ts.drop 2
  isMark "<" ts
    && (isMark ">" first || isMark "#" first || isWord ["const"] first
      || ((isLifetime first || isName first)
        && (isMark ">" second || isMark "," second || isMark "=" second || isColon second)))

/-- Whether a name and a colon begin the tokens. -/
def isNamed (ts : List Token) : Bool :=
  (isName ts || isWord ["_"] ts) && isColon (ts.drop 1)

/-- Reads how a function is called from elsewhere, if that is said. -/
def abi : Reader Unit := do
  if ← optionalWord "extern" then
    if ← sees (fun ts => match ts with | .text :: _ => true | _ => false) then skip 1

mutual

/-- Reads a type. -/
def type (inner : Inner) : Nat → Bool → Reader TypeShape
  | 0, _ => failure
  | n + 1, plus => do
    let binds ← seesWord "for"
    if binds then
      binder inner n
      if !(← sees fun ts => isName ts || isWord ("fn" :: "unsafe" :: "extern" :: scopeWords) ts)
        then failure
    if ← seesOpening .paren then groupType inner n plus
    else if ← sees (isWord ["fn", "unsafe", "extern"]) then
      functionType inner n
      return .other
    else if ← sees isBuiltin then
      builtinForm
      return .other
    else if ← sees isPathStart then pathType inner n plus binds
    else if ← optionalWord "dyn" then
      discard (optionalMark "*")
      if !(← bounds inner n plus false) then failure
      return .other
    else if ← seesOpening .bracket then
      enclosed .bracket do
        discard (type inner n true)
        if ← optionalMark ";" then inner.expression
      return .other
    else if ← optionalMark "*" then
      if !(← optionalWord "const") then word "mut"
      discard (type inner n false)
      return .other
    else if ← optionalMark "&" then
      discard optionalLifetime
      discard (optionalWord "mut")
      discard (type inner n false)
      return .other
    else if ← optionalMark "!" then
      return .other
    else if ← optionalWord "impl" then
      if !(← bounds inner n plus true) then failure
      return .other
    else if ← optionalWord "_" then
      return .other
    else if ← sees isLifetime then
      if !(← bounds inner n true false) then failure
      return .other
    else failure

/-- Reads a type that begins with a parenthesis: a tuple, a type in parentheses, or bounds of which
the first one is in parentheses. -/
def groupType (inner : Inner) : Nat → Bool → Reader TypeShape
  | 0, _ => failure
  | n + 1, plus => do
    let (relaxed, shape) ← enclosed .paren do
      if ← atEnd then
        return (false, .other)
      else if ← sees isLifetime then
        if !(← bounds inner n true false) then failure
        return (false, .other)
      else if ← seesMark "?" then
        traitBound inner n false
        return (true, .bound)
      else
        let shape ← type inner n true
        if ← optionalMark "," then
          discard (separated (type inner n true) n)
          return (false, TypeShape.other)
        else
          return (false, shape)
    if relaxed then
      if ← seesMark "+" then
        addedBounds inner n
        return .other
      else
        return .bound
    else
      if plus && shape != .other then addedBounds inner n
      return .other

/-- Reads a type that begins with a path; `binds` tells whether parameters were bound before it. -/
def pathType (inner : Inner) : Nat → Bool → Bool → Reader TypeShape
  | 0, _, _ => failure
  | n + 1, plus, binds => do
    let p ← path inner n false
    if p.qualified then
      return .other
    else if p.isPlain && (← sees isBang) then
      skip 1
      discard anyGroup
      return .other
    else if plus && (← seesMark "+") then
      skip 1
      if ← sees (isFurtherBound false) then discard (bounds inner n true false)
      return .other
    else
      return if binds then .bound else if p.isSingle then .name else .path

/-- Reads the type of a function. -/
def functionType (inner : Inner) : Nat → Reader Unit
  | 0 => failure
  | n + 1 => do
    discard (optionalWord "unsafe")
    abi
    word "fn"
    enclosed .paren (functionParameters inner n true)
    if ← optionalMark "->" then discard (type inner n false)

/-- Reads the parameters of the type of a function, which can have names.  Points at the end stand
for any further ones. -/
def functionParameters (inner : Inner) : Nat → Bool → Reader Unit
  | 0, _ => failure
  | n + 1, first => do
    if ← atEnd then return
    attributes inner n
    if ← sees fun ts => isMark "..." ts || (isNamed ts && isMark "..." (ts.drop 2)) then
      if ← sees isNamed then skip 2
      mark "..."
      discard (optionalMark ",")
    else
      functionParameter inner n first
      if ← atEnd then return
      mark ","
      functionParameters inner n false

/-- Reads a parameter of the type of a function.  The first one can be `self`. -/
def functionParameter (inner : Inner) : Nat → Bool → Reader Unit
  | 0, _ => failure
  | n + 1, first => do
    let isMutableSelf (ts : List Token) := first && isWord ["mut"] ts && isWord ["self"] (ts.drop 1)
    let isOwn (ts : List Token) := first && isWord ["self"] ts && isColon (ts.drop 1)
    let mutable ← sees isMutableSelf
    if mutable then skip 1
    if ← sees isOwn then
      skip 2
      discard (type inner n true)
    else if mutable then
      word "self"
    else
      if ← sees isNamed then skip 2
      if ← sees isMutableSelf then skip 2 else discard (type inner n true)

/-- Reads bounds, and tells whether there is a trait among them.  `implicit` tells whether they are
those of a type that is not named, which can also say what it captures. -/
def bounds (inner : Inner) : Nat → Bool → Bool → Reader Bool
  | 0, _, _ => failure
  | n + 1, plus, implicit => do
    let isTrait ← bound inner n implicit implicit
    if plus && (← seesMark "+") then
      skip 1
      if ← sees (isFurtherBound implicit) then
        return (← bounds inner n plus implicit) || isTrait
    return isTrait

/-- Reads any number of bounds, each after a plus. -/
def addedBounds (inner : Inner) : Nat → Reader Unit
  | 0 => failure
  | n + 1 => do
    if ← optionalMark "+" then
      discard (bound inner n false false)
      addedBounds inner n

/-- Reads bounds with plus signs between them and possibly after the last one, until the test holds
of what comes next. -/
def boundsUntil (inner : Inner) (stop : List Token → Bool) (constness : Bool) : Nat → Reader Unit
  | 0 => failure
  | n + 1 => do
    if ← sees stop then return
    discard (bound inner n constness false)
    if ← optionalMark "+" then boundsUntil inner stop constness n

/-- Reads a bound, and tells whether it is a trait. -/
def bound (inner : Inner) : Nat → Bool → Bool → Reader Bool
  | 0, _, _ => failure
  | n + 1, constness, capture => do
    if ← optionalLifetime then
      return false
    else if ← optionalWord "use" then
      if !capture then failure
      mark "<"
      discard <| countedTo ">" (do if !(← optionalLifetime) then nameOr ["Self"]) n
      mark ">"
      return false
    else
      if ← seesOpening .paren then enclosed .paren (traitBound inner n constness)
      else traitBound inner n constness
      return true

/-- Reads a trait with the parameters that are bound before it.  A `?` makes it a relaxed bound,
before which nothing can be bound. -/
def traitBound (inner : Inner) : Nat → Bool → Reader Unit
  | 0, _ => failure
  | n + 1, constness => do
    let binds ← seesWord "for"
    if binds then binder inner n
    if ← seesOpening .bracket then
      if !constness then failure
      enclosed .bracket (word "const")
    else if ← optionalWord "const" then
      if !constness then failure
    if ← optionalMark "?" then
      if binds then failure
    let p ← unqualifiedPath inner n false
    if p.takesArguments && (← sees isFunctionArguments) then
      discard (optionalMark "::")
      discard (enclosed .paren (separated (type inner n true) n))
      if ← optionalMark "->" then discard (type inner n false)

/-- Reads parameters that are bound for what follows. -/
def binder (inner : Inner) : Nat → Reader Unit
  | 0 => failure
  | n + 1 => do
    word "for"
    mark "<"
    discard (countedTo ">" (genericParameter inner n) n)
    mark ">"

/-- Reads a generic parameter: a lifetime, a type or a constant. -/
def genericParameter (inner : Inner) : Nat → Reader Unit
  | 0 => failure
  | n + 1 => do
    attributes inner n
    if ← optionalLifetime then
      if ← optionalMark ":" then modify afterLifetimes
    else if ← optionalWord "const" then
      discard name
      mark ":"
      discard (type inner n true)
      if ← optionalMark "=" then constant inner n
    else
      discard name
      if ← optionalMark ":" then
        boundsUntil inner (fun ts => isEnd ts || isMark "," ts || isMark ">" ts || isMark "=" ts)
          true n
      if ← optionalMark "=" then discard (type inner n true)

/-- Reads a path, which a type in angle brackets can begin.  In expressions, arguments need a `::`
before them. -/
def path (inner : Inner) : Nat → Bool → Reader Path
  | 0, _ => failure
  | n + 1, inExpression => do
    if ← optionalMark "<" then
      discard (type inner n true)
      if ← optionalWord "as" then discard (unqualifiedPath inner n false)
      mark ">"
      mark "::"
      return ⟨true, true, ← segments inner n inExpression true⟩
    else
      unqualifiedPath inner n inExpression

/-- Reads a path that begins with its first name or with `::`. -/
def unqualifiedPath (inner : Inner) : Nat → Bool → Reader Path
  | 0, _ => failure
  | n + 1, inExpression => do
    let rooted ← optionalMark "::"
    return ⟨false, rooted, ← segments inner n inExpression false⟩

/-- Reads the segments of a path.  A parenthesis after a `::` ends a path, unless a type began
it. -/
def segments (inner : Inner) : Nat → Bool → Bool → Reader (List Segment)
  | 0, _, _ => failure
  | n + 1, inExpression, qualified => do
    let s ← segment inner n inExpression
    if (← seesMark "::") && (qualified || !(← sees fun ts => isOpening .paren (ts.drop 2))) then
      skip 2
      return s :: (← segments inner n inExpression qualified)
    else
      return [s]

/-- Reads a segment of a path with its arguments. -/
def segment (inner : Inner) : Nat → Bool → Reader Segment
  | 0, _ => failure
  | n + 1, inExpression => do
    match ← get with
    | .name text :: rest =>
      set rest
      if ["self", "super", "crate", "try"].contains text then
        return ⟨text, none⟩
      else if text != "Self" && keywords.contains text then
        failure
      else if (!inExpression && (← sees isAngle)) || (← sees isArgumentMark) then
        return ⟨text, some (← arguments inner n)⟩
      else
        return ⟨text, none⟩
    | _ => failure

/-- Reads arguments between angle brackets, and tells how many there are. -/
def arguments (inner : Inner) : Nat → Reader Nat
  | 0 => failure
  | n + 1 => do
    discard (optionalMark "::")
    mark "<"
    let count ← countedTo ">" (argument inner n) n
    mark ">"
    return count

/-- Reads a lifetime, a constant, a type, or a name that is given a type or bounds. -/
def argument (inner : Inner) : Nat → Reader Unit
  | 0 => failure
  | n + 1 => do
    if ← sees fun ts => isLifetime ts && !isMark "+" (ts.drop 1) then skip 1
    else if ← sees isConstant then constant inner n
    else if (← type inner n true) == .name then
      if ← optionalMark "=" then
        if ← sees isConstant then constant inner n else discard (type inner n true)
      else if ← optionalMark ":" then
        boundsUntil inner (fun ts => isMark "," ts || isMark ">" ts) true n

/-- Reads a constant that stands among types: a literal, a name or a block. -/
def constant (inner : Inner) : Nat → Reader Unit
  | 0 => failure
  | _ + 1 => do
    if ← seesOpening .brace then inner.block
    else if ← sees isLiteral then literal
    else discard name

end

end ArrayCells.Source
