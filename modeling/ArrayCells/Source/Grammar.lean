import ArrayCells.Source.Item
import ArrayCells.Source.Lexer
import ArrayCells.Source.Precedence

/-!
The grammar of expressions.  `expression` reads one as far as it goes; a text is an expression if
all of its tokens are used up.  The readers call one another with one unit of fuel less.  Between
two tokens there are at most two dozen calls, so the fuel that `Expr.ofText?` begins with is never
used up: a reader fails because of the tokens alone.

The argument `braces` tells whether a brace after a path opens a structure literal.  It does not
where a block has to follow the expression.
-/

namespace ArrayCells.Source

open Reader

/-- Whether nothing that follows an open range operator can be its upper bound. -/
def endsOpenRange (braces : Bool) (ts : List Token) : Bool :=
  isEnd ts || isWord ["as"] ts || (!braces && isOpening .brace ts) || isPoint ts
    || [",", ";", "?", "=>", "=", "+", "/", "%", "^", ">", "<=", "!=", "-=", "*=", "&=", "|=",
        "<<="].any fun op => isMark op ts

/-- Whether an expression can begin with these tokens. -/
def canBegin (ts : List Token) : Bool :=
  match ts with
  | .name text :: _ => text != "as"
  | .opening _ :: _ | .lifetime _ :: _ => true
  | _ =>
    isLiteral ts || isBang ts || isAngle ts
      || (isMark "-" ts && !isMark "-=" ts && !isMark "->" ts)
      || (isMark "*" ts && !isMark "*=" ts)
      || (isMark "|" ts && !isMark "|=" ts)
      || (isMark "&" ts && !isMark "&=" ts)
      || isMark ".." ts || isMark "::" ts || isMark "#" ts

/-- Whether a closure begins the tokens. -/
def isClosure (ts : List Token) : Bool :=
  let next := ts.drop 1
  isMark "|" ts || isWord ["move", "static"] ts
    || (isWord ["const"] ts && !isOpening .brace next)
    || (isWord ["async"] ts && (isMark "|" next || isWord ["move"] next))
    || (isWord ["for"] ts && beginsGenerics next)

/-- Whether a path begins the tokens that stands for a value.  The word of a fallible block can
begin one that goes on, or the call of a macro. -/
def isValuePath (ts : List Token) : Bool :=
  isPathStart ts || (isWord ["try"] ts && (isMark "!" (ts.drop 1) || isMark "::" (ts.drop 1)))

/-- Whether the digits are the number of a tuple field. -/
def isFieldText (digits : List Char) : Bool :=
  match integer? digits with
  | some (.integer n false, []) => isFieldNumber n
  | _ => false

/-- Whether the parts of a floating point literal before and after its point are numbers of tuple
fields; the second one can be missing, and this is then told. -/
def fieldsOfDecimal? (text : String) : Option Bool :=
  let whole := text.toList.takeWhile (· != '.')
  let fraction := text.toList.drop (whole.length + 1)
  if isFieldText whole && (fraction.isEmpty || isFieldText fraction) then some fraction.isEmpty
  else none

/-- Reads arguments after the name of a field, if there are any. -/
def typeArguments (inner : Inner) (fuel : Nat) : Reader Bool := do
  if ← seesMark "::" then
    discard (arguments inner fuel)
    return true
  else
    return false

mutual

/-- Reads an expression as far as it goes. -/
def expression : Nat → Bool → Reader Expr
  | 0, _ => failure
  | n + 1, braces => do climb n braces .jump (← unary n braces)

/-- Continues after an expression with whatever binds at least as tightly as `base`.  A range joins
nothing further, and comparisons do not chain. -/
def climb : Nat → Bool → Precedence → Expr → Reader Expr
  | 0, _, _, _ => failure
  | n + 1, braces, base, lhs => do
    if lhs.isRange then return lhs
    match junction? (← get) with
    | none => return lhs
    | some junction =>
      if junction.precedence < base then return lhs
      match junction with
      | .binary op =>
        if op.precedence == .compare && lhs.isComparison then failure
        skip op.symbol.length
        let rhs ← operand n braces op.precedence
        climb n braces base (op.apply lhs rhs)
      | .assignment =>
        skip 1
        discard (operand n braces .assign)
        climb n braces base (.other .assignment)
      | .range =>
        climb n braces base (← range n braces (some lhs))
      | .cast =>
        skip 1
        discard (type (inner n) n false)
        if ← sees fun ts =>
            isPoint ts || isMark "?" ts || isOpening .bracket ts || isOpening .paren ts then failure
        climb n braces base (.other .cast)

/-- Reads the right operand of an operator, with all that binds more tightly. -/
def operand : Nat → Bool → Precedence → Reader Expr
  | 0, _, _ => failure
  | n + 1, braces, precedence => do extend n braces precedence (← unary n braces)

/-- Continues an operand for as long as something follows that binds more tightly than its
operator. -/
def extend : Nat → Bool → Precedence → Expr → Reader Expr
  | 0, _, _, _ => failure
  | n + 1, braces, precedence, rhs => do
    match junction? (← get) with
    | none => return rhs
    | some junction =>
      let next := junction.precedence
      if precedence < next || (next == .assign && precedence == .assign) then
        let before ← get
        let longer ← climb n braces next rhs
        if (← get).length == before.length then return longer
        extend n braces precedence longer
      else
        return rhs

/-- Reads a range operator and the upper bound, which only an open range can lack. -/
def range : Nat → Bool → Option Expr → Reader Expr
  | 0, _, _ => failure
  | n + 1, braces, lower => do
    if ← optionalMark "..=" then
      return .range lower (some (← operand n braces .range)) true
    else if ← seesMark "..." then failure
    else
      mark ".."
      if ← sees (endsOpenRange braces) then
        return .range lower none false
      else
        return .range lower (some (← operand n braces .range)) false

/-- Reads an expression without binary operators, except inside of it.  A range that begins with its
operator cannot have attributes. -/
def unary : Nat → Bool → Reader Expr
  | 0, _ => failure
  | n + 1, braces => do
    let attributed ← seesMark "#"
    attributes (inner n) n
    if ← optionalMark "&" then
      if ← sees fun ts => isWord ["raw"] ts && isWord ["mut", "const"] (ts.drop 1) then
        skip 2
        discard (unary n braces)
        return .other .unnamed
      else
        discard (optionalWord "mut")
        discard (unary n braces)
        return .other .reference
    else if ← optionalMark "-" then
      return .negated (← unary n braces)
    else if (← seesMark "*") || (← seesMark "!") then
      skip 1
      discard (unary n braces)
      return .other .unary
    else
      let e ← trailers n (← atom n braces)
      if attributed && e.isRange then failure
      return e

/-- Continues an expression with calls, fields, indexes and `?`. -/
def trailers : Nat → Expr → Reader Expr
  | 0, _ => failure
  | n + 1, e => do
    if ← seesOpening .paren then
      let args ← enclosed .paren (separated (expression n true) n)
      trailers n (.call e args)
    else if ← seesOpening .bracket then
      let index ← enclosed .bracket (expression n true)
      trailers n (.index e index)
    else if e.isRange then return e
    else if ← sees isPoint then
      skip 1
      member n
    else if ← optionalMark "?" then
      trailers n (.other .tryOperator)
    else
      return e

/-- Reads what follows a point, and continues.  A floating point literal is the numbers of two
fields, or that of one and a further point. -/
def member : Nat → Reader Expr
  | 0 => failure
  | n + 1 => do
    match ← get with
    | .decimal text :: _ =>
      skip 1
      match fieldsOfDecimal? text with
      | some true => field n
      | some false => trailers n (.other .field)
      | none => failure
    | _ => field n

/-- Reads the name or the number of a field, or a method call, and continues. -/
def field : Nat → Reader Expr
  | 0 => failure
  | n + 1 => do
    if ← optionalWord "await" then
      trailers n (.other .await)
    else if ← fieldLabel then
      let called ← typeArguments (inner n) n
      if called || (← seesOpening .paren) then
        discard (enclosed .paren (separated (expression n true) n))
        trailers n (.other .methodCall)
      else
        trailers n (.other .field)
    else
      trailers n (.other .field)

/-- Reads an expression that no operator is part of, except between brackets. -/
def atom : Nat → Bool → Reader Expr
  | 0, _ => failure
  | n + 1, braces => do
    match ← get with
    | .integer value _ :: _ =>
      skip 1
      return .integer value
    | .decimal _ :: _ | .text :: _ | .otherLiteral :: _ | .name "true" :: _ | .name "false" :: _ =>
      skip 1
      return .literal
    | .opening .paren :: _ => parenthesized n
    | .opening .bracket :: _ => array n
    | .opening .brace :: _ =>
      body n
      return .blockLike .block
    | .lifetime _ :: _ => labelled n
    | .name "_" :: _ =>
      skip 1
      return .other .unnamed
    | ts =>
      let next := ts.drop 1
      if isWord ["async"] ts && isOpening .brace (afterWord ["move"] next) then
        skip 1
        discard (optionalWord "move")
        block n
        return .other .asyncBlock
      else if isWord ["try"] ts && isOpening .brace next then
        skip 1
        block n
        return .blockLike .unnamed
      else if isClosure ts then closure n braces
      else if isBuiltin ts then
        builtinForm
        return .other .unnamed
      else if isValuePath ts then pathExpression n braces
      else if isWord ["break", "continue", "return", "yield", "become"] ts then jump n braces
      else if ← optionalWord "let" then
        discard (patterns (inner n) n)
        mark "="
        discard (climb n braces .compare (← unary n braces))
        return .other .unnamed
      else if isMark ".." ts then range n braces none
      else compound n

/-- Reads parentheses: a tuple, unless they hold one expression without a comma. -/
def parenthesized : Nat → Reader Expr
  | 0 => failure
  | n + 1 => enclosed .paren do
    if ← atEnd then return .other .tuple
    let first ← expression n true
    if ← atEnd then return .paren first
    mark ","
    discard (separated (expression n true) n)
    return .other .tuple

/-- Reads brackets: a list of expressions, or one with its count. -/
def array : Nat → Reader Expr
  | 0 => failure
  | n + 1 => enclosed .bracket do
    if ← atEnd then return .array []
    let first ← expression n true
    if ← atEnd then return .array [first]
    if ← optionalMark ";" then
      discard (expression n true)
      return .other .repeated
    mark ","
    return .array (first :: (← separated (expression n true) n))

/-- Reads a path, a macro call or a structure literal. -/
def pathExpression : Nat → Bool → Reader Expr
  | 0, _ => failure
  | n + 1, braces => do
    let p ← path (inner n) n true
    if p.isPlain && (← sees isBang) then
      skip 1
      discard anyGroup
      return .other .macroCall
    else if braces && (← seesOpening .brace) then
      enclosed .brace (fields n)
      return .other .structLiteral
    else
      return .path p.name?

/-- Reads the fields of a structure literal. -/
def fields : Nat → Reader Unit
  | 0 => failure
  | n + 1 => do
    if ← atEnd then return
    if ← optionalMark ".." then
      if !(← atEnd) then discard (expression n true)
    else
      attributes (inner n) n
      if ← fieldLabel then
        if ← optionalMark ":" then discard (expression n true)
      else
        mark ":"
        discard (expression n true)
      if ← atEnd then return
      mark ","
      fields n

/-- Reads a closure. -/
def closure : Nat → Bool → Reader Expr
  | 0, _ => failure
  | n + 1, braces => do
    if ← seesWord "for" then binder (inner n) n
    discard (optionalWord "const")
    discard (optionalWord "static")
    discard (optionalWord "async")
    discard (optionalWord "move")
    mark "|"
    discard <| countedTo "|" (do
      attributes (inner n) n
      discard (pattern (inner n) n)
      if ← optionalMark ":" then discard (type (inner n) n true)) n
    mark "|"
    if ← optionalMark "->" then
      discard (type (inner n) n true)
      block n
    else
      discard (expression n braces)
    return .other .closure

/-- Reads a jump with the label and the value that it may have.  Only whether a value begins here
depends on `braces`. -/
def jump : Nat → Bool → Reader Expr
  | 0, _ => failure
  | n + 1, braces => do
    if ← optionalWord "continue" then
      discard optionalLifetime
    else if ← optionalWord "break" then
      if (← optionalLifetime) && (← seesMark ":") then failure
      if (← sees canBegin) && (braces || !(← seesOpening .brace)) then
        discard (expression n true)
    else if ← optionalWord "become" then
      discard (expression n true)
    else
      skip 1
      if ← sees canBegin then discard (expression n true)
    return .other .unnamed

/-- Reads a loop or a block with a label. -/
def labelled : Nat → Reader Expr
  | 0 => failure
  | n + 1 => do
    discard optionalLifetime
    mark ":"
    if ← seesOpening .brace then
      body n
      return .blockLike .block
    else if ← sees (isWord ["while", "for", "loop"]) then
      compound n
    else
      failure

/-- Reads an expression that a keyword begins and a block ends. -/
def compound : Nat → Reader Expr
  | 0 => failure
  | n + 1 => do
    if ← optionalWord "if" then
      discard (expression n false)
      block n
      if ← optionalWord "else" then
        if ← seesWord "if" then discard (compound n) else block n
      return .blockLike .conditional
    else if ← optionalWord "while" then
      discard (expression n false)
      body n
      return .blockLike .unnamed
    else if ← optionalWord "for" then
      discard (patterns (inner n) n)
      word "in"
      discard (expression n false)
      body n
      return .blockLike .unnamed
    else if ← sees (isWord ["loop", "unsafe", "const"]) then
      skip 1
      body n
      return .blockLike .unnamed
    else
      word "match"
      discard (expression n false)
      enclosed .brace do
        innerAttributes (inner n) n
        arms n
      return .blockLike .matching

/-- Reads the arms of a match.  Only an arm whose body ends with a block can do without a comma
before the next one. -/
def arms : Nat → Reader Unit
  | 0 => failure
  | n + 1 => do
    if ← atEnd then return
    attributes (inner n) n
    discard (patterns (inner n) n)
    if ← optionalWord "if" then discard (expression n true)
    mark "=>"
    let result ← statementExpression n
    if ← atEnd then return
    if result.isBlockLike then discard (optionalMark ",") else mark ","
    arms n

/-- Reads an expression where a statement could begin: one that ends with a block is over then,
unless a field or a `?` follows. -/
def statementExpression : Nat → Reader Expr
  | 0 => failure
  | n + 1 => do
    attributes (inner n) n
    let whole ← sees fun ts =>
      isOpening .brace ts || isLifetime ts
        || isWord ["if", "while", "loop", "match", "unsafe"] ts
        || (isWord ["for"] ts && !isClosure ts)
        || (isWord ["const", "try"] ts && isOpening .brace (ts.drop 1))
    let e ← if whole then atom n true else unary n true
    if !e.isBlockLike then climb n true .jump e
    else if ← sees fun ts => isPoint ts || isMark "?" ts then
      climb n true .jump (← trailers n e)
    else
      return e

/-- Reads a block. -/
def block : Nat → Reader Unit
  | 0 => failure
  | n + 1 => enclosed .brace (statements n)

/-- Reads a block that can begin with attributes of what contains it. -/
def body : Nat → Reader Unit
  | 0 => failure
  | n + 1 => enclosed .brace do
    innerAttributes (inner n) n
    statements n

/-- Reads statements to the end of a block.  An expression that does not end with a block, or with
the braces of a macro call, needs a semicolon unless it is the last. -/
def statements : Nat → Reader Unit
  | 0 => failure
  | n + 1 => do
    if ← optionalMark ";" then statements n
    else if ← atEnd then return
    else
      attributes (inner n) n
      if ← sees isStatementMacro then
        simplePath
        mark "!"
        discard anyGroup
        statements n
      else if ← optionalWord "let" then
        definition n
        statements n
      else if ← sees isItem then
        item (inner n) n
        statements n
      else
        let (e, braced) ← withEnding (statementExpression n)
        if (← optionalMark ";") || e.isBlockLike || (e.form == .macroCall && braced) then
          statements n
        else if ← atEnd then return
        else failure

/-- Reads the rest of the definition of a variable.  Where the value ends with a brace, no block for
the case of a mismatch can follow. -/
def definition : Nat → Reader Unit
  | 0 => failure
  | n + 1 => do
    discard (pattern (inner n) n)
    if ← optionalMark ":" then discard (type (inner n) n true)
    if ← optionalMark "=" then
      let (_, braced) ← withEnding (expression n true)
      if !braced then
        if ← optionalWord "else" then block n
    mark ";"

/-- The readers that attributes, types, patterns and items need. -/
def inner : Nat → Inner
  | 0 => ⟨failure, failure⟩
  | n + 1 => ⟨discard (expression n true), body n⟩

end

/-- The expression that a text is, if it is one as a whole. -/
def Expr.ofText? (text : String) : Option Expr := do
  let tokens ← tokens? text
  match ← expression (64 * (tokens.length + 2)) true tokens with
  | (e, []) => some e
  | _ => none

end ArrayCells.Source
