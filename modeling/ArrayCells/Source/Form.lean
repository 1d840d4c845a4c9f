/-!
The forms that an expression of the source text can take.  Only a few of them denote operands; the
others are told apart so that a refusal can name what it found.
-/

namespace ArrayCells.Source

/-- The form of an expression. -/
inductive Form where
  | array
  | assignment
  | asyncBlock
  | await
  | binary
  | block
  | call
  | cast
  | closure
  | conditional
  | field
  | index
  | literal
  | macroCall
  | matching
  | methodCall
  | path
  | reference
  | repeated
  | structLiteral
  | tryOperator
  | tuple
  | unary
  /-- Parentheses, ranges, jumps, loops and all else that messages do not name. -/
  | unnamed
deriving DecidableEq

/-- The words for a form in messages. -/
def Form.name : Form → String
  | .array => "array"
  | .assignment => "assignment"
  | .asyncBlock => "async block"
  | .await => "await"
  | .binary => "binary operation"
  | .block => "block"
  | .call => "function call"
  | .cast => "cast"
  | .closure => "closure"
  | .conditional => "if"
  | .field => "field access"
  | .index => "index"
  | .literal => "literal"
  | .macroCall => "macro invocation"
  | .matching => "match"
  | .methodCall => "method call"
  | .path => "path"
  | .reference => "reference"
  | .repeated => "repeat"
  | .structLiteral => "struct literal"
  | .tryOperator => "try"
  | .tuple => "tuple"
  | .unary => "unary operation"
  | .unnamed => "unknown"

end ArrayCells.Source
