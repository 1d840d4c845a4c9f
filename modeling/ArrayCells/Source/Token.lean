/-!
Tokens of expression text.  A name is an identifier or a keyword; a punctuation mark is a single
character that knows whether another one follows at once, so that `..=` is three tokens which read
as one operator.
-/

namespace ArrayCells.Source

/-- The three kinds of brackets. -/
inductive Delimiter where
  | paren
  | bracket
  | brace
deriving DecidableEq

inductive Token where
  /-- A name; one that is written with `r#` keeps these characters. -/
  | name (text : String)
  | lifetime (text : String)
  /-- An integer literal: its value, and whether a suffix follows the digits. -/
  | integer (value : Nat) (suffixed : Bool)
  /-- A floating point literal as it is written. -/
  | decimal (text : String)
  /-- A string literal of characters, raw or with escapes. -/
  | text
  /-- A literal of any other kind. -/
  | otherLiteral
  /-- A punctuation mark, `joint` if the next character is one too. -/
  | punct (char : Char) (joint : Bool)
  | opening (delimiter : Delimiter)
  | closing (delimiter : Delimiter)
deriving DecidableEq

/-- Whether every bracket is closed by its own kind; `pending` are the open ones. -/
def balanced : List Delimiter → List Token → Bool
  | [], [] => true
  | _ :: _, [] => false
  | pending, .opening d :: rest => balanced (d :: pending) rest
  | d :: pending, .closing d' :: rest => d == d' && balanced pending rest
  | [], .closing _ :: _ => false
  | pending, _ :: rest => balanced pending rest

end ArrayCells.Source
