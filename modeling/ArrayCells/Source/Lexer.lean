import ArrayCells.Source.Literal

/-!
From characters to tokens.  Blanks and comments separate tokens; a documentation comment stands for
the attribute that it abbreviates.  A text has tokens only if every character belongs to one and all
brackets are closed in order.
-/

namespace ArrayCells.Source

open Text (isIdentifierPart)

/-- Blanks between tokens: those of Unicode and the two marks of writing direction. -/
def isBlank (c : Char) : Bool :=
  c == ' ' || (0x09 ≤ c.toNat && c.toNat ≤ 0x0d)
    || Text.inRanges
        [(0x85, 0x85), (0xa0, 0xa0), (0x1680, 0x1680), (0x2000, 0x200a), (0x200e, 0x200f),
          (0x2028, 0x2029), (0x202f, 0x202f), (0x205f, 0x205f), (0x3000, 0x3000)] c

/-- What follows a block comment, in which further ones can be nested; `depth` are open. -/
def afterBlockComment? : Nat → List Char → Option (List Char)
  | depth, '/' :: '*' :: rest => afterBlockComment? (depth + 1) rest
  | 0, '*' :: '/' :: _ => none
  | 1, '*' :: '/' :: rest => some rest
  | depth + 2, '*' :: '/' :: rest => afterBlockComment? (depth + 1) rest
  | depth, _ :: rest => afterBlockComment? depth rest
  | _, [] => none

/-- Whether a line comment without documentation begins here. -/
def atLineComment (cs : List Char) : Bool :=
  startsWith cs "//" && (!startsWith cs "///" || startsWith cs "////") && !startsWith cs "//!"

/-- Whether a block comment without documentation begins here. -/
def atBlockComment (cs : List Char) : Bool :=
  startsWith cs "/*" && !startsWith cs "/*!"
    && (!startsWith cs "/**" || startsWith cs "/***" || startsWith cs "/**/")

/-- What follows the blanks and the comments at the beginning; an unclosed comment is kept. -/
def afterBlanks : Nat → List Char → List Char
  | 0, cs => cs
  | fuel + 1, cs =>
    match cs with
    | [] => []
    | c :: rest =>
      if isBlank c then afterBlanks fuel rest
      else if c != '/' then cs
      else if atLineComment cs then afterBlanks fuel (cs.dropWhile (· != '\n'))
      else if atBlockComment cs then
        match afterBlockComment? 0 cs with
        | some after => afterBlanks fuel after
        | none => cs
      else cs

/-- Whether every carriage return in the text stands before a line feed. -/
def linesEndProperly : List Char → Bool
  | '\r' :: '\n' :: rest => linesEndProperly rest
  | '\r' :: _ => false
  | _ :: rest => linesEndProperly rest
  | [] => true

/-- The attribute that a documentation comment stands for. -/
def documentation (inner : Bool) : List Token :=
  [.punct '#' false] ++ (if inner then [.punct '!' false] else [])
    ++ [.opening .bracket, .name "doc", .punct '=' false, .text, .closing .bracket]

/-- The rest of a line without its end. -/
def lineText : List Char → List Char
  | '\n' :: _ => []
  | '\r' :: '\n' :: _ => []
  | c :: rest => c :: lineText rest
  | [] => []

/-- A documentation comment, for what follows or, if it is an inner one, for what contains it. -/
def documentation? (cs : List Char) : Option (List Token × List Char) :=
  let inner := startsWith cs "//!" || startsWith cs "/*!"
  if startsWith cs "///" || startsWith cs "//!" then
    if startsWith cs "////" then none
    else
      let text := lineText cs
      if linesEndProperly text then some (documentation inner, cs.drop text.length) else none
  else if startsWith cs "/*!" || (startsWith cs "/**" && !startsWith cs "/***") then do
    let rest ← afterBlockComment? 0 cs
    if linesEndProperly (cs.take (cs.length - rest.length)) then
      some (documentation inner, rest)
    else none
  else none

/-- The characters that are punctuation marks. -/
def isPunctuation (c : Char) : Bool :=
  "~!@#$%^&*-=+|;:,<.>/?'".toList.contains c

/-- Whether a punctuation mark stands here, and not the beginning of a comment. -/
def atPunctuation (cs : List Char) : Bool :=
  match cs with
  | '/' :: '/' :: _ => false
  | '/' :: '*' :: _ => false
  | c :: _ => isPunctuation c
  | [] => false

/-- A name; one written with `r#` cannot be one of the words that stand for scopes. -/
def name? (cs : List Char) : Option (String × List Char) :=
  match cs with
  | 'r' :: '#' :: rest => do
    let (text, after) ← identifier? rest
    if ["_", "super", "self", "Self", "crate"].contains text then none
    else some ("r#" ++ text, after)
  | _ => identifier? cs

/-- The beginnings of string literals, which no name can have. -/
def atQuotation (cs : List Char) : Bool :=
  ["r\"", "r#\"", "r##", "b\"", "b'", "br\"", "br#", "c\"", "cr\"", "cr#"].any (startsWith cs)

/-- A lifetime, which a second quote would make a character.  The quote stands alone if its name
turns out to be the beginning of a string literal. -/
def lifetime? (cs : List Char) : Option (Token × List Char) := do
  let (text, after) ← name? cs
  match after with
  | '\'' :: _ => none
  | '#' :: _ => if startsWith cs "r#" then some (.lifetime text, after) else none
  | _ => if atQuotation cs then some (.punct '\'' true, cs) else some (.lifetime text, after)

/-- A token other than a literal. -/
def mark? (cs : List Char) : Option (Token × List Char) :=
  match cs with
  | [] => none
  | '\'' :: rest => lifetime? rest
  | c :: rest =>
    if atPunctuation cs then some (.punct c (atPunctuation rest), rest)
    else if atQuotation cs then none
    else do
      let (text, after) ← name? cs
      some (.name text, after)

/-- The tokens that begin with the first character, which is no blank. -/
def tokensAt? (cs : List Char) : Option (List Token × List Char) :=
  match documentation? cs with
  | some found => some found
  | none =>
    let single (token : Token) (rest : List Char) := some ([token], rest)
    if startsWith cs lostLiteral then single .otherLiteral (cs.drop lostLiteral.length)
    else match cs with
    | '(' :: rest => single (.opening .paren) rest
    | '[' :: rest => single (.opening .bracket) rest
    | '\x7b' :: rest => single (.opening .brace) rest
    | ')' :: rest => single (.closing .paren) rest
    | ']' :: rest => single (.closing .bracket) rest
    | '\x7d' :: rest => single (.closing .brace) rest
    | _ =>
      match (literal? cs).or (mark? cs) with
      | some (token, rest) => single token rest
      | none => none

/-- All tokens; `fuel` exceeds the number of characters, of which every token takes at least
one. -/
def scan? : Nat → List Char → Option (List Token)
  | 0, _ => none
  | fuel + 1, cs =>
    match afterBlanks fuel cs with
    | [] => some []
    | c :: rest => do
      let (here, after) ← tokensAt? (c :: rest)
      let others ← scan? fuel after
      return here ++ others

/-- The tokens of a text, a byte order mark at its beginning apart. -/
def tokens? (text : String) : Option (List Token) := do
  let cs :=
    match text.toList with
    | '\ufeff' :: rest => rest
    | cs => cs
  let tokens ← scan? (cs.length + 1) cs
  if balanced [] tokens then some tokens else none

end ArrayCells.Source
