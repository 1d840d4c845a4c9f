import ArrayCells.Source.Token
import ArrayCells.Text.Identifier

/-!
Literals.  Each reader takes the characters from the literal on and gives what is left after it, or
nothing if no literal of its kind stands there.  An identifier that follows a literal at once is its
suffix.
-/

namespace ArrayCells.Source

open Text (isIdentifierStart isIdentifierPart)

/-- An identifier and what follows it. -/
def identifier? (cs : List Char) : Option (String × List Char) :=
  match cs with
  | c :: rest =>
    if isIdentifierStart c then
      some (String.ofList (c :: rest.takeWhile isIdentifierPart), rest.dropWhile isIdentifierPart)
    else none
  | [] => none

/-- What follows an identifier, or the characters themselves if none stands there. -/
def afterSuffix (cs : List Char) : List Char :=
  match identifier? cs with
  | some (_, rest) => rest
  | none => cs

/-- Whether the characters begin with the given ones. -/
def startsWith (cs : List Char) (lead : String) : Bool :=
  lead.toList.isPrefixOf cs

/-! ### Numbers -/

/-- The value of a digit, letters counting from ten on. -/
def digitValue? (c : Char) : Option Nat :=
  if c.isDigit then some (c.toNat - '0'.toNat)
  else if 'a' ≤ c ∧ c ≤ 'f' then some (c.toNat - 'a'.toNat + 10)
  else if 'A' ≤ c ∧ c ≤ 'F' then some (c.toNat - 'A'.toNat + 10)
  else none

/-- The value of a run of digits in a base, after `value` and at least one digit if `any`.
Underscores are skipped, a letter too large for the base ends the run, and a decimal digit too large
for it spoils the literal. -/
def digits? (base value : Nat) (any : Bool) : List Char → Option (Nat × List Char)
  | [] => if any then some (value, []) else none
  | c :: rest =>
    if c == '_' then
      if any || base != 10 then digits? base value any rest else none
    else
      match digitValue? c with
      | some d =>
        if d < base then digits? base (value * base + d) true rest
        else if d < 10 then none
        else if any then some (value, c :: rest) else none
      | none => if any then some (value, c :: rest) else none

/-- An integer in decimal digits, or in another base after `0x`, `0o` or `0b`. -/
def magnitude? (cs : List Char) : Option (Nat × List Char) :=
  match cs with
  | '0' :: 'x' :: rest => digits? 16 0 false rest
  | '0' :: 'o' :: rest => digits? 8 0 false rest
  | '0' :: 'b' :: rest => digits? 2 0 false rest
  | _ => digits? 10 0 false cs

/-- A number is over only where no identifier could go on. -/
def atWordBreak (cs : List Char) : Bool :=
  match cs with
  | c :: _ => !isIdentifierPart c
  | [] => true

def integer? (cs : List Char) : Option (Token × List Char) := do
  let (value, rest) ← magnitude? cs
  match identifier? rest with
  | some (_, after) => some (.integer value true, after)
  | none => if atWordBreak rest then some (.integer value false, rest) else none

def isDigitOrGap (c : Char) : Bool :=
  c.isDigit || c == '_'

/-- The digits of an exponent after its `e`: an optional sign and at least one digit among
underscores. -/
def exponent? (cs : List Char) : Option (List Char) :=
  let gaps := cs.dropWhile (· == '_')
  let unsigned :=
    match gaps with
    | c :: rest => if c == '+' || c == '-' then rest else gaps
    | [] => gaps
  if (unsigned.takeWhile isDigitOrGap).any Char.isDigit then
    some (unsigned.dropWhile isDigitOrGap)
  else none

/-- What follows the digits of a floating point literal, which has a fraction, an exponent or both.
A point counts only if neither a second point nor an identifier follows.  After a fraction, an `e`
without an exponent is left for the suffix. -/
def decimalDigits? (cs : List Char) : Option (List Char) :=
  if !(cs.headD ' ').isDigit then none
  else
    let whole := cs.dropWhile isDigitOrGap
    let afterPoint : Option (List Char) :=
      match whole with
      | '.' :: rest =>
        match rest with
        | c :: _ => if c == '.' || isIdentifierStart c then none else some rest
        | [] => some rest
      | _ => none
    match afterPoint with
    | some rest =>
      let fraction := rest.dropWhile isDigitOrGap
      match fraction with
      | e :: exponent =>
        if e == 'e' || e == 'E' then some ((exponent? exponent).getD fraction) else some fraction
      | [] => some []
    | none =>
      match whole with
      | e :: exponent => if e == 'e' || e == 'E' then exponent? exponent else none
      | [] => none

def decimal? (cs : List Char) : Option (Token × List Char) := do
  let rest ← decimalDigits? cs
  let after := afterSuffix rest
  if atWordBreak after then
    some (.decimal (String.ofList (cs.take (cs.length - after.length))), after)
  else none

/-! ### Characters and strings -/

def isHexDigit (c : Char) : Bool :=
  (digitValue? c).isSome

/-- The code point between the braces of a `\u` escape, and what follows them: one to six digits
with underscores after the first.  It has to be one of a character. -/
def codePoint? (value count : Nat) : List Char → Option (Nat × List Char)
  | [] => none
  | c :: rest =>
    if c == '_' && 0 < count then codePoint? value count rest
    else if c == '\x7d' && 0 < count then if value.isValidChar then some (value, rest) else none
    else
      match digitValue? c with
      | some d => if count < 6 then codePoint? (value * 16 + d) (count + 1) rest else none
      | none => none

/-- Which escapes a literal allows. -/
inductive EscapeStyle where
  | text
  | bytes
  | cString
deriving DecidableEq

/-- What follows an escape after its backslash; the end of a line is not among them.  No escape
stands for the character zero where that one ends the string. -/
def escape? (style : EscapeStyle) : List Char → Option (List Char)
  | 'x' :: a :: b :: rest =>
    if isHexDigit a && isHexDigit b
        && (style != .text || (digitValue? a).getD 8 < 8)
        && (style != .cString || !(a == '0' && b == '0')) then some rest
    else none
  | 'u' :: '\x7b' :: rest =>
    if style == .bytes then none
    else do
      let (value, after) ← codePoint? 0 0 rest
      if style == .cString && value == 0 then none else some after
  | '0' :: rest => if style == .cString then none else some rest
  | c :: rest => if "nrt\\'\"".toList.contains c then some rest else none
  | [] => none

/-- What follows the blanks after a backslash at the end of a line; a carriage return has to stand
before a line feed, and something has to follow. -/
def afterLineContinuation? : List Char → Option (List Char)
  | '\r' :: '\n' :: rest => afterLineContinuation? rest
  | '\r' :: _ => none
  | c :: rest => if c == ' ' || c == '\t' || c == '\n' then afterLineContinuation? rest
    else some (c :: rest)
  | [] => none

/-- Whether a character can stand in a literal as it is. -/
def EscapeStyle.admits (style : EscapeStyle) (c : Char) : Bool :=
  match style with
  | .text => true
  | .bytes => c.toNat < 0x80
  | .cString => c.toNat != 0

/-- What follows the closing quote of a string with escapes. -/
def cooked? (style : EscapeStyle) : Nat → List Char → Option (List Char)
  | 0, _ => none
  | fuel + 1, cs =>
    match cs with
    | '"' :: rest => some rest
    | '\r' :: '\n' :: rest => cooked? style fuel rest
    | '\r' :: _ => none
    | '\\' :: '\n' :: rest => do cooked? style fuel (← afterLineContinuation? rest)
    | '\\' :: '\r' :: rest => do cooked? style fuel (← afterLineContinuation? ('\r' :: rest))
    | '\\' :: rest => do cooked? style fuel (← escape? style rest)
    | c :: rest => if style.admits c then cooked? style fuel rest else none
    | [] => none

/-- What follows the end of a raw string, which is a quote and as many hashes as it began with. -/
def rawBody? (style : EscapeStyle) (hashes : List Char) : List Char → Option (List Char)
  | [] => none
  | '\r' :: '\n' :: rest => rawBody? style hashes rest
  | '\r' :: _ => none
  | c :: rest =>
    if c == '"' && hashes.isPrefixOf rest then some (rest.drop hashes.length)
    else if style.admits c then rawBody? style hashes rest
    else none

/-- What follows a raw string after its first letter. -/
def raw? (style : EscapeStyle) (cs : List Char) : Option (List Char) :=
  let hashes := cs.takeWhile (· == '#')
  match cs.drop hashes.length with
  | '"' :: rest => if hashes.length ≤ 255 then rawBody? style hashes rest else none
  | _ => none

/-- What follows one character, or an escape, between single quotes. -/
def quotedChar? (style : EscapeStyle) (cs : List Char) : Option (List Char) := do
  let rest ←
    match cs with
    | '\\' :: rest => escape? style rest
    | c :: rest => if style.admits c then some rest else none
    | [] => none
  match rest with
  | '\'' :: after => some after
  | _ => none

/-- What follows a character or a string literal, without its suffix. -/
def quotationBody? (cs : List Char) : Option (List Char) :=
  let fuel := cs.length
  match cs with
  | '"' :: rest => cooked? .text fuel rest
  | 'r' :: rest => raw? .text rest
  | 'b' :: '"' :: rest => cooked? .bytes fuel rest
  | 'b' :: 'r' :: rest => raw? .bytes rest
  | 'c' :: '"' :: rest => cooked? .cString fuel rest
  | 'c' :: 'r' :: rest => raw? .cString rest
  | 'b' :: '\'' :: rest => quotedChar? .bytes rest
  | '\'' :: rest => quotedChar? .text rest
  | _ => none

/-- A literal of any kind; floating point is tried before integers. -/
def literal? (cs : List Char) : Option (Token × List Char) :=
  match quotationBody? cs with
  | some rest =>
    some (if startsWith cs "\"" || startsWith cs "r" then .text else .otherLiteral,
      afterSuffix rest)
  | none => (decimal? cs).or (integer? cs)

/-- How a literal that could not be kept is written; it reads as a literal again. -/
def lostLiteral : String :=
  "(/*ERROR*/)"

end ArrayCells.Source
