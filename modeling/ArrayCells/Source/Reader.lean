import ArrayCells.Source.Token

/-!
Readers take what they need from the front of a list of tokens, or fail.  The end of a group looks
like the end of the text: nothing reads past a closing bracket.
-/

namespace ArrayCells.Source

/-- Readers of tokens. -/
abbrev Reader := StateT (List Token) Option

/-- The words that are never names of things. -/
def keywords : List String :=
  ["_", "abstract", "as", "async", "await", "become", "box", "break", "const", "continue", "crate",
    "do", "dyn", "else", "enum", "extern", "false", "final", "fn", "for", "if", "impl", "in", "let",
    "loop", "macro", "match", "mod", "move", "mut", "override", "priv", "pub", "ref", "return",
    "Self", "self", "static", "struct", "super", "trait", "true", "try", "type", "typeof", "unsafe",
    "unsized", "use", "virtual", "where", "while", "yield"]

/-- The keywords that can stand in a path. -/
def scopeWords : List String :=
  ["self", "Self", "super", "crate"]

/-! ### What the tokens begin with -/

/-- Whether the tokens begin with an operator, whose characters stand directly side by side. -/
def beginsWith : List Char → List Token → Bool
  | [], _ => true
  | [c], .punct d _ :: _ => c == d
  | c :: cs, .punct d joint :: rest => c == d && joint && beginsWith cs rest
  | _, _ => false

/-- Whether an operator begins the tokens, possibly as a part of a longer one. -/
def isMark (op : String) (ts : List Token) : Bool :=
  beginsWith op.toList ts

/-- Whether one of some words begins the tokens. -/
def isWord (words : List String) : List Token → Bool
  | .name text :: _ => words.contains text
  | _ => false

/-- Whether the name of a thing begins the tokens. -/
def isName : List Token → Bool
  | .name text :: _ => !keywords.contains text
  | _ => false

/-- Whether a name or a keyword begins the tokens. -/
def isAnyName : List Token → Bool
  | .name _ :: _ => true
  | _ => false

def isLifetime : List Token → Bool
  | .lifetime _ :: _ => true
  | _ => false

/-- Whether a literal begins the tokens; a number can have a sign. -/
def isLiteral : List Token → Bool
  | .integer .. :: _ | .decimal _ :: _ | .text :: _ | .otherLiteral :: _ => true
  | .punct '-' _ :: .integer .. :: _ | .punct '-' _ :: .decimal _ :: _ => true
  | .name text :: _ => text == "true" || text == "false"
  | _ => false

def isOpening (d : Delimiter) : List Token → Bool
  | .opening d' :: _ => d == d'
  | _ => false

/-- Whether nothing is left of the text or of the group. -/
def isEnd : List Token → Bool
  | [] | .closing _ :: _ => true
  | _ => false

/-- Whether a colon begins the tokens that is not half of a `::`. -/
def isColon (ts : List Token) : Bool :=
  isMark ":" ts && !isMark "::" ts

/-- Whether a point begins the tokens that is not part of a range operator. -/
def isPoint (ts : List Token) : Bool :=
  isMark "." ts && !isMark ".." ts

/-- Whether an exclamation mark begins the tokens that is not part of a comparison. -/
def isBang (ts : List Token) : Bool :=
  isMark "!" ts && !isMark "!=" ts

/-! ### What the tokens go on with -/

/-- What follows the group of which `depth` brackets are open. -/
def afterGroup : Nat → List Token → List Token
  | _, [] => []
  | depth, .opening _ :: rest => afterGroup (depth + 1) rest
  | depth, .closing _ :: rest => if depth ≤ 1 then rest else afterGroup (depth - 1) rest
  | depth, _ :: rest => afterGroup depth rest

/-- The tokens without their first, or without the group that it opens. -/
def dropTree : List Token → List Token
  | .opening d :: rest => afterGroup 0 (.opening d :: rest)
  | _ :: rest => rest
  | [] => []

/-- The tokens without a word that can come first. -/
def afterWord (words : List String) (ts : List Token) : List Token :=
  if isWord words ts then ts.drop 1 else ts

/-- What follows lifetimes with plus signs between them and possibly after the last one. -/
def afterLifetimes : List Token → List Token
  | .lifetime _ :: .punct '+' _ :: rest => afterLifetimes rest
  | .lifetime _ :: rest => rest
  | ts => ts

/-- What follows names with `::` between them, which can be words that stand for scopes. -/
def afterNames? : List Token → Option (List Token)
  | t :: .punct ':' true :: .punct ':' _ :: rest =>
    if isName [t] || isWord scopeWords [t] then afterNames? rest else none
  | t :: rest => if isName [t] || isWord scopeWords [t] then some rest else none
  | [] => none

/-- What follows a path without arguments, which `::` can begin. -/
def afterSimplePath? (ts : List Token) : Option (List Token) :=
  afterNames? (if isMark "::" ts then ts.drop 2 else ts)

/-- What follows the path of a macro and its exclamation mark. -/
def afterMacroName? (ts : List Token) : Option (List Token) :=
  match afterSimplePath? ts with
  | some (.punct '!' _ :: rest) => some rest
  | _ => none

namespace Reader

/-- Whether the tokens to come satisfy a test. -/
def sees (test : List Token → Bool) : Reader Bool :=
  return test (← get)

/-- Drops tokens. -/
def skip (count : Nat) : Reader Unit :=
  modify (List.drop count)

/-- Whether nothing is left of the text or of the group. -/
def atEnd : Reader Bool :=
  sees isEnd

/-- Goes on after what a look ahead has found. -/
def jumpTo (after : Option (List Token)) : Reader Unit :=
  match after with
  | some rest => set rest
  | none => failure

/-- Whether an operator comes next. -/
def seesMark (op : String) : Reader Bool :=
  sees (isMark op)

/-- Reads an operator. -/
def mark (op : String) : Reader Unit := do
  if ← seesMark op then skip op.length else failure

/-- Reads an operator if it comes next, and tells whether it did. -/
def optionalMark (op : String) : Reader Bool := do
  if ← seesMark op then
    skip op.length
    return true
  else
    return false

/-- Whether a word comes next. -/
def seesWord (word : String) : Reader Bool :=
  sees (isWord [word])

/-- Reads a word. -/
def word (text : String) : Reader Unit := do
  if ← seesWord text then skip 1 else failure

/-- Reads a word if it comes next, and tells whether it did. -/
def optionalWord (text : String) : Reader Bool := do
  if ← seesWord text then
    skip 1
    return true
  else
    return false

/-- Whether an opening bracket comes next. -/
def seesOpening (d : Delimiter) : Reader Bool :=
  sees (isOpening d)

/-- Reads brackets and, with `inner`, all that stands between them. -/
def enclosed {α : Type} (d : Delimiter) (inner : Reader α) : Reader α := do
  if ← seesOpening d then
    skip 1
    let result ← inner
    match ← get with
    | .closing _ :: rest =>
      set rest
      return result
    | _ => failure
  else
    failure

/-- Reads a name that is no keyword. -/
def name : Reader String := do
  match ← get with
  | .name text :: rest =>
    if keywords.contains text then failure
    set rest
    return text
  | _ => failure

/-- Reads a name that is no keyword, or one of some words in its place. -/
def nameOr (words : List String) : Reader Unit := do
  if (← sees isName) || (← sees (isWord words)) then skip 1 else failure

/-- Reads a lifetime if it comes next, and tells whether it did. -/
def optionalLifetime : Reader Bool := do
  if ← sees isLifetime then
    skip 1
    return true
  else
    return false

/-- Reads a literal with the sign that it can have. -/
def literal : Reader Unit := do
  if ← sees isLiteral then
    discard (optionalMark "-")
    skip 1
  else failure

/-- Whether a number can be that of a tuple field; they have 32 bits. -/
def isFieldNumber (n : Nat) : Bool :=
  n ≤ 4294967295

/-- Reads the name or the number of a field, and tells whether it is a name. -/
def fieldLabel : Reader Bool := do
  match ← get with
  | .integer value suffixed :: rest =>
    if suffixed || !isFieldNumber value then failure
    set rest
    return false
  | _ =>
    discard name
    return true

/-- Reads a path without arguments. -/
def simplePath : Reader Unit := do
  jumpTo (afterSimplePath? (← get))

/-- Reads a group of any kind without looking into it, and tells its brackets. -/
def anyGroup : Reader Delimiter := do
  match ← get with
  | .opening d :: _ =>
    modify dropTree
    return d
  | _ => failure

/-- Reads items up to the end, with commas between them and possibly after the last one. -/
def separated {α : Type} (item : Reader α) : Nat → Reader (List α)
  | 0 => failure
  | fuel + 1 => do
    if ← atEnd then return []
    let x ← item
    if ← atEnd then return [x]
    mark ","
    return x :: (← separated item fuel)

/-- Reads items up to an operator, which is left, with commas between them and possibly after the
last one, and tells how many there are. -/
def countedTo (close : String) (item : Reader Unit) : Nat → Reader Nat
  | 0 => failure
  | fuel + 1 => do
    if ← seesMark close then return 0
    item
    if ← seesMark close then return 1
    mark ","
    return (← countedTo close item fuel) + 1

/-- Reads items for as long as the test holds of what comes next. -/
def whileSeen (test : List Token → Bool) (item : Reader Unit) : Nat → Reader Unit
  | 0 => failure
  | fuel + 1 => do
    if ← sees test then
      item
      whileSeen test item fuel

/-- Reads items up to the end. -/
def toEnd (item : Reader Unit) (fuel : Nat) : Reader Unit :=
  whileSeen (!isEnd ·) item fuel

/-- Reads something if it stands here, and nothing otherwise, and tells whether it did. -/
def attempt (reader : Reader Unit) : Reader Bool := do
  match reader (← get) with
  | some (_, rest) =>
    set rest
    return true
  | none => return false

/-- Reads something and tells also whether its last token closes braces. -/
def withEnding {α : Type} (reader : Reader α) : Reader (α × Bool) := do
  let before ← get
  let result ← reader
  let after ← get
  return (result, before[before.length - after.length - 1]? == some (.closing .brace))

end Reader

end ArrayCells.Source
