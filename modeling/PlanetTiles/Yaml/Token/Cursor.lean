import PlanetTiles.Yaml.Chars
import PlanetTiles.Yaml.Token

/-!
# The state of reading tokens

Tokens are read from the characters of a text, one place at a time. Besides the place,
the reader keeps what decides the meaning of what comes next:

* how deep it is inside brackets (the flow level);
* the indentation of the collections written by indentation that are open, innermost
  first;
* whether a key may start at the place (a simple key: a node followed by `:` on its line);
* for each level of brackets, the last place where a simple key may still start, and the
  number its token would have;
* the tokens read but not yet taken, and how many were taken.

A token is handed out only when no simple key that could still turn out to start at it is
pending: a key is only known to be one when its `:` is met, and then a key token (and the
start of a mapping, when it opens one) is put in front of the key's first token.

Every step here moves forward or stops, so each loop is bounded by the characters left.
-/

namespace PlanetTiles.Yaml

/-- A place where a simple key may have started, before its `:` is met. -/
structure KeyCandidate where
  /-- a key must start here: the place is at the indentation of a mapping -/
  required : Bool
  /-- the number the key's first token has among all tokens -/
  tokenNumber : Nat
  /-- where the key would start -/
  mark : Mark
  /-- the level of brackets it belongs to -/
  level : Nat
  deriving Inhabited

/-- The state of reading tokens from a text. -/
structure TokenStream where
  /-- the characters of the text -/
  input : Array Char
  /-- the position reached in `input`, in characters -/
  pos : Nat := 0
  /-- the place reached; its index counts the bytes before it -/
  mark : Mark := Mark.start
  /-- the stream-start token was read -/
  started : Bool := false
  /-- the stream-end token was taken -/
  ended : Bool := false
  /-- how deep the place is inside brackets -/
  flowLevel : Nat := 0
  /-- the indentation of the innermost open indented collection, -1 for none -/
  indent : Int := -1
  /-- the indentations of the collections around it -/
  indents : List Int := []
  /-- a simple key may start at the place -/
  keyAllowed : Bool := false
  /-- the key candidates that may still be keys, at most one per level of brackets, the
  innermost first -/
  candidates : List KeyCandidate := []
  /-- tokens read and not yet taken, in order -/
  queue : List Token := []
  /-- how many tokens were taken -/
  taken : Nat := 0
  /-- the first token of the queue may be taken -/
  ready : Bool := false

/-- Steps of reading tokens: they change the state and may fail. -/
abbrev TokenM := EStateM SyntaxError TokenStream

namespace TokenStream

/-- The state at the start of a text. -/
def ofText (text : String) : TokenStream :=
  { input := text.toList.toArray }

/-- The character `k` places ahead, the end character past the text. -/
def charAt (k : Nat) : TokenM Char := fun s =>
  .ok (s.input.getD (s.pos + k) endChar) s

/-- The character at the place. -/
def current : TokenM Char :=
  charAt 0

/-- The place. -/
def here : TokenM Mark := fun s =>
  .ok s.mark s

/-- How many characters are left, plus one: a bound for every loop that moves. -/
def remaining : TokenM Nat := fun s =>
  .ok (s.input.size + 1 - s.pos) s

/-- Fails with a problem at the place, while reading what began at a mark. -/
def fail {α : Type} (context : Option (String × Mark)) (problem : String) : TokenM α :=
  fun s => .error { problem, mark := s.mark, context } s

/-- Moves past one character on its line. -/
def advance : TokenM Unit :=
  modify fun s => { s with
    pos := s.pos + 1,
    mark := ⟨s.mark.index + (s.input.getD s.pos endChar).utf8Size, s.mark.line, s.mark.column + 1⟩ }

/-- Moves past a line break: a carriage return and line feed together count as one. -/
def advanceLine : TokenM Unit := do
  let c ← current
  let d ← charAt 1
  if c == '\r' && d == '\n' then
    modify fun s => { s with pos := s.pos + 2, mark := ⟨s.mark.index + 2, s.mark.line + 1, 0⟩ }
  else if isBreak c then
    modify fun s => { s with pos := s.pos + 1,
                             mark := ⟨s.mark.index + c.utf8Size, s.mark.line + 1, 0⟩ }

/-- Moves past `n` characters on their line. -/
def advanceBy : Nat → TokenM Unit
  | 0 => pure ()
  | n + 1 => do advance; advanceBy n

/-- Moves past one character and gives it. -/
def take : TokenM Char := do
  let c ← current
  advance
  pure c

/-- Moves past a line break and gives the text it stands for: a line feed for a carriage
return, a line feed, both together or a next-line character; the line and paragraph
separators stand for themselves. Nothing when the place holds no line break. -/
def takeLine : TokenM String := do
  let c ← current
  if c.toNat == 0x2028 || c.toNat == 0x2029 then
    advanceLine
    pure (String.singleton c)
  else if isBreak c then
    advanceLine
    pure "\n"
  else pure ""

/-- Moves past the characters that satisfy `p`, at most `fuel` of them. -/
def skipWhileFor (p : Char → Bool) : Nat → TokenM Unit
  | 0 => pure ()
  | fuel + 1 => do
    if p (← current) then
      advance
      skipWhileFor p fuel

/-- Moves past the characters that satisfy `p`. -/
def skipWhile (p : Char → Bool) : TokenM Unit := do
  skipWhileFor p (← remaining)

/-- Moves past the characters that satisfy `p`, at most `fuel` of them, adding them to
`acc`. -/
def takeWhileFor (p : Char → Bool) : Nat → String → TokenM String
  | 0, acc => pure acc
  | fuel + 1, acc => do
    let c ← current
    if p c then
      advance
      takeWhileFor p fuel (acc.push c)
    else pure acc

/-- Moves past the characters that satisfy `p` and gives them. -/
def takeWhile (p : Char → Bool) : TokenM String := do
  takeWhileFor p (← remaining) ""

/-- The place starts `---` or `...` followed by a blank, a break or the end, at column 0. -/
def atDocumentMarker : TokenM Bool := do
  let m ← here
  let c0 ← charAt 0
  let c1 ← charAt 1
  let c2 ← charAt 2
  let c3 ← charAt 3
  pure (m.column == 0 &&
    ((c0 == '-' && c1 == '-' && c2 == '-') || (c0 == '.' && c1 == '.' && c2 == '.')) &&
    isSpaceOrEnd c3)

/-- Puts a token at the end of the queue. -/
def enqueue (kind : TokenKind) (start stop : Mark) : TokenM Unit :=
  modify fun s => { s with queue := s.queue ++ [⟨kind, start, stop⟩] }

/-- Puts a token into the queue at position `i`. -/
def insertAt (i : Nat) (token : Token) : TokenM Unit :=
  modify fun s => { s with queue := s.queue.insertIdx i token }

/-- Sets whether a simple key may start at the place. -/
def setKeyAllowed (b : Bool) : TokenM Unit :=
  modify fun s => { s with keyAllowed := b }

end TokenStream

end PlanetTiles.Yaml
