import PlanetTiles.Yaml.Token.Scalar
import PlanetTiles.Yaml.Token.Property

/-!
# The stream of tokens

Each step reads the next token after the blanks, comments and line breaks before it:

* A line break in a block makes room for a key; a byte order mark is passed over at the
  start of a line; tabs count as blanks only in brackets or where no key may start.
* A collection written by indentation is opened by the first `-`, `?` or key at a column
  deeper than the one around it, and closed by the first token at a shallower column: the
  end tokens are queued before that token. A `---`, `...`, directive or the end of the text
  closes them all.
* A simple key (a node followed by `:` on the same line, within 1024 bytes) is only
  known to be one when the `:` is read. Where one may start, its place is kept as the
  candidate of its level of brackets; the `:` then puts a key token, and the start of a
  mapping if it opens one, before the key's first token. A candidate that can no longer be
  a key is dropped, and one at the indentation of a mapping must be a key.
* The first step checks that the text holds only allowed characters and then reads the
  start of the stream.

Tokens are handed out only when no candidate could still put a key token in front of the
next one (`peek`); `skip` takes the token handed out.
-/

namespace PlanetTiles.Yaml

namespace TokenStream

/-- The candidate of the innermost level of brackets, if it may still be a key. -/
def topCandidate : TokenM (Option KeyCandidate) := fun s =>
  .ok (s.candidates.head?.filter (·.level == s.flowLevel)) s

/-- Forgets the candidate of the innermost level of brackets. -/
def dropTopCandidate : TokenM Unit :=
  modify fun s => { s with candidates := match s.candidates with
    | k :: rest => if k.level == s.flowLevel then rest else k :: rest
    | [] => [] }

/-- The candidate can no longer be a key at the mark: it is on an earlier line or more than
1024 bytes back. -/
def isStale (m : Mark) (k : KeyCandidate) : Bool :=
  k.mark.line < m.line || k.mark.index + 1024 < m.index

/-- The error of a key candidate that had to be a key but has no `:`. -/
def missingColon {α : Type} (k : KeyCandidate) : TokenM α :=
  fail (some ("while scanning a simple key", k.mark)) "could not find expected ':'"

/-- Drops the candidates that can no longer be keys; the outermost one that had to be a
key is an error. -/
def staleCandidates : TokenM Unit := do
  let s ← get
  if s.candidates.any (isStale s.mark) then
    match s.candidates.reverse.find? (fun k => isStale s.mark k && k.required) with
    | some k => missingColon k
    | none => set { s with candidates := s.candidates.filter fun k => !isStale s.mark k }

/-- Drops the candidate of the innermost level; it is an error if it had to be a key. -/
def removeCandidate : TokenM Unit := do
  match ← topCandidate with
  | some k => if k.required then missingColon k else dropTopCandidate
  | none => pure ()

/-- Keeps the place as the candidate of the innermost level, if a key may start there. It
must be a key when it is at the indentation of the mapping around it. -/
def saveCandidate : TokenM Unit := do
  let s ← get
  if s.keyAllowed then
    let required := s.flowLevel == 0 && s.indent == (s.mark.column : Int)
    let k : KeyCandidate := ⟨required, s.taken + s.queue.length, s.mark, s.flowLevel⟩
    removeCandidate
    modify fun s => { s with candidates := k :: s.candidates }

/-- Enters a level of brackets, with no candidate yet. -/
def enterFlow : TokenM Unit :=
  modify fun s => { s with flowLevel := s.flowLevel + 1 }

/-- Leaves a level of brackets, if inside one, forgetting its candidate. -/
def leaveFlow : TokenM Unit := do
  if (← get).flowLevel != 0 then
    dropTopCandidate
    modify fun s => { s with flowLevel := s.flowLevel - 1 }

/-- Opens a collection written by indentation at `column` if that is deeper than the
current one: its start token goes at the end of the queue, or before the token numbered
`number`. Nothing happens in brackets. -/
def rollIndent (column : Int) (number : Option Nat) (kind : TokenKind) (mark : Mark) :
    TokenM Unit := do
  let s ← get
  if s.flowLevel == 0 && s.indent < column then
    set { s with indents := s.indent :: s.indents, indent := column }
    match number with
    | none => enqueue kind mark mark
    | some n => insertAt (n - s.taken) ⟨kind, mark, mark⟩

/-- Closes the collections written by indentation deeper than `column`, at most `fuel`. -/
def unrollIndentFor (column : Int) : Nat → TokenM Unit
  | 0 => pure ()
  | fuel + 1 => do
    let s ← get
    if column < s.indent then
      set { s with queue := s.queue ++ [({ kind := .blockEnd, start := s.mark, stop := s.mark } : Token)],
                   indent := s.indents.headD (-1), indents := s.indents.tail }
      unrollIndentFor column fuel

/-- Closes the collections written by indentation deeper than `column`; nothing happens in
brackets. -/
def unrollIndent (column : Int) : TokenM Unit := do
  let s ← get
  if s.flowLevel == 0 then unrollIndentFor column (s.indents.length + 1)

/-- Moves past blanks, comments and line breaks, at most `fuel` lines of them. -/
def skipToTokenFor : Nat → TokenM Unit
  | 0 => pure ()
  | fuel + 1 => do
    if (← here).column == 0 && isByteOrderMark (← current) then advance
    let s ← get
    skipWhile fun c => c == ' ' || ((s.flowLevel != 0 || !s.keyAllowed) && c == '\t')
    if (← current) == '#' then skipWhile fun c => !isBreakOrEnd c
    if isBreak (← current) then
      advanceLine
      if (← get).flowLevel == 0 then setKeyAllowed true
      skipToTokenFor fuel

/-- Moves past blanks, comments and line breaks up to the next token. -/
def skipToToken : TokenM Unit := do
  skipToTokenFor (← remaining)

/-- The byte offset of the first character the text may not hold. -/
def refusedOffset (input : Array Char) : Option Nat :=
  let before := input.toList.takeWhile isAllowed
  if before.length < input.size then
    some (before.foldl (fun n c => n + c.utf8Size) 0)
  else none

/-- Reads the start of the stream, after checking the characters of the text. -/
def fetchStreamStart : TokenM Unit := do
  let s ← get
  match refusedOffset s.input with
  | some offset =>
    throw { problem := "control characters are not allowed", mark := Mark.start, offset }
  | none =>
    set { s with indent := -1, candidates := [], keyAllowed := true, started := true }
    enqueue .streamStart s.mark s.mark

/-- Reads the end of the stream, on a line of its own. -/
def fetchStreamEnd : TokenM Unit := do
  modify fun s =>
    if s.mark.column == 0 then s
    else { s with mark := ⟨s.mark.index, s.mark.line + 1, 0⟩ }
  unrollIndent (-1)
  removeCandidate
  setKeyAllowed false
  let m ← here
  enqueue .streamEnd m m

/-- Reads a directive. -/
def fetchDirective : TokenM Unit := do
  unrollIndent (-1)
  removeCandidate
  setKeyAllowed false
  let t ← scanDirective
  modify fun s => { s with queue := s.queue ++ [t] }

/-- Reads `---` or `...`. -/
def fetchDocumentIndicator (kind : TokenKind) : TokenM Unit := do
  unrollIndent (-1)
  removeCandidate
  setKeyAllowed false
  let start ← here
  advanceBy 3
  enqueue kind start (← here)

/-- Reads a one-character token. -/
def fetchIndicator (kind : TokenKind) : TokenM Unit := do
  let start ← here
  advance
  enqueue kind start (← here)

/-- Reads `[` or `{`: a key may start at it and after it. -/
def fetchFlowStart (kind : TokenKind) : TokenM Unit := do
  saveCandidate
  enterFlow
  setKeyAllowed true
  fetchIndicator kind

/-- Reads `]` or `}`. -/
def fetchFlowEnd (kind : TokenKind) : TokenM Unit := do
  removeCandidate
  leaveFlow
  setKeyAllowed false
  fetchIndicator kind

/-- Reads `,`. -/
def fetchFlowEntry : TokenM Unit := do
  removeCandidate
  setKeyAllowed true
  fetchIndicator .flowEntry

/-- Reads `-` before an entry; in a block it may open a sequence, and only where a key
may start. -/
def fetchBlockEntry : TokenM Unit := do
  let s ← get
  if s.flowLevel == 0 then
    if !s.keyAllowed then
      fail none "block sequence entries are not allowed in this context"
    else rollIndent s.mark.column none .blockSequenceStart s.mark
  removeCandidate
  setKeyAllowed true
  fetchIndicator .blockEntry

/-- Reads `?`; in a block it may open a mapping, and only where a key may start. -/
def fetchKey : TokenM Unit := do
  let s ← get
  if s.flowLevel == 0 then
    if !s.keyAllowed then
      fail none "mapping keys are not allowed in this context"
    else rollIndent s.mark.column none .blockMappingStart s.mark
  removeCandidate
  setKeyAllowed ((← get).flowLevel == 0)
  fetchIndicator .key

/-- Reads `:`. After a candidate, a key token goes before the candidate's token, and the
start of a mapping before that when the key opens one; otherwise the `:` follows a key
given with `?`, or none, which in a block is only allowed where a key may start. -/
def fetchValue : TokenM Unit := do
  match ← topCandidate with
  | some k =>
    let s ← get
    insertAt (k.tokenNumber - s.taken) ⟨.key, k.mark, k.mark⟩
    rollIndent k.mark.column (some k.tokenNumber) .blockMappingStart k.mark
    dropTopCandidate
    setKeyAllowed false
  | none =>
    let s ← get
    if s.flowLevel == 0 then
      if !s.keyAllowed then
        fail none "mapping values are not allowed in this context"
      else rollIndent s.mark.column none .blockMappingStart s.mark
    setKeyAllowed ((← get).flowLevel == 0)
  fetchIndicator .value

/-- Reads a token that may start a key and after which none may: an anchor, alias, tag,
or quoted or plain scalar. -/
def fetchKeyStart (scan : TokenM Token) : TokenM Unit := do
  saveCandidate
  setKeyAllowed false
  let t ← scan
  modify fun s => { s with queue := s.queue ++ [t] }

/-- Reads a block scalar, after which a key may start. -/
def fetchBlockScalar (literal : Bool) : TokenM Unit := do
  removeCandidate
  setKeyAllowed true
  let t ← scanBlock literal
  modify fun s => { s with queue := s.queue ++ [t] }

/-- The character cannot start a plain scalar on its own: a blank, a break, the end, or
an indicator. -/
def isIndicator (c : Char) : Bool :=
  isSpaceOrEnd c || "-?:,[]\x7b\x7d#&*!|>'\"%@".contains c || c == graveAccent

/-- Reads the token at the place, which is not blank. -/
def fetchToken : TokenM Unit := do
  let s ← get
  let c ← current
  let d ← charAt 1
  let atLineStart := s.mark.column == 0
  if c == endChar then fetchStreamEnd
  else if atLineStart && c == '%' then fetchDirective
  else if ← atDocumentMarker then
    fetchDocumentIndicator (if c == '-' then .documentStart else .documentEnd)
  else if c == '[' then fetchFlowStart .flowSequenceStart
  else if c == '{' then fetchFlowStart .flowMappingStart
  else if c == ']' then fetchFlowEnd .flowSequenceEnd
  else if c == '}' then fetchFlowEnd .flowMappingEnd
  else if c == ',' then fetchFlowEntry
  else if c == '-' && isSpaceOrEnd d then fetchBlockEntry
  else if c == '?' && (s.flowLevel != 0 || isSpaceOrEnd d) then fetchKey
  else if c == ':' && (s.flowLevel != 0 || isSpaceOrEnd d) then fetchValue
  else if c == '*' then fetchKeyStart (scanAnchor true)
  else if c == '&' then fetchKeyStart (scanAnchor false)
  else if c == '!' then fetchKeyStart scanTag
  else if c == '|' && s.flowLevel == 0 then fetchBlockScalar true
  else if c == '>' && s.flowLevel == 0 then fetchBlockScalar false
  else if c == '\'' then fetchKeyStart (scanQuoted true)
  else if c == '"' then fetchKeyStart (scanQuoted false)
  else if !isIndicator c || (c == '-' && !isBlank d) ||
      (s.flowLevel == 0 && (c == '?' || c == ':') && !isSpaceOrEnd d) then
    fetchKeyStart scanPlain
  else
    fail (some ("while scanning for the next token", s.mark))
      "found character that cannot start any token"

/-- Reads the next token, with the closing of collections it brings. -/
def fetchNextToken : TokenM Unit := do
  if !(← get).started then fetchStreamStart
  else
    skipToToken
    staleCandidates
    unrollIndent (← here).column
    fetchToken

/-- Reads tokens until the first one queued can be handed out, at most `fuel` of them. -/
def fetchMoreFor : Nat → TokenM Unit
  | 0 => pure ()
  | fuel + 1 => do
    let need ←
      if (← get).queue.isEmpty then pure true
      else
        staleCandidates
        let s ← get
        pure (s.candidates.any fun k => k.tokenNumber == s.taken)
    if need then
      fetchNextToken
      fetchMoreFor fuel

/-- The next token, read if needed. -/
def peek : TokenM Token := do
  if !(← get).ready then
    fetchMoreFor ((← remaining) + 8)
    modify fun s => { s with ready := true }
  let s ← get
  match s.queue with
  | t :: _ => pure t
  | [] => pure ⟨.streamEnd, s.mark, s.mark⟩

/-- Takes the token handed out. -/
def skip : TokenM Unit :=
  modify fun s => { s with ready := false, taken := s.taken + 1, queue := s.queue.tail,
                           ended := s.ended || s.queue.head?.any (·.kind == .streamEnd) }

end TokenStream

end PlanetTiles.Yaml
