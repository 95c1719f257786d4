import PlanetTiles.Yaml.Event
import PlanetTiles.Yaml.Token.Stream

/-!
# Parsing tokens into events

The parser is a state machine over the tokens. Its state says what the grammar expects
next; a stack keeps the states to return to after a node, and another the marks where the
open collections began, for messages.

* A stream starts with its start token. The first document may begin without `---`; one
  with directives, and every later one, must begin with `---`.
* A `%YAML` directive must name version 1.1 or 1.2 and may be given once; a `%TAG`
  directive may be given once per handle. The handles `!` and `!!` stand for `!` and
  `tag:yaml.org,2002:` unless the document says otherwise. A tag's handle must be declared.
* A node is an alias, or an optional anchor and tag in either order followed by a scalar or
  a collection; an anchor or tag alone stands for an empty plain scalar. Where a node may be
  left out (a missing value, a key without a node), an empty plain scalar is produced at
  the mark where it would have been.
* In a block mapping, a value's sequence may be written at the indentation of its key.
-/

namespace PlanetTiles.Yaml

/-- What the parser expects next. -/
inductive ParseState where
  /-- the start of the stream -/
  | streamStart
  /-- the first document, which may start without `---` -/
  | implicitDocumentStart
  /-- a later document, or the end of the stream -/
  | documentStart
  /-- the node of a document after `---` -/
  | documentContent
  /-- the end of a document -/
  | documentEnd
  /-- a node in a block -/
  | blockNode
  /-- a node in a block, or a sequence at the indentation of its key -/
  | blockNodeOrIndentlessSequence
  /-- a node in brackets -/
  | flowNode
  /-- the first entry of a block sequence -/
  | blockSequenceFirstEntry
  /-- a further entry of a block sequence -/
  | blockSequenceEntry
  /-- an entry of a sequence at the indentation of its key -/
  | indentlessSequenceEntry
  /-- the first key of a block mapping -/
  | blockMappingFirstKey
  /-- a further key of a block mapping -/
  | blockMappingKey
  /-- a value of a block mapping -/
  | blockMappingValue
  /-- the first entry of a flow sequence -/
  | flowSequenceFirstEntry
  /-- a further entry of a flow sequence -/
  | flowSequenceEntry
  /-- the key of a one-pair mapping in a flow sequence -/
  | flowSequenceEntryMappingKey
  /-- the value of a one-pair mapping in a flow sequence -/
  | flowSequenceEntryMappingValue
  /-- the end of a one-pair mapping in a flow sequence -/
  | flowSequenceEntryMappingEnd
  /-- the first key of a flow mapping -/
  | flowMappingFirstKey
  /-- a further key of a flow mapping -/
  | flowMappingKey
  /-- a value of a flow mapping -/
  | flowMappingValue
  /-- the missing value of a flow mapping key given without `:` -/
  | flowMappingEmptyValue
  /-- after the end of the stream -/
  | finished
  deriving DecidableEq, Repr

/-- The state of parsing a YAML text into events. -/
structure EventStream where
  /-- the tokens -/
  tokens : TokenStream
  /-- what is expected next -/
  state : ParseState := .streamStart
  /-- the states to return to, innermost first -/
  states : List ParseState := []
  /-- where the open collections began, innermost first -/
  marks : List Mark := []
  /-- the tag handles of the document and their prefixes, in order of declaration -/
  tagDirectives : List (String × String) := []
  /-- a bound on the tokens a loop may skip -/
  budget : Nat

/-- Steps of parsing: they change the state and may fail. -/
abbrev EventM := EStateM SyntaxError EventStream

namespace EventStream

/-- The state at the start of a text. -/
def ofText (text : String) : EventStream :=
  { tokens := TokenStream.ofText text, budget := 4 * text.length + 16 }

/-- Runs a step on the tokens. -/
def onTokens {α : Type} (m : TokenM α) : EventM α := fun s =>
  match m s.tokens with
  | .ok a t => .ok a { s with tokens := t }
  | .error e t => .error e { s with tokens := t }

/-- The next token. -/
def peekToken : EventM Token :=
  onTokens TokenStream.peek

/-- Takes the next token. -/
def skipToken : EventM Unit :=
  onTokens TokenStream.skip

/-- Fails with a problem at a mark, while parsing what began at another. -/
def failAt {α : Type} (context : Option (String × Mark)) (problem : String) (mark : Mark) :
    EventM α :=
  throw { problem, mark, context }

/-- Sets what is expected next. -/
def goTo (st : ParseState) : EventM Unit :=
  modify fun s => { s with state := st }

/-- Keeps a state to return to. -/
def pushState (st : ParseState) : EventM Unit :=
  modify fun s => { s with states := st :: s.states }

/-- Returns to the state kept last. -/
def popState : EventM Unit :=
  modify fun s => { s with state := s.states.headD .finished, states := s.states.tail }

/-- Keeps the mark where a collection began. -/
def pushMark (m : Mark) : EventM Unit :=
  modify fun s => { s with marks := m :: s.marks }

/-- The mark where the innermost open collection began, no longer kept. -/
def popMark : EventM Mark := fun s =>
  .ok (s.marks.headD Mark.start) { s with marks := s.marks.tail }

/-- The empty plain scalar at a mark. -/
def emptyAt (m : Mark) : Event × Mark :=
  (Event.empty, m)

/-- The token is a directive. -/
def isDirective : TokenKind → Bool
  | .versionDirective _ _ => true
  | .tagDirective _ _ => true
  | _ => false

/-- The start of the stream. -/
def streamStart : EventM (Event × Mark) := do
  let t ← peekToken
  if t.kind != .streamStart then
    failAt none "did not find expected <stream-start>" t.start
  else
    goTo .implicitDocumentStart
    skipToken
    pure (.streamStart, t.start)

/-- Declares a tag handle; declaring one twice is an error unless `duplicates` allows it,
when the first declaration stands. -/
def declareTag (handle tagPrefix : String) (duplicates : Bool) (mark : Mark) : EventM Unit := do
  let s ← get
  if s.tagDirectives.any (·.1 == handle) then
    if duplicates then pure () else failAt none "found duplicate %TAG directive" mark
  else set { s with tagDirectives := s.tagDirectives ++ [(handle, tagPrefix)] }

/-- Reads the directives before a document, at most `fuel` of them. -/
def directivesFor : Nat → Bool → EventM Unit
  | 0, _ => pure ()
  | fuel + 1, versionSeen => do
    let t ← peekToken
    match t.kind with
    | .versionDirective major minor =>
      if versionSeen then failAt none "found duplicate %YAML directive" t.start
      else if major != 1 || (minor != 1 && minor != 2) then
        failAt none "found incompatible YAML document" t.start
      else
        skipToken
        directivesFor fuel true
    | .tagDirective handle tagPrefix =>
      declareTag handle tagPrefix false t.start
      skipToken
      directivesFor fuel versionSeen
    | _ => pure ()

/-- Reads the directives before a document, then declares the default handles. -/
def directives : EventM Unit := do
  directivesFor (← get).budget false
  let t ← peekToken
  declareTag "!" "!" true t.start
  declareTag "!!" "tag:yaml.org,2002:" true t.start

/-- Skips `...` markers, at most `fuel` of them, and gives the token after them. -/
def skipDocumentEnds : Nat → EventM Token
  | 0 => peekToken
  | fuel + 1 => do
    let t ← peekToken
    if t.kind == .documentEnd then
      skipToken
      skipDocumentEnds fuel
    else pure t

/-- The start of a document, or the end of the stream. -/
def documentStart (implicit : Bool) : EventM (Event × Mark) := do
  let t ← if implicit then peekToken else skipDocumentEnds (← get).budget
  if implicit && !(isDirective t.kind || t.kind == .documentStart || t.kind == .streamEnd) then
    directives
    pushState .documentEnd
    goTo .blockNode
    pure (.documentStart, t.start)
  else if t.kind != .streamEnd then
    directives
    let t' ← peekToken
    if t'.kind != .documentStart then
      failAt none "did not find expected <document start>" t'.start
    else
      pushState .documentEnd
      goTo .documentContent
      skipToken
      pure (.documentStart, t.start)
  else
    goTo .finished
    skipToken
    pure (.streamEnd, t.start)

/-- The end of a document, with or without `...`; the document's handles are forgotten. -/
def documentEnd : EventM (Event × Mark) := do
  let t ← peekToken
  if t.kind == .documentEnd then skipToken
  modify fun s => { s with tagDirectives := [] }
  goTo .documentStart
  pure (.documentEnd, t.start)

/-- The anchor and tag before a node, and where the tag is. -/
structure Properties where
  /-- the anchor -/
  anchor : Option String := none
  /-- the tag's handle and suffix -/
  tag : Option (String × String) := none
  /-- where the tag is -/
  tagMark : Mark := Mark.start

/-- Reads the anchor and tag before a node, in either order, starting at `t`; gives them
and the token after them. -/
def properties (t : Token) : EventM (Properties × Token) := do
  match t.kind with
  | .anchor name =>
    skipToken
    let t' ← peekToken
    match t'.kind with
    | .tag handle suffix =>
      skipToken
      pure ({ anchor := some name, tag := some (handle, suffix), tagMark := t'.start },
        ← peekToken)
    | _ => pure ({ anchor := some name }, t')
  | .tag handle suffix =>
    skipToken
    let t' ← peekToken
    match t'.kind with
    | .anchor name =>
      skipToken
      pure ({ anchor := some name, tag := some (handle, suffix), tagMark := t.start },
        ← peekToken)
    | _ => pure ({ tag := some (handle, suffix), tagMark := t.start }, t')
  | _ => pure ({}, t)

/-- The full tag of a node: a verbatim tag as it is, else the prefix of its handle and its
suffix. -/
def resolveTag (start : Mark) (p : Properties) : EventM (Option String) := do
  match p.tag with
  | none => pure none
  | some (handle, suffix) =>
    if handle.isEmpty then pure (some suffix)
    else
      match (← get).tagDirectives.find? (·.1 == handle) with
      | some (_, tagPrefix) => pure (some (tagPrefix ++ suffix))
      | none => failAt (some ("while parsing a node", start)) "found undefined tag handle" p.tagMark

/-- A node: in a block or in brackets, and where a sequence may be written at the
indentation of its key. -/
def node (block indentless : Bool) : EventM (Event × Mark) := do
  let t ← peekToken
  match t.kind with
  | .alias name =>
    popState
    skipToken
    pure (.alias name, t.start)
  | _ =>
    let start := t.start
    let (p, t) ← properties t
    let tag ← resolveTag start p
    match t.kind with
    | .scalar text style =>
      popState
      skipToken
      pure (.scalar p.anchor tag text style, start)
    | kind =>
      if indentless && kind == .blockEntry then
        goTo .indentlessSequenceEntry
        pure (.sequenceStart p.anchor tag, start)
      else if kind == .flowSequenceStart then
        goTo .flowSequenceFirstEntry
        pure (.sequenceStart p.anchor tag, start)
      else if kind == .flowMappingStart then
        goTo .flowMappingFirstKey
        pure (.mappingStart p.anchor tag, start)
      else if block && kind == .blockSequenceStart then
        goTo .blockSequenceFirstEntry
        pure (.sequenceStart p.anchor tag, start)
      else if block && kind == .blockMappingStart then
        goTo .blockMappingFirstKey
        pure (.mappingStart p.anchor tag, start)
      else if p.anchor.isSome || p.tag.isSome then
        popState
        pure (.scalar p.anchor tag "" .plain, start)
      else
        failAt (some (if block then "while parsing a block node" else "while parsing a flow node",
          start)) "did not find expected node content" t.start

/-- The node of a document after `---`, or an empty one. -/
def documentContent : EventM (Event × Mark) := do
  let t ← peekToken
  if isDirective t.kind || t.kind == .documentStart || t.kind == .documentEnd ||
      t.kind == .streamEnd then
    popState
    pure (emptyAt t.start)
  else node true false

/-- Opens a collection: keeps the mark of its start token and takes it. -/
def openCollection : EventM Unit := do
  let t ← peekToken
  pushMark t.start
  skipToken

/-- Closes a collection at its end token `t`. -/
def closeCollection (t : Token) (ev : Event) : EventM (Event × Mark) := do
  popState
  let _ ← popMark
  skipToken
  pure (ev, t.start)

/-- An entry of a block sequence, or its end. -/
def blockSequenceEntry (first : Bool) : EventM (Event × Mark) := do
  if first then openCollection
  let t ← peekToken
  if t.kind == .blockEntry then
    skipToken
    let t' ← peekToken
    if t'.kind != .blockEntry && t'.kind != .blockEnd then
      pushState .blockSequenceEntry
      node true false
    else
      goTo .blockSequenceEntry
      pure (emptyAt t.stop)
  else if t.kind == .blockEnd then closeCollection t .sequenceEnd
  else
    failAt (some ("while parsing a block collection", ← popMark))
      "did not find expected '-' indicator" t.start

/-- An entry of a sequence at the indentation of its key, or its end. -/
def indentlessSequenceEntry : EventM (Event × Mark) := do
  let t ← peekToken
  if t.kind == .blockEntry then
    skipToken
    let t' ← peekToken
    if t'.kind != .blockEntry && t'.kind != .key && t'.kind != .value && t'.kind != .blockEnd then
      pushState .indentlessSequenceEntry
      node true false
    else
      goTo .indentlessSequenceEntry
      pure (emptyAt t.stop)
  else
    popState
    pure (.sequenceEnd, t.start)

/-- A key of a block mapping, or its end. -/
def blockMappingKey (first : Bool) : EventM (Event × Mark) := do
  if first then openCollection
  let t ← peekToken
  if t.kind == .key then
    skipToken
    let t' ← peekToken
    if t'.kind != .key && t'.kind != .value && t'.kind != .blockEnd then
      pushState .blockMappingValue
      node true true
    else
      goTo .blockMappingValue
      pure (emptyAt t.stop)
  else if t.kind == .blockEnd then closeCollection t .mappingEnd
  else
    failAt (some ("while parsing a block mapping", ← popMark)) "did not find expected key" t.start

/-- A value of a block mapping, empty when it is left out. -/
def blockMappingValue : EventM (Event × Mark) := do
  let t ← peekToken
  if t.kind == .value then
    skipToken
    let t' ← peekToken
    if t'.kind != .key && t'.kind != .value && t'.kind != .blockEnd then
      pushState .blockMappingKey
      node true true
    else
      goTo .blockMappingKey
      pure (emptyAt t.stop)
  else
    goTo .blockMappingKey
    pure (emptyAt t.start)

/-- An entry of a flow sequence, or its end; after the first, entries follow a `,`. -/
def flowSequenceEntry (first : Bool) : EventM (Event × Mark) := do
  if first then openCollection
  let t ← peekToken
  if t.kind == .flowSequenceEnd then closeCollection t .sequenceEnd
  else
    let t ←
      if first then pure t
      else if t.kind == .flowEntry then
        skipToken
        peekToken
      else
        failAt (some ("while parsing a flow sequence", ← popMark))
          "did not find expected ',' or ']'" t.start
    if t.kind == .key then
      goTo .flowSequenceEntryMappingKey
      skipToken
      pure (.mappingStart none none, t.start)
    else if t.kind == .flowSequenceEnd then closeCollection t .sequenceEnd
    else
      pushState .flowSequenceEntry
      node false false

/-- The key of a one-pair mapping in a flow sequence. -/
def flowSequenceEntryMappingKey : EventM (Event × Mark) := do
  let t ← peekToken
  if t.kind != .value && t.kind != .flowEntry && t.kind != .flowSequenceEnd then
    pushState .flowSequenceEntryMappingValue
    node false false
  else
    goTo .flowSequenceEntryMappingValue
    pure (emptyAt t.start)

/-- The value of a one-pair mapping in a flow sequence. -/
def flowSequenceEntryMappingValue : EventM (Event × Mark) := do
  let t ← peekToken
  if t.kind == .value then
    skipToken
    let t' ← peekToken
    if t'.kind != .flowEntry && t'.kind != .flowSequenceEnd then
      pushState .flowSequenceEntryMappingEnd
      node false false
    else
      goTo .flowSequenceEntryMappingEnd
      pure (emptyAt t'.start)
  else
    goTo .flowSequenceEntryMappingEnd
    pure (emptyAt t.start)

/-- The end of a one-pair mapping in a flow sequence. -/
def flowSequenceEntryMappingEnd : EventM (Event × Mark) := do
  let t ← peekToken
  goTo .flowSequenceEntry
  pure (.mappingEnd, t.start)

/-- A key of a flow mapping, or its end; after the first, keys follow a `,`. -/
def flowMappingKey (first : Bool) : EventM (Event × Mark) := do
  if first then openCollection
  let t ← peekToken
  if t.kind == .flowMappingEnd then closeCollection t .mappingEnd
  else
    let t ←
      if first then pure t
      else if t.kind == .flowEntry then
        skipToken
        peekToken
      else
        failAt (some ("while parsing a flow mapping", ← popMark))
          "did not find expected ',' or '\x7d'" t.start
    if t.kind == .key then
      skipToken
      let t' ← peekToken
      if t'.kind != .value && t'.kind != .flowEntry && t'.kind != .flowMappingEnd then
        pushState .flowMappingValue
        node false false
      else
        goTo .flowMappingValue
        pure (emptyAt t'.start)
    else if t.kind == .flowMappingEnd then closeCollection t .mappingEnd
    else
      pushState .flowMappingEmptyValue
      node false false

/-- A value of a flow mapping, empty when it is left out. -/
def flowMappingValue (empty : Bool) : EventM (Event × Mark) := do
  let t ← peekToken
  if empty then
    goTo .flowMappingKey
    pure (emptyAt t.start)
  else if t.kind == .value then
    skipToken
    let t' ← peekToken
    if t'.kind != .flowEntry && t'.kind != .flowMappingEnd then
      pushState .flowMappingKey
      node false false
    else
      goTo .flowMappingKey
      pure (emptyAt t'.start)
  else
    goTo .flowMappingKey
    pure (emptyAt t.start)

/-- The next event. After the end of the stream it is the end of the stream again. -/
def next : EventM (Event × Mark) := do
  match (← get).state with
  | .streamStart => streamStart
  | .implicitDocumentStart => documentStart true
  | .documentStart => documentStart false
  | .documentContent => documentContent
  | .documentEnd => documentEnd
  | .blockNode => node true false
  | .blockNodeOrIndentlessSequence => node true true
  | .flowNode => node false false
  | .blockSequenceFirstEntry => blockSequenceEntry true
  | .blockSequenceEntry => blockSequenceEntry false
  | .indentlessSequenceEntry => indentlessSequenceEntry
  | .blockMappingFirstKey => blockMappingKey true
  | .blockMappingKey => blockMappingKey false
  | .blockMappingValue => blockMappingValue
  | .flowSequenceFirstEntry => flowSequenceEntry true
  | .flowSequenceEntry => flowSequenceEntry false
  | .flowSequenceEntryMappingKey => flowSequenceEntryMappingKey
  | .flowSequenceEntryMappingValue => flowSequenceEntryMappingValue
  | .flowSequenceEntryMappingEnd => flowSequenceEntryMappingEnd
  | .flowMappingFirstKey => flowMappingKey true
  | .flowMappingKey => flowMappingKey false
  | .flowMappingValue => flowMappingValue false
  | .flowMappingEmptyValue => flowMappingValue true
  | .finished => pure (.streamEnd, (← get).tokens.mark)

end EventStream

end PlanetTiles.Yaml
