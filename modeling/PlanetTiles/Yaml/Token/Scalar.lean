import PlanetTiles.Yaml.Token.Cursor

/-!
# Reading scalars

A scalar is read into the text it stands for.

* **Quoted.** In single quotes `''` stands for one quote; in double quotes a backslash
  starts an escape: a letter for a control or special character, `x`, `u` or `U` with two,
  four or eight hexadecimal digits of a code point, or a line break, which joins the lines
  with nothing between them. The text may run over several lines at any indentation, but
  may not hold a document marker at the start of a line, nor reach the end of the text.
* **Plain.** The text runs up to a `: ` or ` #`, and in brackets up to `,` or a bracket;
  it goes on over line breaks while the next line is indented deeper than the collection
  around it. A tab may not stand in that indentation, and in brackets `:` may not be
  followed by `,`, `?` or a bracket.
* **Block.** After `|` or `>` come an optional chomping sign and indentation digit, in
  either order, then the rest of the line may hold only a comment. The lines that follow
  at the indentation (given, or taken from the first line with content) make the text;
  a folded block joins lines by spaces where neither line starts with a blank. The final
  line break is kept, dropped with `-`, or kept with the empty lines after it with `+`.

Line folding is the same in quoted and plain scalars: a single line break between two
pieces of text becomes a space, and each further line break is kept as a line feed;
blanks around the breaks are dropped. A carriage return, a line feed, both together or a
next-line character is read as a line feed; a line or paragraph separator stands for
itself and is never folded.
-/

namespace PlanetTiles.Yaml

namespace TokenStream

/-- The character an escape letter stands for, or the number of hexadecimal digits of the
code point it announces. -/
def escapeOf (c : Char) : Option (Char ⊕ Nat) :=
  match c with
  | '0' => some (.inl (Char.ofNat 0))
  | 'a' => some (.inl (Char.ofNat 7))
  | 'b' => some (.inl (Char.ofNat 8))
  | 't' => some (.inl '\t')
  | '\t' => some (.inl '\t')
  | 'n' => some (.inl '\n')
  | 'v' => some (.inl (Char.ofNat 11))
  | 'f' => some (.inl (Char.ofNat 12))
  | 'r' => some (.inl '\r')
  | 'e' => some (.inl (Char.ofNat 27))
  | ' ' => some (.inl ' ')
  | '"' => some (.inl '"')
  | '/' => some (.inl '/')
  | '\\' => some (.inl '\\')
  | 'N' => some (.inl (Char.ofNat 0x85))
  | '_' => some (.inl (Char.ofNat 0xA0))
  | 'L' => some (.inl (Char.ofNat 0x2028))
  | 'P' => some (.inl (Char.ofNat 0x2029))
  | 'x' => some (.inr 2)
  | 'u' => some (.inr 4)
  | 'U' => some (.inr 8)
  | _ => none

/-- The value of the `count` hexadecimal digits at the place, without moving past them. -/
def hexDigits (start : Mark) (count : Nat) : TokenM Nat :=
  (List.range count).foldlM
    (fun acc k => do
      match hexDigit? (← charAt k) with
      | some d => pure (acc * 16 + d)
      | none =>
        fail (some ("while parsing a quoted scalar", start))
          "did not find expected hexadecimal number")
    0

/-- Joins the blanks and breaks between two pieces of a scalar to the text: the blanks when
no line break came, otherwise the folded breaks. -/
def joinGap (acc spaces leading trailing : String) (broken : Bool) : String :=
  if broken then
    if leading == "\n" then
      if trailing.isEmpty then acc.push ' ' else acc ++ trailing
    else acc ++ leading ++ trailing
  else acc ++ spaces

/-- Reads the characters of a quoted scalar up to a blank, a line break, the end, its
closing quote or an escaped line break; whether an escaped line break ended them. -/
def quotedRun (single : Bool) (start : Mark) : Nat → String → TokenM (String × Bool)
  | 0, acc => pure (acc, false)
  | fuel + 1, acc => do
    let c ← current
    let d ← charAt 1
    if isSpaceOrEnd c then
      pure (acc, false)
    else if single && c == '\'' && d == '\'' then
      advanceBy 2
      quotedRun single start fuel (acc.push '\'')
    else if c == (if single then '\'' else '"') then
      pure (acc, false)
    else if !single && c == '\\' && isBreak d then
      advance
      advanceLine
      pure (acc, true)
    else if !single && c == '\\' then
      match escapeOf d with
      | none =>
        fail (some ("while parsing a quoted scalar", start)) "found unknown escape character"
      | some (.inl e) =>
        advanceBy 2
        quotedRun single start fuel (acc.push e)
      | some (.inr count) =>
        advanceBy 2
        let value ← hexDigits start count
        if (0xD800 ≤ value && value ≤ 0xDFFF) || 0x10FFFF < value then
          fail (some ("while parsing a quoted scalar", start))
            "found invalid Unicode character escape code"
        else
          advanceBy count
          quotedRun single start fuel (acc.push (Char.ofNat value))
    else
      advance
      quotedRun single start fuel (acc.push c)

/-- Reads the blanks and line breaks after a piece of a scalar: the blanks before the first
break, the first break, and the breaks after it; whether a break was met. Blanks after a
break are dropped. -/
def gap : Nat → String × String × String × Bool → TokenM (String × String × String × Bool)
  | 0, st => pure st
  | fuel + 1, (spaces, leading, trailing, broken) => do
    let c ← current
    if isBlank c then
      advance
      gap fuel (if broken then (spaces, leading, trailing, broken)
        else (spaces.push c, leading, trailing, broken))
    else if isBreak c then
      let line ← takeLine
      if broken then gap fuel (spaces, leading, trailing ++ line, true)
      else gap fuel ("", line, trailing, true)
    else pure (spaces, leading, trailing, broken)

/-- Reads the pieces of a quoted scalar up to its closing quote. -/
def quotedPieces (single : Bool) (start : Mark) : Nat → String → TokenM String
  | 0, acc => pure acc
  | fuel + 1, acc => do
    if ← atDocumentMarker then
      fail (some ("while scanning a quoted scalar", start)) "found unexpected document indicator"
    else if (← current) == endChar then
      fail (some ("while scanning a quoted scalar", start)) "found unexpected end of stream"
    else
      let (acc, escaped) ← quotedRun single start (← remaining) acc
      if (← current) == (if single then '\'' else '"') then
        pure acc
      else
        let (spaces, leading, trailing, broken) ← gap (← remaining) ("", "", "", escaped)
        quotedPieces single start fuel (joinGap acc spaces leading trailing broken)

/-- Reads a scalar in single or double quotes. -/
def scanQuoted (single : Bool) : TokenM Token := do
  let start ← here
  advance
  let text ← quotedPieces single start ((← remaining) + 1) ""
  advance
  let stop ← here
  pure ⟨.scalar text (if single then .singleQuoted else .doubleQuoted), start, stop⟩

/-- What a plain scalar has gathered: its text, the blanks and breaks not yet joined to it,
whether a break was met since the last piece, and where its last piece stops. -/
structure PlainParts where
  /-- the text so far -/
  text : String := ""
  /-- blanks after the last piece, before any break -/
  spaces : String := ""
  /-- the first break after the last piece -/
  leading : String := ""
  /-- the breaks after that -/
  trailing : String := ""
  /-- a break came after the last piece -/
  broken : Bool := false
  /-- where the last piece stops -/
  stop : Mark

/-- Reads a piece of a plain scalar: characters up to a blank, a break, the end, `: ` or,
in brackets, `,` or a bracket. -/
def plainRun (start : Mark) : Nat → PlainParts → TokenM PlainParts
  | 0, st => pure st
  | fuel + 1, st => do
    let c ← current
    let d ← charAt 1
    let inFlow := (← get).flowLevel > 0
    if isSpaceOrEnd c then
      pure st
    else if inFlow && c == ':' &&
        (d == ',' || d == '?' || d == '[' || d == ']' || d == '{' || d == '}') then
      fail (some ("while scanning a plain scalar", start)) "found unexpected ':'"
    else if (c == ':' && isSpaceOrEnd d) ||
        (inFlow && (c == ',' || c == '[' || c == ']' || c == '{' || c == '}')) then
      pure st
    else
      let text :=
        if st.broken || !st.spaces.isEmpty then
          joinGap st.text st.spaces st.leading st.trailing st.broken
        else st.text
      advance
      let stop ← here
      plainRun start fuel
        { text := text.push c, spaces := "", leading := "", trailing := "", broken := false, stop }

/-- Reads the blanks and line breaks after a piece of a plain scalar. A tab in the
indentation of a following line is an error. -/
def plainGap (start : Mark) (indent : Int) : Nat → PlainParts → TokenM PlainParts
  | 0, st => pure st
  | fuel + 1, st => do
    let c ← current
    if isBlank c then
      let column := (← here).column
      if st.broken && (column : Int) < indent && c == '\t' then
        fail (some ("while scanning a plain scalar", start))
          "found a tab character that violates indentation"
      else
        advance
        plainGap start indent fuel (if st.broken then st else { st with spaces := st.spaces.push c })
    else if isBreak c then
      let line ← takeLine
      if st.broken then plainGap start indent fuel { st with trailing := st.trailing ++ line }
      else plainGap start indent fuel { st with spaces := "", leading := line, broken := true }
    else pure st

/-- Reads the pieces of a plain scalar while the lines go on at a deeper indentation. -/
def plainPieces (start : Mark) (indent : Int) : Nat → PlainParts → TokenM PlainParts
  | 0, st => pure st
  | fuel + 1, st => do
    if (← atDocumentMarker) || (← current) == '#' then
      pure st
    else
      let st ← plainRun start (← remaining) st
      let c ← current
      if !(isBlank c || isBreak c) then
        pure st
      else
        let st ← plainGap start indent (← remaining) st
        if (← get).flowLevel == 0 && ((← here).column : Int) < indent then pure st
        else plainPieces start indent fuel st

/-- Reads a plain scalar. After one that went over a line break a simple key may follow. -/
def scanPlain : TokenM Token := do
  let start ← here
  let indent := (← get).indent + 1
  let st ← plainPieces start indent ((← remaining) + 1) { stop := start }
  if st.broken then setKeyAllowed true
  pure ⟨.scalar st.text .plain, start, st.stop⟩

/-- Moves past the spaces of a block scalar's indentation: all of them while the indentation
is not known, else those before it. -/
def indentSpaces (indent : Nat) : Nat → TokenM Unit
  | 0 => pure ()
  | fuel + 1 => do
    let column := (← here).column
    if (indent == 0 || column < indent) && (← current) == ' ' then
      advance
      indentSpaces indent fuel

/-- Reads the indentation and the empty lines before a line of a block scalar: the
indentation, the breaks read, and where they stop. An unknown indentation becomes the
deepest one of these lines, but at least one more than the collection around and at
least 1. -/
def blockBreaks (start : Mark) (indent : Nat) (outer : Int) :
    Nat → Nat → String → Mark → TokenM (Nat × String × Mark)
  | 0, _, breaks, stop => pure (indent, breaks, stop)
  | fuel + 1, deepest, breaks, stop => do
    indentSpaces indent (← remaining)
    let column := (← here).column
    let deepest := max deepest column
    let c ← current
    if (indent == 0 || column < indent) && c == '\t' then
      fail (some ("while scanning a block scalar", start))
        "found a tab character where an indentation space is expected"
    else if !isBreak c then
      let found : Nat :=
        if indent == 0 then max (max deepest (outer + 1).toNat) 1 else indent
      pure (found, breaks, stop)
    else
      let line ← takeLine
      let stop ← here
      blockBreaks start indent outer fuel deepest (breaks ++ line) stop

/-- Reads the lines of a block scalar at its indentation: the text, the break after the
last line, the empty lines after it, and where they stop. -/
def blockLines (literal : Bool) (start : Mark) (outer : Int) (indent : Nat) :
    Nat → String → String → String → Bool → Mark → TokenM (String × String × String × Mark)
  | 0, text, leading, trailing, _, stop => pure (text, leading, trailing, stop)
  | fuel + 1, text, leading, trailing, leadingBlank, stop => do
    let column := (← here).column
    let c ← current
    if !(column == indent && c != endChar) then
      pure (text, leading, trailing, stop)
    else
      let trailingBlank := isBlank c
      let text :=
        if !literal && leading == "\n" && !leadingBlank && !trailingBlank then
          if trailing.isEmpty then text.push ' ' else text
        else text ++ leading
      let text := text ++ trailing
      let line ← takeWhile fun c => !isBreakOrEnd c
      let leading ← takeLine
      let stop ← here
      let (indent, trailing, stop) ← blockBreaks start indent outer (← remaining) 0 "" stop
      blockLines literal start outer indent fuel (text ++ line) leading trailing (isBlank c) stop

/-- The chomping sign and indentation digit after `|` or `>`, in either order. -/
def blockHeader (start : Mark) : TokenM (Int × Nat) := do
  let context := some ("while scanning a block scalar", start)
  let c ← current
  let sign (c : Char) : Int := if c == '+' then 1 else -1
  if c == '+' || c == '-' then
    advance
    let d ← current
    if isDigitChar d then
      if d == '0' then fail context "found an indentation indicator equal to 0"
      else
        advance
        pure (sign c, d.toNat - '0'.toNat)
    else pure (sign c, 0)
  else if isDigitChar c then
    if c == '0' then fail context "found an indentation indicator equal to 0"
    else
      advance
      let d ← current
      if d == '+' || d == '-' then
        advance
        pure (sign d, c.toNat - '0'.toNat)
      else pure (0, c.toNat - '0'.toNat)
  else pure (0, 0)

/-- Reads a literal (`|`) or folded (`>`) block scalar. -/
def scanBlock (literal : Bool) : TokenM Token := do
  let start ← here
  advance
  let (chomping, increment) ← blockHeader start
  skipWhile isBlank
  if (← current) == '#' then skipWhile fun c => !isBreakOrEnd c
  if !isBreakOrEnd (← current) then
    fail (some ("while scanning a block scalar", start))
      "did not find expected comment or line break"
  else
    if isBreak (← current) then advanceLine
    let outer := (← get).indent
    let indent : Nat :=
      if increment == 0 then 0 else if 0 ≤ outer then (outer + increment).toNat else increment
    let stop ← here
    let (indent, trailing, stop) ← blockBreaks start indent outer (← remaining) 0 "" stop
    let (text, leading, trailing, stop) ←
      blockLines literal start outer indent ((← remaining) + 1) "" "" trailing false stop
    let text := if chomping != -1 then text ++ leading else text
    let text := if chomping == 1 then text ++ trailing else text
    pure ⟨.scalar text (if literal then .literal else .folded), start, stop⟩

end TokenStream

end PlanetTiles.Yaml
