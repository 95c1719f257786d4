import PlanetTiles.Yaml.Token.Cursor

/-!
# Reading directives, anchors, aliases and tags

* A directive starts with `%` at the start of a line: `%YAML major.minor` with numbers of
  at most nine digits, or `%TAG handle prefix`; any other name is an error. Only a comment
  may follow on its line.
* An anchor `&name` or alias `*name` has a name of one or more name characters, followed
  by a blank, a break, the end of the text, or one of `? : , ] } % @` and the grave accent.
* A tag is `!<uri>` (verbatim), `!handle!suffix`, `!suffix` or `!` alone, and is followed
  by a blank, a break, the end, or inside brackets a comma. A handle is `!`, `!!` or
  `!name!`. URI characters are the name characters and `;/?:@&=+$.%!~*'()`, and inside `<>`
  also `,[]`; `%` starts an escaped byte in hexadecimal, and the bytes so written must
  form UTF-8 sequences. A tag ends at its first zero byte.

A tag is kept as its handle and suffix: `!` alone has an empty handle and the suffix `!`,
a verbatim tag an empty handle and its URI.
-/

namespace PlanetTiles.Yaml

namespace TokenStream

/-- Reads the name of a directive after its `%`. -/
def directiveName (start : Mark) : TokenM String := do
  let name ← takeWhile isNameChar
  if name.isEmpty then
    fail (some ("while scanning a directive", start)) "could not find expected directive name"
  else if !isSpaceOrEnd (← current) then
    fail (some ("while scanning a directive", start)) "found unexpected non-alphabetical character"
  else pure name

/-- Reads a number of a version directive: one to nine digits. -/
def versionNumber (start : Mark) : Nat → Nat → Nat → TokenM Nat
  | 0, _, value => pure value
  | fuel + 1, length, value => do
    let c ← current
    if isDigitChar c then
      if 9 ≤ length then
        fail (some ("while scanning a %YAML directive", start)) "found extremely long version number"
      else
        advance
        versionNumber start fuel (length + 1) (value * 10 + (c.toNat - '0'.toNat))
    else if length == 0 then
      fail (some ("while scanning a %YAML directive", start)) "did not find expected version number"
    else pure value

/-- Reads the `major.minor` of a version directive. -/
def versionValue (start : Mark) : TokenM (Nat × Nat) := do
  skipWhile isBlank
  let major ← versionNumber start 11 0 0
  if (← current) != '.' then
    fail (some ("while scanning a %YAML directive", start))
      "did not find expected digit or '.' character"
  else
    advance
    let minor ← versionNumber start 11 0 0
    pure (major, minor)

/-- Reads a tag handle: `!`, `!!` or `!name!`; in a tag, `!name` is read too and left for
the suffix. -/
def tagHandle (directive : Bool) (start : Mark) : TokenM String := do
  if (← current) != '!' then
    fail (some (if directive then "while scanning a tag directive" else "while scanning a tag",
      start)) "did not find expected '!'"
  else
    advance
    let name ← takeWhile isNameChar
    if (← current) == '!' then
      advance
      pure ("!" ++ name ++ "!")
    else if directive && !name.isEmpty then
      fail (some ("while parsing a tag directive", start)) "did not find expected '!'"
    else pure ("!" ++ name)

/-- A character of a tag URI; `brackets` admits `,`, `[` and `]`. -/
def isUriChar (brackets : Bool) (c : Char) : Bool :=
  isNameChar c || ";/?:@&=+$.%!~*'()".contains c ||
    (brackets && (c == ',' || c == '[' || c == ']'))

/-- The context of an error in a tag or a tag directive. -/
def tagContext (directive : Bool) (start : Mark) : Option (String × Mark) :=
  some (if directive then "while parsing a %TAG directive" else "while parsing a tag", start)

/-- The length of the UTF-8 sequence a leading byte starts, 0 for a byte that starts none. -/
def sequenceLength (octet : Nat) : Nat :=
  if octet &&& 0x80 == 0 then 1
  else if octet &&& 0xE0 == 0xC0 then 2
  else if octet &&& 0xF0 == 0xE0 then 3
  else if octet &&& 0xF8 == 0xF0 then 4
  else 0

/-- Reads the escaped bytes of one UTF-8 sequence: `%` and two hexadecimal digits each.
`left` is the number of bytes still wanted, `none` before the leading one. -/
def uriEscapes (directive : Bool) (start : Mark) :
    Nat → Option Nat → List UInt8 → TokenM (List UInt8)
  | 0, _, acc => pure acc
  | fuel + 1, left, acc => do
    let c ← current
    let h1 ← charAt 1
    let h2 ← charAt 2
    match c == '%', hexDigit? h1, hexDigit? h2 with
    | true, some a, some b =>
      let octet := a * 16 + b
      let wanted ← match left with
        | none =>
          let n := sequenceLength octet
          if n == 0 then fail (tagContext directive start) "found an incorrect leading UTF-8 octet"
          else pure n
        | some n =>
          if octet &&& 0xC0 != 0x80 then
            fail (tagContext directive start) "found an incorrect trailing UTF-8 octet"
          else pure n
      advanceBy 3
      let acc := acc ++ [octet.toUInt8]
      if wanted ≤ 1 then pure acc
      else uriEscapes directive start fuel (some (wanted - 1)) acc
    | _, _, _ => fail (tagContext directive start) "did not find URI escaped octet"

/-- Reads the characters of a tag URI as bytes; how many characters and escapes were read. -/
def uriBytes (brackets directive : Bool) (start : Mark) :
    Nat → Nat → List UInt8 → TokenM (Nat × List UInt8)
  | 0, count, acc => pure (count, acc)
  | fuel + 1, count, acc => do
    let c ← current
    if !isUriChar brackets c then
      pure (count, acc)
    else if c == '%' then
      let acc ← uriEscapes directive start 5 none acc
      uriBytes brackets directive start fuel (count + 1) acc
    else
      advance
      uriBytes brackets directive start fuel (count + 1) (acc ++ (String.singleton c).toUTF8.toList)

/-- The text of the bytes of a tag: UTF-8, with any byte that is not part of a sequence read
as the replacement character. -/
def bytesText (bytes : List UInt8) : String :=
  match String.fromUTF8? (ByteArray.mk bytes.toArray) with
  | some text => text
  | none => String.ofList (bytes.map fun b => if b < 0x80 then Char.ofNat b.toNat else Char.ofNat 0xFFFD)

/-- Reads a tag URI, after `head` (a handle that turned out to start the suffix), up to its
first zero byte. It may not be empty. -/
def tagUri (brackets directive : Bool) (head : String) (start : Mark) : TokenM String := do
  let headBytes := (String.ofList (head.toList.drop 1)).toUTF8.toList
  let (count, bytes) ← uriBytes brackets directive start (← remaining) head.length headBytes
  if count == 0 then
    fail (tagContext directive start) "did not find expected tag URI"
  else pure (bytesText (bytes.takeWhile (· != 0)))

/-- Reads the handle and prefix of a tag directive. -/
def tagDirectiveValue (start : Mark) : TokenM (String × String) := do
  let context := some ("while scanning a %TAG directive", start)
  skipWhile isBlank
  let handle ← tagHandle true start
  if !isBlank (← current) then fail context "did not find expected whitespace"
  else
    skipWhile isBlank
    let tagPrefix ← tagUri true true "" start
    if !isSpaceOrEnd (← current) then fail context "did not find expected whitespace or line break"
    else pure (handle, tagPrefix)

/-- Reads a directive and the rest of its line. -/
def scanDirective : TokenM Token := do
  let start ← here
  advance
  let context := some ("while scanning a directive", start)
  let name ← directiveName start
  let kind ←
    if name == "YAML" then
      let (major, minor) ← versionValue start
      pure (TokenKind.versionDirective major minor)
    else if name == "TAG" then
      let (handle, tagPrefix) ← tagDirectiveValue start
      pure (TokenKind.tagDirective handle tagPrefix)
    else fail context "found unknown directive name"
  let stop ← here
  skipWhile isBlank
  if (← current) == '#' then skipWhile fun c => !isBreakOrEnd c
  if !isBreakOrEnd (← current) then
    fail context "did not find expected comment or line break"
  else
    if isBreak (← current) then advanceLine
    pure ⟨kind, start, stop⟩

/-- The characters that may follow the name of an anchor or alias besides blanks, breaks
and the end. -/
def endsName (c : Char) : Bool :=
  isSpaceOrEnd c || c == '?' || c == ':' || c == ',' || c == ']' || c == '}' || c == '%' ||
    c == '@' || c == graveAccent

/-- Reads an alias (`*name`) or an anchor (`&name`). -/
def scanAnchor (isAlias : Bool) : TokenM Token := do
  let start ← here
  advance
  let name ← takeWhile isNameChar
  let stop ← here
  if name.isEmpty || !endsName (← current) then
    fail (some (if isAlias then "while scanning an alias" else "while scanning an anchor", start))
      "did not find expected alphabetic or numeric character"
  else pure ⟨if isAlias then .alias name else .anchor name, start, stop⟩

/-- Reads a tag. -/
def scanTag : TokenM Token := do
  let start ← here
  let context := some ("while scanning a tag", start)
  let (handle, suffix) ←
    if (← charAt 1) == '<' then
      advanceBy 2
      let suffix ← tagUri true false "" start
      if (← current) != '>' then fail context "did not find the expected '>'"
      else
        advance
        pure ("", suffix)
    else
      let handle ← tagHandle false start
      if 2 ≤ handle.length && handle.endsWith "!" then
        let suffix ← tagUri false false "" start
        pure (handle, suffix)
      else
        let suffix ← tagUri false false handle start
        if suffix.isEmpty then pure ("", "!") else pure ("!", suffix)
  let c ← current
  if !isSpaceOrEnd c && ((← get).flowLevel == 0 || c != ',') then
    fail context "did not find expected whitespace or line break"
  else
    let stop ← here
    pure ⟨.tag handle suffix, start, stop⟩

theorem isUriChar_of_isNameChar {c : Char} (brackets : Bool) (h : isNameChar c = true) :
    isUriChar brackets c = true := by
  simp [isUriChar, h]

end TokenStream

end PlanetTiles.Yaml
