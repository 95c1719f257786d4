/-!
# Classes of characters in YAML text

The end of the text reads as the character `U+0000`, which cannot occur in an accepted
text. A line break is a carriage return, a line feed, a next-line character, or a line or
paragraph separator; a blank is a space or a tab. Names of anchors and directives are made
of ASCII letters, digits, `_` and `-`.

A text may hold only tabs, line breaks, printable ASCII, the next-line character, and the
characters from `U+00A0` on except the surrogates, `U+FFFE` and `U+FFFF`.
-/

namespace PlanetTiles.Yaml

/-- The character that stands for the end of the text. -/
def endChar : Char := Char.ofNat 0

/-- A line break. -/
def isBreak (c : Char) : Bool :=
  c == '\r' || c == '\n' || c.toNat == 0x85 || c.toNat == 0x2028 || c.toNat == 0x2029

/-- A space or a tab. -/
def isBlank (c : Char) : Bool :=
  c == ' ' || c == '\t'

/-- A line break or the end of the text. -/
def isBreakOrEnd (c : Char) : Bool :=
  isBreak c || c == endChar

/-- A blank, a line break or the end of the text. -/
def isSpaceOrEnd (c : Char) : Bool :=
  isBlank c || isBreakOrEnd c

/-- A character of a name: an ASCII letter or digit, `_` or `-`. -/
def isNameChar (c : Char) : Bool :=
  ('0' ≤ c && c ≤ '9') || ('A' ≤ c && c ≤ 'Z') || ('a' ≤ c && c ≤ 'z') || c == '_' || c == '-'

/-- An ASCII decimal digit. -/
def isDigitChar (c : Char) : Bool :=
  '0' ≤ c && c ≤ '9'

/-- The value of a hexadecimal digit of either case. -/
def hexDigit? (c : Char) : Option Nat :=
  if '0' ≤ c && c ≤ '9' then some (c.toNat - '0'.toNat)
  else if 'a' ≤ c && c ≤ 'f' then some (c.toNat - 'a'.toNat + 10)
  else if 'A' ≤ c && c ≤ 'F' then some (c.toNat - 'A'.toNat + 10)
  else none

/-- The grave accent, which may not start a plain scalar. -/
def graveAccent : Char := Char.ofNat 96

/-- The byte order mark. -/
def isByteOrderMark (c : Char) : Bool :=
  c.toNat == 0xFEFF

/-- A character a YAML text may hold. -/
def isAllowed (c : Char) : Bool :=
  let n := c.toNat
  n == 0x09 || n == 0x0A || n == 0x0D || (0x20 ≤ n && n ≤ 0x7E) || n == 0x85 ||
    (0xA0 ≤ n && n ≤ 0xD7FF) || (0xE000 ≤ n && n ≤ 0xFFFD) || (0x10000 ≤ n && n ≤ 0x10FFFF)

end PlanetTiles.Yaml
