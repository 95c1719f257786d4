import PlanetTiles.Text.CharTables

/-!
# Quoted text in messages

A message names a text by putting it in double quotes, escaped so that the quotes end it
unambiguously and every character can be seen: the quote and the backslash get a backslash,
the tab and the line breaks are written `\t`, `\r` and `\n`, the null character `\0`, and
every other character that does not print, or that would combine with the character
before it, is written `\u{…}` with its code point in lowercase hexadecimal.

Printable ASCII always prints, and no character below `U+0300` combines; the others are
looked up in the tables of `Text.CharTables`.

Main statements:

* `quoted_ascii_plain` — a text of printable ASCII other than the quote and the backslash is
  quoted as itself.
-/

namespace PlanetTiles.Text

/-- The character prints: printable ASCII, or beyond ASCII a character in no hidden
range. -/
def prints (c : Char) : Bool :=
  let n := c.toNat
  if n < 0x7F then 0x20 ≤ n else !inRanges hiddenRanges n

/-- The character combines with the character before it: it extends its grapheme. -/
def combines (c : Char) : Bool :=
  let n := c.toNat
  0x300 ≤ n && inRanges extendingRanges n

/-- The lowercase hexadecimal digits of a number, at least one. -/
def lowerHex (n : Nat) : String :=
  String.ofList (Nat.toDigits 16 n)

/-- The escape of a character by its code point. -/
def codePointEscape (c : Char) : String :=
  "\\u\x7b" ++ lowerHex c.toNat ++ "\x7d"

/-- The text of one character inside the quotes. -/
def quotedChar (c : Char) : String :=
  if c = '"' then "\\\""
  else if c = '\\' then "\\\\"
  else if c = '\n' then "\\n"
  else if c = '\r' then "\\r"
  else if c = '\t' then "\\t"
  else if c = '\x00' then "\\0"
  else if combines c then codePointEscape c
  else if prints c then c.toString
  else codePointEscape c

/-- The escaped characters of a text. -/
def quotedBody (cs : List Char) : String :=
  String.join (cs.map quotedChar)

/-- A text in double quotes, escaped. -/
def quoted (s : String) : String :=
  "\"" ++ quotedBody s.toList ++ "\""

theorem quotedChar_plain {c : Char} (hlo : 0x20 ≤ c.toNat) (hhi : c.toNat < 0x7F)
    (hq : c ≠ '"') (hb : c ≠ '\\') : quotedChar c = c.toString := by
  have hn : c ≠ '\n' := fun h => by subst h; simp at hlo
  have hr : c ≠ '\r' := fun h => by subst h; simp at hlo
  have ht : c ≠ '\t' := fun h => by subst h; simp at hlo
  have h0 : c ≠ '\x00' := fun h => by subst h; simp at hlo
  have hp : prints c = true := by
    simp [prints, hhi, hlo]
  have he : combines c = false := by
    have : ¬ 0x300 ≤ c.toNat := by omega
    simp [combines, this]
  simp [quotedChar, hq, hb, hn, hr, ht, h0, hp, he]

theorem join_map_toString (l : List Char) : String.join (l.map Char.toString) = String.ofList l := by
  induction l with
  | nil => simp
  | cons c l ih => simp [String.join_cons, ih]

theorem quoted_ascii_plain (s : String)
    (h : ∀ c ∈ s.toList, 0x20 ≤ c.toNat ∧ c.toNat < 0x7F ∧ c ≠ '"' ∧ c ≠ '\\') :
    quoted s = "\"" ++ s ++ "\"" := by
  have hmap : s.toList.map quotedChar = s.toList.map Char.toString := by
    apply List.map_congr_left
    intro x hx
    have hx' := h x hx
    exact quotedChar_plain hx'.1 hx'.2.1 hx'.2.2.1 hx'.2.2.2
  have hbody : quotedBody s.toList = s := by
    rw [quotedBody, hmap, join_map_toString, String.ofList_toList]
  simp [quoted, hbody]

end PlanetTiles.Text
