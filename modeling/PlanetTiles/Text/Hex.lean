/-!
# Bytes as hexadecimal text

Messages name raw bytes, such as a file's magic number, as two lowercase hexadecimal
digits each. A list of bytes is written in brackets, separated by a comma and a space:
`[54, 58, 01, 00]`.

Main statements:

* `length_hexByte` — every byte takes exactly two digits.
-/

namespace PlanetTiles.Text

/-- The lowercase hexadecimal digit of a number below 16. -/
def hexDigit (n : Nat) : Char :=
  if n < 10 then Char.ofNat (48 + n) else Char.ofNat (87 + n)

/-- The two lowercase hexadecimal digits of a byte. -/
def hexByte (b : UInt8) : String :=
  String.ofList [hexDigit (b.toNat / 16), hexDigit (b.toNat % 16)]

/-- A list of bytes as bracketed two-digit hexadecimal numbers. -/
def hexList (bytes : List UInt8) : String :=
  "[" ++ ", ".intercalate (bytes.map hexByte) ++ "]"

theorem length_hexByte (b : UInt8) : (hexByte b).length = 2 := by
  simp [hexByte]

end PlanetTiles.Text
