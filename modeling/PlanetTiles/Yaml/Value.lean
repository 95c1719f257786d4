import PlanetTiles.Yaml.Chars
import PlanetTiles.Yaml.Token
import PlanetTiles.Number.Shortest
import PlanetTiles.Text.Quoted

/-!
# YAML scalars as typed values

A reader of typed values sees a scalar as one of a few kinds. A plain scalar without a tag
is tried in this order:

* empty, `~`, `null`, `Null` or `NULL`: the unit value;
* `true`, `True`, `TRUE`, `false`, `False`, `FALSE`: a boolean;
* an integer: an optional `+` and then `0x`, `0o` or `0b` with digits of that radix, or
  decimal digits without a leading zero; or a minus sign and the same without the `+`.
  Tried as 64-bit unsigned, 64-bit signed, 128-bit unsigned and 128-bit signed, in that
  order;
* a decimal number with a point or an exponent (`1.5`, `1e3`, `.5`), or `.inf`, `-.inf`,
  `.nan` in three spellings each; a decimal that rounds to infinity is no number;
* anything else, a string. Digits with a leading zero are a string too, never a number.

A quoted or block scalar is a string. The tags `!!bool`, `!!int`, `!!float` and `!!null`
ask for their kind, and a text that does not spell one is refused with what it should have
been; any other tag starting with `!` on a plain scalar leaves it to the rules above, and
any other tag makes a string.

Each kind has a name for messages: `unit value`, ``boolean `true` ``, ``integer `7` ``,
``integer `N` as u128``, ``floating point `1.5` ``, `string "text"`, `sequence`, `map`. A
floating point number is written with the fewest digits that read back, and with `.0` when
it would otherwise look like an integer.

Main statements:

* `unsignedValue_decimal` — decimal digits without a leading zero are their value.
-/

namespace PlanetTiles.Yaml

/-- The value of a digit in a radix up to 16. -/
def digitValue (radix : Nat) (c : Char) : Option Nat :=
  (hexDigit? c).bind fun v => if v < radix then some v else none

/-- The number written by one or more digits of a radix. -/
def digitsValue (radix : Nat) (cs : List Char) : Option Nat :=
  if cs.isEmpty then none
  else cs.foldlM (fun acc c => (digitValue radix c).map (acc * radix + ·)) 0

/-- Decimal digits with a leading zero and more digits after it, signed or not: these spell
text, not a number. -/
def leadingZero (cs : List Char) : Bool :=
  let unsigned := match cs with
    | '+' :: rest => rest
    | '-' :: rest => rest
    | _ => cs
  1 < unsigned.length && unsigned.head? = some '0' && unsigned.all Char.isDigit

/-- The radix a prefix of `0x`, `0o` or `0b` announces, and the digits after it. -/
def radixPrefix : List Char → Option (Nat × List Char)
  | '0' :: 'x' :: rest => some (16, rest)
  | '0' :: 'o' :: rest => some (8, rest)
  | '0' :: 'b' :: rest => some (2, rest)
  | _ => none

/-- The non-negative integer a plain scalar spells, if any, of any size. -/
def unsignedValue (cs : List Char) : Option Nat :=
  let unsigned := match cs with
    | '+' :: rest => rest
    | _ => cs
  match radixPrefix unsigned with
  | some (radix, digits) =>
    match digits.head? with
    | some '+' => none
    | some '-' => none
    | _ =>
      match digitsValue radix digits with
      | some v => some v
      | none => if leadingZero cs then none else digitsValue 10 unsigned
  | none =>
    match unsigned.head? with
    | some '+' => none
    | some '-' => none
    | _ => if leadingZero cs then none else digitsValue 10 unsigned

/-- The integer at most zero that a plain scalar with a minus sign spells, of any size:
`-` with `0x`, `0o` or `0b` and digits, or `-` and decimal digits without a leading zero. -/
def negativeValue (cs : List Char) : Option Int :=
  match cs with
  | '-' :: rest =>
    match radixPrefix rest with
    | some (radix, digits) => (digitsValue radix digits).map fun v => -(v : Int)
    | none => if leadingZero cs then none else (digitsValue 10 rest).map fun v => -(v : Int)
  | _ => none

/-- The word of a plain scalar that spells a finite floating point number, or one of the
special spellings of infinity and NaN. -/
def floatValue (cs : List Char) : Option Binary64 :=
  let unpositive := match cs with
    | '+' :: rest =>
      match rest with
      | '+' :: _ => none
      | '-' :: _ => none
      | _ => some rest
    | _ => some cs
  match unpositive with
  | none => none
  | some u =>
    let text := String.ofList u
    if text = ".inf" ∨ text = ".Inf" ∨ text = ".INF" then some ⟨0x7FF0000000000000⟩
    else
      let whole := String.ofList cs
      if whole = "-.inf" ∨ whole = "-.Inf" ∨ whole = "-.INF" then some ⟨0xFFF0000000000000⟩
      else if whole = ".nan" ∨ whole = ".NaN" ∨ whole = ".NAN" then some ⟨0x7FF8000000000000⟩
      else
        match Decimal.ofSignedText? u with
        | some (negative, d) =>
          let x := Binary64.ofDecimal negative d
          if x.isInfinite then none else some x
        | none => none

/-- A node as a typed value. -/
inductive Value where
  /-- nothing: an empty or null scalar -/
  | unit
  /-- a boolean -/
  | boolean (b : Bool)
  /-- an integer within 64 bits, signed or unsigned -/
  | integer (i : Int)
  /-- a non-negative integer beyond 64 bits but within 128 -/
  | wideUnsigned (n : Nat)
  /-- a negative integer beyond 64 bits but within 128 -/
  | wideSigned (i : Int)
  /-- a floating point number -/
  | float (x : Binary64)
  /-- a string -/
  | string (s : String)
  /-- a sequence -/
  | sequence
  /-- a mapping -/
  | mapping
  deriving DecidableEq, Repr

namespace Value

/-- The integer kinds of a plain scalar, tried as 64-bit unsigned, 64-bit signed, 128-bit
unsigned and 128-bit signed, in that order. -/
def integerOf (cs : List Char) : Option Value :=
  match unsignedValue cs, negativeValue cs with
  | some n, _ =>
    if n < 18446744073709551616 then some (.integer n)
    else if n < 340282366920938463463374607431768211456 then some (.wideUnsigned n)
    else none
  | none, some v =>
    if -9223372036854775808 ≤ v then some (.integer v)
    else if -170141183460469231731687303715884105728 ≤ v then some (.wideSigned v)
    else none
  | none, none => none

/-- The texts of null: `~`, `null`, `Null` and `NULL`. -/
def isNull (text : String) : Bool :=
  text == "~" || text == "null" || text == "Null" || text == "NULL"

/-- The boolean a text spells, in one of three spellings each. -/
def booleanOf (text : String) : Option Bool :=
  if text = "true" ∨ text = "True" ∨ text = "TRUE" then some true
  else if text = "false" ∨ text = "False" ∨ text = "FALSE" then some false
  else none

/-- A plain scalar without a tag as a typed value. -/
def ofPlain (text : String) : Value :=
  let cs := text.toList
  if text = "" ∨ isNull text then .unit
  else if let some b := booleanOf text then .boolean b
  else
    match integerOf cs with
    | some v => v
    | none =>
      if leadingZero cs then .string text
      else
        match floatValue cs with
        | some x => .float x
        | none => .string text

/-- The tag that asks for a boolean. -/
def boolTag : String := "tag:yaml.org,2002:bool"

/-- The tag that asks for an integer. -/
def intTag : String := "tag:yaml.org,2002:int"

/-- The tag that asks for a floating point number. -/
def floatTag : String := "tag:yaml.org,2002:float"

/-- The tag that asks for null. -/
def nullTag : String := "tag:yaml.org,2002:null"

/-- A scalar as a typed value, by its tag and how it is written; a text refused by its tag
gives the text and what the tag asked for. -/
def ofScalar (tag : Option String) (text : String) (style : ScalarStyle) :
    Except (String × String) Value :=
  match tag with
  | some t =>
    if t == boolTag then
      match booleanOf text with
      | some b => .ok (.boolean b)
      | none => .error (text, "a boolean")
    else if t == intTag then
      match integerOf text.toList with
      | some v => .ok v
      | none => .error (text, "an integer")
    else if t == floatTag then
      match floatValue text.toList with
      | some x => .ok (.float x)
      | none => .error (text, "a float")
    else if t == nullTag then
      if isNull text then .ok .unit else .error (text, "null")
    else if t.startsWith "!" && style == .plain then .ok (ofPlain text)
    else .ok (.string text)
  | none => if style == .plain then .ok (ofPlain text) else .ok (.string text)

/-- The text of a floating point number in a message: the fewest digits that read back,
with `.0` added to a finite number that has no point. -/
def floatText (x : Binary64) : String :=
  let text := x.plainText
  if !x.isNaN && !x.isInfinite && !text.toList.contains '.' then text ++ ".0" else text

/-- The name of a value in a message. -/
def describe : Value → String
  | .unit => "unit value"
  | .boolean b => "boolean `" ++ toString b ++ "`"
  | .integer i => "integer `" ++ toString i ++ "`"
  | .wideUnsigned n => "integer `" ++ toString n ++ "` as u128"
  | .wideSigned i => "integer `" ++ toString i ++ "` as i128"
  | .float x => "floating point `" ++ floatText x ++ "`"
  | .string s => "string " ++ Text.quoted s
  | .sequence => "sequence"
  | .mapping => "map"

end Value

theorem unsignedValue_decimal (cs : List Char) (h : cs.head? ≠ some '0')
    (hplus : cs.head? ≠ some '+') (hminus : cs.head? ≠ some '-') (hx : radixPrefix cs = none) :
    unsignedValue cs = digitsValue 10 cs := by
  have hz : leadingZero cs = false := by
    unfold leadingZero
    match cs, h, hplus, hminus with
    | [], _, _, _ => rfl
    | c :: rest, h, hp, hm =>
      have hc : c ≠ '0' := fun e => h (by rw [e]; rfl)
      have hcp : c ≠ '+' := fun e => hp (by rw [e]; rfl)
      have hcm : c ≠ '-' := fun e => hm (by rw [e]; rfl)
      simp [hc, hcp, hcm]
  match cs, hplus, hminus, hx, hz with
  | [], _, _, _, _ => rfl
  | c :: rest, hp, hm, hx, hz =>
    have hcp : c ≠ '+' := fun e => hp (by rw [e]; rfl)
    have hcm : c ≠ '-' := fun e => hm (by rw [e]; rfl)
    simp [unsignedValue, hx, hz, hcp, hcm]

end PlanetTiles.Yaml
