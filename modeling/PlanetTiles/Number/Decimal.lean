import PlanetTiles.Number.Fixed

/-!
# Decimals and their nearest binary64 words

A decimal is a natural number of digits scaled by a power of ten. It is written as digits
with an optional point and an optional exponent (`12`, `1.5`, `.5`, `5.`, `1e-3`, `2E+8`),
and it is read as a binary64 number by rounding its exact value to the nearest word: a value
halfway between two words goes to the one whose significand is even, and a value at or
beyond half a unit past the largest finite word becomes infinity.

The rounding is done in natural-number arithmetic on the exact fraction. Decimals far out of
range are settled by their digit count before any power is formed, so that an exponent of
any size costs nothing.

Main statements:

* `Decimal.ofText_digits` — a text of digits alone reads as its value, unscaled.
* `Binary64.ofDecimal_zero` — a decimal without digits reads as a zero of its sign.
-/

namespace PlanetTiles

/-- A decimal number: `digits × 10 ^ exponent`. -/
structure Decimal where
  /-- the digits, as one natural number -/
  digits : Nat
  /-- the power of ten they are scaled by -/
  exponent : Int
  deriving DecidableEq, Repr

namespace Decimal

/-- The value of a run of decimal digits, most significant first. -/
def digitsValue (ds : List Char) : Nat :=
  ds.foldl (fun acc c => acc * 10 + (c.toNat - '0'.toNat)) 0

/-- Splits the decimal digits off the front of a text: their value, their count, the rest. -/
def takeDigits (cs : List Char) : Nat × Nat × List Char :=
  let ds := cs.takeWhile Char.isDigit
  (digitsValue ds, ds.length, cs.dropWhile Char.isDigit)

/-- Reads an exponent after its `e` or `E`: an optional sign and at least one digit, with
nothing after them. -/
def exponentOfText? (cs : List Char) : Option Int :=
  let (negative, rest) := match cs with
    | '-' :: more => (true, more)
    | '+' :: more => (false, more)
    | more => (false, more)
  let (value, count, tail) := takeDigits rest
  if count = 0 ∨ !tail.isEmpty then none
  else some (if negative then -(value : Int) else value)

/-- Reads an unsigned decimal: digits with an optional point, at least one digit on some
side of it, then an optional exponent. -/
def ofText? (cs : List Char) : Option Decimal :=
  let (whole, wholeCount, rest) := takeDigits cs
  let (fraction, fractionCount, rest) := match rest with
    | '.' :: more => takeDigits more
    | _ => (0, 0, rest)
  if wholeCount + fractionCount = 0 then none
  else
    let digits := whole * Nat.pow 10 fractionCount + fraction
    match rest with
    | [] => some ⟨digits, -(fractionCount : Int)⟩
    | e :: more =>
      if e = 'e' ∨ e = 'E' then
        (exponentOfText? more).map fun exp => ⟨digits, exp - fractionCount⟩
      else none

/-- Reads a decimal with an optional sign: whether it is negative, and its magnitude. -/
def ofSignedText? : List Char → Option (Bool × Decimal)
  | '-' :: rest => (ofText? rest).map fun d => (true, d)
  | '+' :: rest => (ofText? rest).map fun d => (false, d)
  | cs => (ofText? cs).map fun d => (false, d)

theorem takeDigits_of_all (ds : List Char) (hd : ∀ c ∈ ds, c.isDigit = true) :
    takeDigits ds = (digitsValue ds, ds.length, []) := by
  have htake : ds.takeWhile Char.isDigit = ds := by
    induction ds with
    | nil => rfl
    | cons c cs ih =>
      simp only [List.takeWhile, hd c List.mem_cons_self]
      rw [ih fun x hx => hd x (List.mem_cons_of_mem c hx)]
  have hdrop : ds.dropWhile Char.isDigit = [] := by
    clear htake
    induction ds with
    | nil => rfl
    | cons c cs ih =>
      simp only [List.dropWhile, hd c List.mem_cons_self]
      exact ih fun x hx => hd x (List.mem_cons_of_mem c hx)
  simp [takeDigits, htake, hdrop]

theorem ofText_digits (ds : List Char) (h : ds ≠ []) (hd : ∀ c ∈ ds, c.isDigit = true) :
    ofText? ds = some ⟨digitsValue ds, 0⟩ := by
  have hlen : ds.length ≠ 0 := by simpa using h
  simp [ofText?, takeDigits_of_all ds hd, hlen]

end Decimal

namespace Binary64

/-- The word of infinity's bits: exponent all ones, fraction zero. -/
def infinityBits : Nat := 9218868437227405312

/-- The fraction `num / den` is at least `2 ^ k`, decided exactly. -/
def ratioAtLeastPow (num den : Nat) (k : Int) : Bool :=
  if 0 ≤ k then den * Nat.pow 2 k.toNat ≤ num else den ≤ num * Nat.pow 2 (-k).toNat

/-- The bits of the non-negative word nearest to `num / den`, for a positive `den`.

The scale `s` puts the quotient between `2 ^ 52` and `2 ^ 53` (the binary logarithms of
the two numbers fix it up to one step, which one comparison settles), but never below the
subnormal scale `-1074`. The quotient at that scale, rounded half to even, is the
significand; a carry to `2 ^ 53` moves up one scale. -/
def nearestBits (num den : Nat) : Nat :=
  if num = 0 then 0
  else
    let t : Int := (Nat.log2 num : Int) - Nat.log2 den
    let s := max (if ratioAtLeastPow num den t then t - 52 else t - 53) (-1074)
    let q := roundHalfEven (num * Nat.pow 2 (-s).toNat) (den * Nat.pow 2 s.toNat)
    let (q, s) := if q = 9007199254740992 then (4503599627370496, s + 1) else (q, s)
    if q < 4503599627370496 then q
    else
      let biased := (s + 1075).toNat
      if 2047 ≤ biased then infinityBits
      else biased * 4503599627370496 + (q - 4503599627370496)

/-- The word of a sign and magnitude bits. -/
def ofSignBits (negative : Bool) (magnitude : Nat) : Binary64 :=
  ⟨UInt64.ofNat ((if negative then 9223372036854775808 else 0) + magnitude)⟩

/-- The word nearest to a signed decimal. A decimal whose leading digit stands above
`10 ^ 309` is beyond every finite word; one whose digits all stand below `10 ^ -324` is
below half the least subnormal: those are settled without forming their powers. -/
def ofDecimal (negative : Bool) (d : Decimal) : Binary64 :=
  if d.digits = 0 then ofSignBits negative 0
  else
    let top := (Nat.toDigits 10 d.digits).length + d.exponent
    if 310 < top then ofSignBits negative infinityBits
    else if top < -324 then ofSignBits negative 0
    else if 0 ≤ d.exponent then
      ofSignBits negative (nearestBits (d.digits * Nat.pow 10 d.exponent.toNat) 1)
    else ofSignBits negative (nearestBits d.digits (Nat.pow 10 (-d.exponent).toNat))

theorem ofDecimal_zero (negative : Bool) (e : Int) :
    ofDecimal negative ⟨0, e⟩ = ofSignBits negative 0 := by
  simp [ofDecimal]

end Binary64

end PlanetTiles
