import PlanetTiles.Number.Signed64

/-!
# Binary64 words

An IEEE 754 binary64 number is kept as its 64-bit word, so that every pattern, NaNs and
negative zero included, is carried through bytes unchanged. Its value is read off the word
exactly: a sign bit, an 11-bit biased exponent and a 52-bit fraction. A finite word is
`± significand * 2 ^ exponent`; an exponent field of all ones marks an infinity (fraction 0)
or a NaN.

Rounding toward zero into a signed 64-bit integer saturates: NaN gives 0, an infinity or a
value beyond the range gives the nearest bound.

Main statements:

* `Binary64.truncate_inRange` — the truncation is a signed 64-bit integer.
* `Binary64.truncMagnitude_of_exponent_neg` — a finite word below 1 in magnitude truncates to 0.
-/

namespace PlanetTiles

/-- An IEEE 754 binary64 number, as its 64-bit word. -/
structure Binary64 where
  /-- the word -/
  bits : UInt64
  deriving DecidableEq, Repr, Inhabited

namespace Binary64

/-- The word of 1.0. -/
def one : Binary64 := ⟨0x3ff0000000000000⟩

/-- The word of +0.0. -/
def zero : Binary64 := ⟨0⟩

/-- The sign bit, the word's top bit (`2^63`), is set. -/
def negative (x : Binary64) : Bool :=
  9223372036854775808 ≤ x.bits.toNat

/-- The biased exponent field: the 11 bits above the 52-bit fraction. -/
def biasedExponent (x : Binary64) : Nat :=
  x.bits.toNat / 4503599627370496 % 2048

/-- The fraction field: the low 52 bits (`2^52 = 4503599627370496`). -/
def fraction (x : Binary64) : Nat :=
  x.bits.toNat % 4503599627370496

/-- The exponent field is all ones and the fraction is not zero. -/
def isNaN (x : Binary64) : Bool :=
  x.biasedExponent = 2047 && x.fraction ≠ 0

/-- The exponent field is all ones and the fraction is zero. -/
def isInfinite (x : Binary64) : Bool :=
  x.biasedExponent = 2047 && x.fraction = 0

/-- The significand of a finite word: the fraction, with the hidden bit unless the word is
subnormal. -/
def significand (x : Binary64) : Nat :=
  if x.biasedExponent = 0 then x.fraction else x.fraction + 4503599627370496

/-- The power of two that scales the significand of a finite word. -/
def exponent (x : Binary64) : Int :=
  if x.biasedExponent = 0 then -1074 else (x.biasedExponent : Int) - 1075

/-- The integer part of the magnitude `significand * 2 ^ exponent`. -/
def truncMagnitude (x : Binary64) : Nat :=
  match x.exponent with
  | .ofNat e => x.significand <<< e
  | .negSucc e => x.significand >>> (e + 1)

/-- Rounds toward zero into the signed 64-bit range: NaN gives 0, infinities and values
beyond the range give the nearest bound. -/
def truncate (x : Binary64) : Int :=
  if x.isNaN then 0
  else if x.isInfinite then (if x.negative then Signed64.lowest else Signed64.highest)
  else Signed64.clamp (if x.negative then -(x.truncMagnitude : Int) else x.truncMagnitude)

/-- The word of the binary64 number nearest to `180 / π`, about 57.29577951308232. -/
def degreesPerRadian : Binary64 := ⟨0x404CA5DC1A63C1F8⟩

/-- Radians to degrees: the product with `degreesPerRadian`, rounded to the nearest binary64
number as IEEE 754 multiplication rounds. -/
def toDegrees (x : Binary64) : Binary64 :=
  ⟨(Float.ofBits x.bits * Float.ofBits degreesPerRadian.bits).toBits⟩

theorem truncate_inRange (x : Binary64) : Signed64.InRange x.truncate := by
  unfold truncate
  split
  · unfold Signed64.InRange Signed64.lowest Signed64.highest
    omega
  · split
    · split <;> (unfold Signed64.InRange Signed64.lowest Signed64.highest; omega)
    · exact Signed64.inRange_clamp _

theorem truncMagnitude_of_exponent_neg {x : Binary64} {e : Nat}
    (h : x.exponent = .negSucc e) (hs : x.significand < Nat.pow 2 (e + 1)) : x.truncMagnitude = 0 := by
  unfold truncMagnitude
  rw [h]
  simp only [Nat.shiftRight_eq_div_pow]
  exact Nat.div_eq_of_lt hs

end Binary64

end PlanetTiles
