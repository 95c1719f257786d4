import PlanetTiles.Number.Binary64

/-!
# Binary64 numbers in fixed-point text

A number is written with a fixed count of decimals by rounding its exact binary value to
that many places, a tie going to the even neighbour. The sign is written whenever the sign
bit is set, so negative zero and negative numbers that round to zero keep their minus. NaN
is written `NaN` and the infinities `inf` and `-inf`.

Main statements:

* `roundHalfEven_eq` — a quotient rounds up past half a unit, and at exactly half only to
  reach an even number.
-/

namespace PlanetTiles

/-- `num / den` rounded to the nearest integer, a tie going to the even one. -/
def roundHalfEven (num den : Nat) : Nat :=
  let q := num / den
  let r := num % den
  if den < 2 * r then q + 1
  else if 2 * r = den then q + q % 2
  else q

/-- The quotient rounds up exactly when the remainder is over half the divisor, or is half
of it and the quotient is odd. -/
theorem roundHalfEven_eq (num den : Nat) :
    roundHalfEven num den =
      num / den + (if den < 2 * (num % den) ∨ (2 * (num % den) = den ∧ num / den % 2 = 1)
        then 1 else 0) := by
  unfold roundHalfEven
  by_cases h1 : den < 2 * (num % den)
  · simp [h1]
  · by_cases h2 : 2 * (num % den) = den
    · by_cases h3 : num / den % 2 = 1
      · simp [h2, h3]
      · simp [h2, h3]
        omega
    · simp [h1, h2]

/-- The digits of `n`, at least `width` of them, zeros in front. -/
def padDigits (width n : Nat) : String :=
  let digits := toString n
  String.ofList (List.replicate (width - digits.length) '0') ++ digits

namespace Binary64

/-- The magnitude of a finite word times `10 ^ places`, rounded to an integer. -/
def scaledMagnitude (x : Binary64) (places : Nat) : Nat :=
  match x.exponent with
  | .ofNat e => x.significand * Nat.pow 2 e * Nat.pow 10 places
  | .negSucc e => roundHalfEven (x.significand * Nat.pow 10 places) (Nat.pow 2 (e + 1))

/-- The number written with `places` decimals. -/
def fixed (x : Binary64) (places : Nat) : String :=
  if x.isNaN then "NaN"
  else
    let sign := if x.negative then "-" else ""
    if x.isInfinite then sign ++ "inf"
    else
      let n := x.scaledMagnitude places
      let whole := toString (n / Nat.pow 10 places)
      if places = 0 then sign ++ whole
      else sign ++ whole ++ "." ++ padDigits places (n % Nat.pow 10 places)

end Binary64

end PlanetTiles
