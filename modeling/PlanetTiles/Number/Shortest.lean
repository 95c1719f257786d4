import PlanetTiles.Number.Decimal

/-!
# The fewest digits that read back

A finite binary64 word stands for every real that rounds to it: the interval from halfway
to the word below to halfway to the word above, its ends included when the significand is
even. The text of a word is the decimal of fewest digits in that interval, and of two such
decimals the closer one, a tie going to the larger.

The interval is scaled by four so that its ends are whole multiples of `2 ^ (exponent - 2)`:
`4m ± 2`, or `4m - 1` below a word whose fraction is zero, where the word below is half as
far away. Every normal word with a zero fraction is taken so, the least normal word among
them. A decimal is compared with the ends by cross-multiplying natural numbers.

The search tries grids of `10 ^ (k - n)` for `n = 1, 2, …, 17` digits, where `10 ^ k` is the
least power of ten above the value; on each grid only the two neighbours of the value can
be the answer. Seventeen digits always suffice; should they not, the exact value is taken.

A word is written positionally, never with an exponent: the digits, with a point inside
them, or zeros after them, or `0.` and zeros before them. A negative word, negative zero
included, has a minus sign; NaN is `NaN` and the infinities `inf` and `-inf`.

Main statements:

* `Binary64.pick_readsBack` — a decimal taken from a grid reads back.
* `Decimal.stripZeros_digits` — dropping trailing zeros leaves no trailing zero.
-/

namespace PlanetTiles

namespace Decimal

/-- Moves trailing zeros of the digits into the exponent. -/
def stripZeros (d : Decimal) : Decimal :=
  if h : d.digits ≠ 0 ∧ d.digits % 10 = 0 then
    stripZeros ⟨d.digits / 10, d.exponent + 1⟩
  else d
termination_by d.digits
decreasing_by omega

theorem stripZeros_digits (d : Decimal) (h : d.digits ≠ 0) :
    (stripZeros d).digits % 10 ≠ 0 := by
  induction d using stripZeros.induct with
  | case1 d hz ih =>
    rw [stripZeros, dif_pos hz]
    exact ih (by simp only; omega)
  | case2 d hz =>
    rw [stripZeros, dif_neg hz]
    omega

/-- The decimal written positionally: digits, a point where the exponent puts it, and the
zeros it needs before or after the digits. -/
def positional (d : Decimal) : String :=
  let s := toString d.digits
  let point : Int := s.length + d.exponent
  if point ≤ 0 then
    "0." ++ String.ofList (List.replicate (-point).toNat '0') ++ s
  else if point < s.length then
    String.ofList (s.toList.take point.toNat) ++ "." ++ String.ofList (s.toList.drop point.toNat)
  else s ++ String.ofList (List.replicate (point.toNat - s.length) '0')

end Decimal

namespace Binary64

/-- Compares `a × 10 ^ i` with `n × 2 ^ j` exactly. -/
def compareScaled (a : Nat) (i : Int) (n : Nat) (j : Int) : Ordering :=
  compare (a * Nat.pow 10 i.toNat * Nat.pow 2 (-j).toNat)
    (n * Nat.pow 2 j.toNat * Nat.pow 10 (-i).toNat)

/-- The word below is half as far away as the word above: a normal word whose fraction is
zero. -/
def narrowBelow (x : Binary64) : Bool :=
  x.fraction = 0 && x.biasedExponent ≠ 0

/-- The decimal lies among the reals that round to the finite word's magnitude. -/
def readsBack (x : Binary64) (d : Decimal) : Bool :=
  let m := x.significand
  let lo := if x.narrowBelow then 4 * m - 1 else 4 * m - 2
  let hi := 4 * m + 2
  let inclusive := m % 2 == 0
  let atLo := compareScaled d.digits d.exponent lo (x.exponent - 2)
  let atHi := compareScaled d.digits d.exponent hi (x.exponent - 2)
  (atLo == .gt || (inclusive && atLo == .eq)) && (atHi == .lt || (inclusive && atHi == .eq))

/-- The magnitude of a finite word lies below `10 ^ k`. -/
def belowPowerOfTen (x : Binary64) (k : Int) : Bool :=
  compareScaled 1 k x.significand x.exponent == .gt

/-- Moves an estimate of the least `k` with the magnitude below `10 ^ k` to that `k`. -/
def settleScale (x : Binary64) : (fuel : Nat) → Int → Int
  | 0, k => k
  | fuel + 1, k =>
    if !x.belowPowerOfTen k then settleScale x fuel (k + 1)
    else if x.belowPowerOfTen (k - 1) then settleScale x fuel (k - 1)
    else k

/-- The least `k` with the magnitude of a finite non-zero word below `10 ^ k`, from the
estimate `log10 2 ≈ 78913 / 2 ^ 18` of the binary logarithm. -/
def decimalScale (x : Binary64) : Int :=
  settleScale x 8 (((Nat.log2 x.significand : Int) + x.exponent) * 78913 / 262144)

/-- The magnitude divided by `10 ^ g`, as numerator and denominator. -/
def ratioOnGrid (x : Binary64) (g : Int) : Nat × Nat :=
  (x.significand * Nat.pow 2 x.exponent.toNat * Nat.pow 10 (-g).toNat,
    Nat.pow 2 (-x.exponent).toNat * Nat.pow 10 g.toNat)

/-- The neighbour of the magnitude on the grid `10 ^ g` that reads back, the closer of the
two if both do, the larger on a tie. -/
def pick (x : Binary64) (g : Int) : Option Decimal :=
  let (num, den) := x.ratioOnGrid g
  let lo := num / den
  let below := x.readsBack ⟨lo, g⟩
  let above := x.readsBack ⟨lo + 1, g⟩
  if below && above then
    if 2 * num < (2 * lo + 1) * den then some ⟨lo, g⟩ else some ⟨lo + 1, g⟩
  else if below then some ⟨lo, g⟩
  else if above then some ⟨lo + 1, g⟩
  else none

theorem pick_readsBack {x : Binary64} {g : Int} {d : Decimal} (h : x.pick g = some d) :
    x.readsBack d = true := by
  unfold pick at h
  simp only at h
  split at h
  · rename_i hboth
    simp only [Bool.and_eq_true] at hboth
    split at h
    · cases h
      exact hboth.1
    · cases h
      exact hboth.2
  · split at h
    · cases h
      assumption
    · split at h
      · cases h
        assumption
      · cases h

/-- The exact decimal value of a finite word's magnitude. -/
def exactDecimal (x : Binary64) : Decimal :=
  if 0 ≤ x.exponent then ⟨x.significand * Nat.pow 2 x.exponent.toNat, 0⟩
  else ⟨x.significand * Nat.pow 5 (-x.exponent).toNat, x.exponent⟩

/-- The decimal of fewest digits that reads back as the magnitude of a finite word, closest
to it, trailing zeros moved into the exponent; zero for a zero. -/
def shortest (x : Binary64) : Decimal :=
  if x.significand = 0 then ⟨0, 0⟩
  else
    let k := x.decimalScale
    Decimal.stripZeros
      (((List.range 17).findSome? fun (i : Nat) => x.pick (k - ((i : Int) + 1))).getD x.exactDecimal)

/-- The word as text: the fewest digits that read back, written positionally, with a minus
for a negative word; `NaN`, `inf` and `-inf` for the rest. -/
def plainText (x : Binary64) : String :=
  if x.isNaN then "NaN"
  else
    let sign := if x.negative then "-" else ""
    if x.isInfinite then sign ++ "inf"
    else sign ++ x.shortest.positional

end Binary64

end PlanetTiles
