/-!
# Saturating signed 64-bit arithmetic

Sample arithmetic happens on signed 64-bit integers that stop at their bounds instead of
wrapping. An integer is brought into range by clamping; a saturating sum is the clamped
exact sum, which is what adding two in-range words and stopping at the bounds gives.

Main statements:

* `Signed64.clamp_of_inRange` — clamping leaves an in-range value alone.
* `Signed64.inRange_clamp` — a clamped value is in range.
-/

namespace PlanetTiles.Signed64

/-- The smallest signed 64-bit integer, `-2^63`. -/
def lowest : Int := -9223372036854775808

/-- The largest signed 64-bit integer, `2^63 - 1`. -/
def highest : Int := 9223372036854775807

/-- The value lies within the signed 64-bit range. -/
def InRange (v : Int) : Prop := lowest ≤ v ∧ v ≤ highest

/-- The nearest signed 64-bit integer. -/
def clamp (v : Int) : Int :=
  max lowest (min highest v)

/-- The sum, stopped at the bounds. -/
def addSat (a b : Int) : Int :=
  clamp (a + b)

theorem clamp_of_inRange {v : Int} (h : InRange v) : clamp v = v := by
  unfold clamp
  unfold InRange at h
  omega

theorem inRange_clamp (v : Int) : InRange (clamp v) := by
  unfold clamp InRange lowest highest
  omega

end PlanetTiles.Signed64
