/-!
# The Adler-32 checksum

A zlib stream ends with the Adler-32 checksum of the bytes it inflates to. The checksum
keeps two running sums modulo 65521, the largest prime below 2^16: `a` starts at 1 and
adds each byte, `b` starts at 0 and adds each new `a`. The checksum is `b * 2^16 + a`.

Main statements:

* `Adler.step_lt` — both sums stay below the modulus, so the packed value fits 32 bits.
* `Adler.feed_append` — feeding a concatenation runs the second part from the state
  the first part left, which is what a streaming decoder relies on.
-/

namespace PlanetTiles.Deflate

/-- The modulus of both running sums: the largest prime below 2^16. -/
def adlerModulus : Nat := 65521

/-- The two running sums of the checksum. -/
structure Adler where
  /-- one plus the sum of the bytes so far -/
  a : Nat
  /-- the sum of the successive values of `a` -/
  b : Nat
  deriving DecidableEq, Repr

namespace Adler

/-- The state before any byte. -/
def init : Adler := ⟨1, 0⟩

/-- Adds one byte to both sums. -/
def step (s : Adler) (byte : UInt8) : Adler :=
  let a := (s.a + byte.toNat) % adlerModulus
  ⟨a, (s.b + a) % adlerModulus⟩

/-- Runs the sums over a list of bytes. -/
def feed (s : Adler) (bytes : List UInt8) : Adler :=
  bytes.foldl step s

/-- Packs the two sums into the 32-bit checksum. -/
def value (s : Adler) : Nat :=
  s.b * 65536 + s.a

theorem step_lt (s : Adler) (byte : UInt8) :
    (s.step byte).a < adlerModulus ∧ (s.step byte).b < adlerModulus := by
  simp only [step, adlerModulus]
  omega

theorem feed_append (s : Adler) (xs ys : List UInt8) :
    s.feed (xs ++ ys) = (s.feed xs).feed ys := by
  simp [feed, List.foldl_append]

end Adler

/-- The Adler-32 checksum of a byte string. -/
def adler32 (bytes : ByteArray) : Nat :=
  (bytes.foldl Adler.step Adler.init).value

end PlanetTiles.Deflate
