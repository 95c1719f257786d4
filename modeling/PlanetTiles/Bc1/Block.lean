/-!
# BC1 blocks

A BC1 (DXT1) block covers 4 × 4 texels in 8 bytes: two endpoint colours in RGB565, then one
byte per texel row holding a 2-bit palette index per texel, the leftmost texel in the low
bits.

The palette has the two endpoints and two more entries. When the first endpoint is the
larger word there are two blends, two thirds of one endpoint and one third of the other;
otherwise the third entry is the even blend and the fourth is black, transparent when the
surface carries alpha and opaque when it does not. Channels widen from 5 or 6 bits to 8 by
repeating their top bits, and blends round down.

Main statements:

* `decodeTexel_alpha` — only the fourth entry of a three-colour block is transparent, and
  only with alpha.
-/

namespace PlanetTiles.Bc1

/-- An 8-bit RGBA colour. -/
structure Rgba where
  /-- red -/
  r : UInt8
  /-- green -/
  g : UInt8
  /-- blue -/
  b : UInt8
  /-- alpha -/
  a : UInt8
  deriving DecidableEq, Repr

/-- The four bytes of a colour, red first. -/
def Rgba.toList (c : Rgba) : List UInt8 :=
  [c.r, c.g, c.b, c.a]

/-- An RGB565 word widened to 8 bits per channel. -/
def expand565 (word : Nat) : Nat × Nat × Nat :=
  let r := (word >>> 11) % 32
  let g := (word >>> 5) % 64
  let b := word % 32
  (r * 8 + r / 4, g * 4 + g / 16, b * 8 + b / 4)

/-- The weighted blend `(a * wa + b * wb) / (wa + wb)` of each channel, rounded down. -/
def blend (a b : Nat × Nat × Nat) (wa wb : Nat) : Nat × Nat × Nat :=
  let mix := fun (x y : Nat) => (x * wa + y * wb) / (wa + wb)
  (mix a.1 b.1, mix a.2.1 b.2.1, mix a.2.2 b.2.2)

/-- An opaque or transparent colour from its channels. -/
def colour (rgb : Nat × Nat × Nat) (alpha : Nat) : Rgba :=
  ⟨rgb.1.toUInt8, rgb.2.1.toUInt8, rgb.2.2.toUInt8, alpha.toUInt8⟩

/-- The colour of palette entry `index` of a block with endpoints `c0` and `c1`. -/
def paletteEntry (c0 c1 index : Nat) (hasAlpha : Bool) : Rgba :=
  let p0 := expand565 c0
  let p1 := expand565 c1
  if index = 0 then colour p0 255
  else if index = 1 then colour p1 255
  else if c1 < c0 then
    if index = 2 then colour (blend p0 p1 2 1) 255 else colour (blend p0 p1 1 2) 255
  else if index = 2 then colour (blend p0 p1 1 1) 255
  else colour (0, 0, 0) (if hasAlpha then 0 else 255)

/-- The byte at `i` of a block, 0 past its end. -/
def byteAt (block : List UInt8) (i : Nat) : Nat :=
  ((block[i]?).getD 0).toNat

/-- The palette index of texel `(x, y)` of a block. -/
def indexAt (block : List UInt8) (x y : Nat) : Nat :=
  (byteAt block (4 + y) >>> (2 * x)) % 4

/-- The colour of texel `(x, y)` of a block, `x` and `y` below 4. -/
def decodeTexel (block : List UInt8) (x y : Nat) (hasAlpha : Bool) : Rgba :=
  paletteEntry (byteAt block 0 + 256 * byteAt block 1) (byteAt block 2 + 256 * byteAt block 3)
    (indexAt block x y) hasAlpha

theorem paletteEntry_alpha (c0 c1 index : Nat) (hasAlpha : Bool) (h : index < 4) :
    (paletteEntry c0 c1 index hasAlpha).a =
      if c0 ≤ c1 ∧ index = 3 ∧ hasAlpha then 0 else 255 := by
  unfold paletteEntry colour
  by_cases h0 : index = 0
  · simp [h0]
  · by_cases h1 : index = 1
    · simp [h1]
    · by_cases hc : c1 < c0
      · have : ¬ c0 ≤ c1 := by omega
        by_cases h2 : index = 2 <;> simp [h0, h1, hc, h2, this]
      · have : c0 ≤ c1 := by omega
        by_cases h2 : index = 2
        · simp [hc, h2]
        · have h3 : index = 3 := by omega
          cases hasAlpha <;> simp [hc, h3, this]

theorem decodeTexel_alpha (block : List UInt8) (x y : Nat) (hasAlpha : Bool) :
    (decodeTexel block x y hasAlpha).a =
      if byteAt block 0 + 256 * byteAt block 1 ≤ byteAt block 2 + 256 * byteAt block 3 ∧
          indexAt block x y = 3 ∧ hasAlpha then 0 else 255 :=
  paletteEntry_alpha _ _ _ _ (Nat.mod_lt _ (by decide))

end PlanetTiles.Bc1
