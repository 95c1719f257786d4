import PlanetTiles.Dds.Surface
import PlanetTiles.Bc1.Block

/-!
# Expanding a surface to RGBA

The top level of a surface expands to 8-bit RGBA texels, row by row: texel `(x, y)` is
decoded from block `(y / 4) * blocks width + x / 4` at column `x mod 4` and row `y mod 4`,
with alpha as the surface's format says.
-/

namespace PlanetTiles.Dds

namespace Surface

/-- The eight bytes of block `index` of the data. -/
def block (s : Surface) (index : Nat) : List UInt8 :=
  (s.data.extract (index * blockBytes) ((index + 1) * blockBytes)).toList

/-- The colour of texel `(x, y)` of the top level. -/
def texel (s : Surface) (x y : Nat) : Bc1.Rgba :=
  Bc1.decodeTexel (s.block ((y / 4) * blocks s.width + x / 4)) (x % 4) (y % 4) s.format.hasAlpha

/-- The top level as RGBA bytes, row by row. -/
def decodeRgba (s : Surface) : ByteArray :=
  ⟨Array.ofFn (n := s.width * s.height * 4) fun i =>
    let t := i.val / 4
    let c := s.texel (t % s.width) (t / s.width)
    match i.val % 4 with
    | 0 => c.r
    | 1 => c.g
    | 2 => c.b
    | _ => c.a⟩

end Surface

end PlanetTiles.Dds
