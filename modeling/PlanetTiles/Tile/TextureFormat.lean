/-!
# Texture formats

A decoded tile is uploaded as one of three texel formats: elevation rasters as one 16-bit
unsigned channel, image tiles as BC1 blocks with or without their one bit of alpha.
-/

namespace PlanetTiles

/-- The texel format a decoded tile is uploaded in. -/
inductive TextureFormat where
  /-- one 16-bit unsigned normalized channel -/
  | r16Unorm
  /-- BC1 blocks, opaque -/
  | bc1RgbUnorm
  /-- BC1 blocks with one bit of alpha -/
  | bc1RgbaUnorm
  deriving DecidableEq, Repr

/-- The name of a texture format. -/
def TextureFormat.name : TextureFormat → String
  | .r16Unorm => "R16Unorm"
  | .bc1RgbUnorm => "Bc1RgbUnorm"
  | .bc1RgbaUnorm => "Bc1RgbaUnorm"

end PlanetTiles
