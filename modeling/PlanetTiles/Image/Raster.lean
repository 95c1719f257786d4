import PlanetTiles.Dds.Flip
import PlanetTiles.Dds.Rgba
import PlanetTiles.Tile.DecodeError

/-!
# Image tiles

Surface and land-mask tiles are DXT1 surfaces stored top-down. Decoding reads the surface
and flips it, so that row zero is the southern edge as in elevation rasters. A land mask
keeps water in the one bit of alpha whether or not the file declares it, so its blocks are
always read with alpha.
-/

namespace PlanetTiles.Image

open Dds

/-- How an image layer's blocks are read. -/
inductive Variant where
  /-- surface colour, in the format the file declares -/
  | surface
  /-- land and water, water in the alpha bit -/
  | landMask
  deriving DecidableEq, Repr

/-- The pixel format a variant reads a declared format as. -/
def Variant.adjust : Variant → PixelFormat → PixelFormat
  | .landMask, _ => .dxt1Rgba
  | .surface, format => format

/-- A decoded image tile: a flipped surface. -/
structure Raster where
  /-- the surface, flipped and in the variant's format -/
  surface : Surface

/-- Decodes an image tile: reads the surface, flips it, and sets the variant's format. -/
def decode (variant : Variant) (bytes : ByteArray) : Except DecodeError Raster :=
  match Surface.parse bytes with
  | .error e => .error (.surface e)
  | .ok s =>
    match s.flipVertical with
    | .error e => .error (.surface e)
    | .ok flipped => .ok ⟨flipped.setFormat (variant.adjust flipped.format)⟩

namespace Raster

/-- The texture format of the tile. -/
def textureFormat (r : Raster) : TextureFormat :=
  r.surface.format.textureFormat

end Raster

end PlanetTiles.Image
