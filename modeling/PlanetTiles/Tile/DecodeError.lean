import PlanetTiles.Dds.Error

/-!
# What goes wrong when decoding a tile payload

An elevation payload can be too short, have the wrong grid, a negative header size or an
unknown sample type; an image payload fails with the reason its surface could not be read.
-/

namespace PlanetTiles

/-- Why a tile payload could not be decoded. -/
inductive DecodeError where
  /-- fewer bytes than a header or the data block it declares -/
  | bufferTooShort (needed actual : Nat)
  /-- the elevation grid is not the padded tile size -/
  | gridMismatch (width height expected : Int)
  /-- the elevation header declares a negative size -/
  | negativeHeaderSize (size : Int)
  /-- the elevation sample type code is not flat, 8-bit or 16-bit -/
  | unsupportedDataType (code : Int)
  /-- the image's surface could not be read -/
  | surface (error : Dds.SurfaceError)
  deriving DecidableEq, Repr

/-- The text of a decode error. -/
def DecodeError.message : DecodeError → String
  | .bufferTooShort needed actual => s!"Buffer too short: {actual} bytes (need {needed})"
  | .gridMismatch width height expected =>
    s!"Unexpected elevation grid {width}x{height} (expected {expected}x{expected})"
  | .negativeHeaderSize size => s!"Negative header size: {size}"
  | .unsupportedDataType code => s!"Unsupported elevation data type: {code}"
  | .surface error => "DDS error: " ++ error.message

end PlanetTiles
