import PlanetTiles.Text.Hex
import PlanetTiles.Text.Utf8

/-!
# What goes wrong with a DDS surface

Reading a DDS container checks its header, its pixel format, its dimensions and the length
of its mip chain; flipping a surface needs level heights that split into whole block rows.
Each failure keeps the values that explain it, and `SurfaceError.message` gives its text.
-/

namespace PlanetTiles.Dds

/-- The two header structures that carry their own size. -/
inductive HeaderPart where
  /-- the surface header -/
  | header
  /-- the pixel format block inside it -/
  | pixelFormat
  deriving DecidableEq, Repr

/-- The name of a header structure in messages. -/
def HeaderPart.name : HeaderPart → String
  | .header => "header"
  | .pixelFormat => "pixel format"

/-- Why a surface could not be read or flipped. -/
inductive SurfaceError where
  /-- the file does not start with the DDS magic; the four bytes it starts with -/
  | badMagic (magic : List UInt8)
  /-- a structure declares a size other than its own -/
  | invalidHeaderSize (part : HeaderPart) (size : Nat)
  /-- the pixel format is not DXT1; its four-character code -/
  | unsupportedFourCc (fourcc : List UInt8)
  /-- a dimension is zero -/
  | invalidDimensions (width height : Nat)
  /-- fewer bytes than needed -/
  | truncated (needed actual : Nat)
  /-- a level of this height does not split into whole block rows -/
  | unflippableHeight (height : Nat)
  deriving DecidableEq, Repr

/-- The text of a surface error. -/
def SurfaceError.message : SurfaceError → String
  | .badMagic magic => "Invalid DDS magic: " ++ Text.hexList magic
  | .invalidHeaderSize part size => s!"Invalid DDS {part.name} size: {size}"
  | .unsupportedFourCc fourcc => "Unsupported DDS pixel format: " ++ Text.lossyString fourcc
  | .invalidDimensions width height => s!"Invalid DDS dimensions: {width}x{height}"
  | .truncated needed actual => s!"DDS payload truncated: {actual} bytes (need {needed})"
  | .unflippableHeight height => s!"Cannot flip mip level with height {height}"

end PlanetTiles.Dds
