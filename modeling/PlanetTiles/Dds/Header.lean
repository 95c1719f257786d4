import PlanetTiles.Bytes.LittleEndian
import PlanetTiles.Dds.Error
import PlanetTiles.Dds.MipChain
import PlanetTiles.Tile.TextureFormat

/-!
# DDS headers

A DDS file opens with the magic `DDS ` and a 124-byte header, 128 bytes in all, then the
compressed levels. The fields that matter for DXT1 surfaces, all little-endian 32-bit:

| offset | field |
|---|---|
| 4 | header size, 124 |
| 8 | flags; `0x20000` says the mip count is meaningful |
| 12, 16 | height, width |
| 28 | mip count |
| 76 | pixel format size, 32 |
| 80 | pixel format flags; `0x4` marks a four-character code, `0x1` alpha |
| 84 | the four-character code, `DXT1` |

Reading checks, in this order: 128 bytes are there, the magic, the header size and the
pixel format size. The pixel format is checked when it is asked for.
-/

namespace PlanetTiles.Dds

open Bytes

/-- The magic that opens a DDS file. -/
def magic : List UInt8 := [0x44, 0x44, 0x53, 0x20]

/-- The four-character code of DXT1. -/
def dxt1Code : List UInt8 := [0x44, 0x58, 0x54, 0x31]

/-- The bytes of the magic and the header. -/
def preambleLength : Nat := 128

/-- The size a header declares for itself. -/
def headerSize : Nat := 124

/-- The size a pixel format block declares for itself. -/
def pixelFormatSize : Nat := 32

/-- Header flags: caps, height, width, pixel format, mip count and linear size. -/
def flagCaps : Nat := 0x1
def flagHeight : Nat := 0x2
def flagWidth : Nat := 0x4
def flagPixelFormat : Nat := 0x1000
def flagMipmapCount : Nat := 0x20000
def flagLinearSize : Nat := 0x80000

/-- Pixel format flags: alpha and four-character code. -/
def pixelAlpha : Nat := 0x1
def pixelFourCc : Nat := 0x4

/-- Capability flags: complex, texture and mipmap. -/
def capsComplex : Nat := 0x8
def capsTexture : Nat := 0x1000
def capsMipmap : Nat := 0x400000

/-- A flag word has a bit set. -/
def hasFlag (word flag : Nat) : Bool :=
  word &&& flag ≠ 0

/-- How the blocks of a DXT1 surface are read. -/
inductive PixelFormat where
  /-- opaque: the fourth colour of a three-colour block is black -/
  | dxt1Rgb
  /-- one bit of alpha: the fourth colour of a three-colour block is transparent -/
  | dxt1Rgba
  deriving DecidableEq, Repr

namespace PixelFormat

/-- The format carries alpha. -/
def hasAlpha : PixelFormat → Bool
  | .dxt1Rgb => false
  | .dxt1Rgba => true

/-- The texture format a surface of this format is uploaded in. -/
def textureFormat : PixelFormat → TextureFormat
  | .dxt1Rgb => .bc1RgbUnorm
  | .dxt1Rgba => .bc1RgbaUnorm

/-- The name of a pixel format. -/
def name : PixelFormat → String
  | .dxt1Rgb => "Dxt1Rgb"
  | .dxt1Rgba => "Dxt1Rgba"

end PixelFormat

/-- The fields of a DDS header that matter for DXT1 surfaces. -/
structure Header where
  /-- header flags -/
  flags : Nat
  /-- height in texels -/
  height : Nat
  /-- width in texels -/
  width : Nat
  /-- declared number of mip levels -/
  mipmapCount : Nat
  /-- pixel format flags -/
  pixelFlags : Nat
  /-- the pixel format's four-character code -/
  fourcc : List UInt8
  deriving DecidableEq, Repr

namespace Header

/-- Reads the magic and the header at the start of a file. -/
def read (bytes : ByteArray) : Except SurfaceError Header :=
  if bytes.size < preambleLength then .error (.truncated preambleLength bytes.size)
  else
    let start := (bytes.extract 0 4).toList
    if start ≠ magic then .error (.badMagic start)
    else if readLE bytes 4 4 ≠ headerSize then
      .error (.invalidHeaderSize .header (readLE bytes 4 4))
    else if readLE bytes 76 4 ≠ pixelFormatSize then
      .error (.invalidHeaderSize .pixelFormat (readLE bytes 76 4))
    else
      .ok { flags := readLE bytes 8 4, height := readLE bytes 12 4, width := readLE bytes 16 4,
            mipmapCount := readLE bytes 28 4, pixelFlags := readLE bytes 80 4,
            fourcc := (bytes.extract 84 88).toList }

/-- The declared pixel format: DXT1, with alpha when the alpha flag is set. -/
def pixelFormat (h : Header) : Except SurfaceError PixelFormat :=
  if !hasFlag h.pixelFlags pixelFourCc || h.fourcc ≠ dxt1Code then .error (.unsupportedFourCc h.fourcc)
  else if hasFlag h.pixelFlags pixelAlpha then .ok .dxt1Rgba
  else .ok .dxt1Rgb

/-- The number of mip levels present: the declared count held between 1 and the full chain
when the header says it is meaningful, else 1. -/
def mipCount (h : Header) : Nat :=
  if hasFlag h.flags flagMipmapCount then clampCount h.width h.height h.mipmapCount else 1

end Header

end PlanetTiles.Dds
