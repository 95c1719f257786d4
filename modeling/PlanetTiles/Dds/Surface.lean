import PlanetTiles.Dds.Header

/-!
# DXT1 surfaces

A surface is a top-level size, a pixel format, its mip chain and the compressed bytes of
exactly those levels. It is built from parts, checking that the sides are not zero and that
the data covers the chain, and dropping bytes beyond it; reading a file reads the header,
then builds the surface from the bytes after it.

Writing a surface back gives a 128-byte header that declares the levels kept and the
format, then the data, so that reading the written file gives the same surface.
-/

namespace PlanetTiles.Dds

open Bytes

/-- A DXT1 surface with its mip chain. -/
structure Surface where
  /-- width of the top level -/
  width : Nat
  /-- height of the top level -/
  height : Nat
  /-- how the blocks are read -/
  format : PixelFormat
  /-- the levels, largest first -/
  levels : List MipLevel
  /-- the compressed bytes of all levels -/
  data : ByteArray

namespace Surface

/-- Builds a surface from compressed blocks: the chain has the requested count of levels,
held between 1 and the full chain, and bytes beyond it are dropped. -/
def ofParts (width height : Nat) (format : PixelFormat) (mipCount : Nat) (data : ByteArray) :
    Except SurfaceError Surface :=
  if width = 0 ∨ height = 0 then .error (.invalidDimensions width height)
  else
    let levels := mipChain width height mipCount
    let needed := chainLength levels
    if data.size < needed then .error (.truncated needed data.size)
    else .ok ⟨width, height, format, levels, data.extract 0 needed⟩

/-- Reads a DDS file held in memory. -/
def parse (bytes : ByteArray) : Except SurfaceError Surface := do
  let header ← Header.read bytes
  let format ← header.pixelFormat
  ofParts header.width header.height format header.mipCount
    (bytes.extract preambleLength bytes.size)

/-- The compressed bytes of level `index`, if there is such a level. -/
def levelData (s : Surface) (index : Nat) : Option ByteArray :=
  match s.levels[index]? with
  | none => none
  | some level =>
    if level.offset + level.len ≤ s.data.size then
      some (s.data.extract level.offset (level.offset + level.len))
    else none

/-- The same blocks, read in another format. -/
def setFormat (s : Surface) (format : PixelFormat) : Surface :=
  { s with format }

/-- The header flags a written file carries: a mip count only for more than one level. -/
def writtenFlags (mipCount : Nat) : Nat :=
  flagCaps ||| flagHeight ||| flagWidth ||| flagPixelFormat ||| flagLinearSize |||
    (if 1 < mipCount then flagMipmapCount else 0)

/-- The capability flags a written file carries. -/
def writtenCaps (mipCount : Nat) : Nat :=
  capsTexture ||| (if 1 < mipCount then capsComplex ||| capsMipmap else 0)

/-- The pixel format flags a written file carries. -/
def writtenPixelFlags (format : PixelFormat) : Nat :=
  pixelFourCc ||| (if format.hasAlpha then pixelAlpha else 0)

/-- The 128 bytes of magic and header that describe the surface. -/
def preamble (s : Surface) : List UInt8 :=
  let mipCount := s.levels.length
  let topLength := (s.levels.head?.map (·.len)).getD 0
  magic ++
    ([headerSize, writtenFlags mipCount, s.height, s.width, topLength, 0, mipCount].flatMap
      (encodeLE 4)) ++
    List.replicate 44 0 ++ encodeLE 4 pixelFormatSize ++ encodeLE 4 (writtenPixelFlags s.format) ++
    dxt1Code ++ List.replicate 20 0 ++ encodeLE 4 (writtenCaps mipCount) ++ List.replicate 16 0

/-- The surface as a DDS file. -/
def toBytes (s : Surface) : ByteArray :=
  s.preamble.toByteArray ++ s.data

/-- Two surfaces agree field by field, the data compared byte by byte. -/
def sameAs (s t : Surface) : Bool :=
  s.width == t.width && s.height == t.height && s.format == t.format &&
    s.levels == t.levels && s.data.toList == t.data.toList

theorem length_preamble (s : Surface) : s.preamble.length = preambleLength := by
  simp [preamble, preambleLength, magic, dxt1Code]

end Surface

end PlanetTiles.Dds
