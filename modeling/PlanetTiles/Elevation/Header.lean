import PlanetTiles.Bytes.LittleEndian
import PlanetTiles.Number.Binary64
import PlanetTiles.Tile.DecodeError

/-!
# Elevation tile headers

An elevation payload opens with a packed 100-byte little-endian header:

| offset | size | field |
|---|---|---|
| 0 | 4 | id, `45 4c 45 01` |
| 4 | 4 | header size: where the sample block starts |
| 8 | 4 | sample type code: 0 flat, 8 unsigned 8-bit, -16 signed 16-bit |
| 12 | 2 × 4 | grid width and height, 259 × 259 |
| 20 | 2 × 4 | border widths, 1 × 1 |
| 28 | 2 × 8 | scale and offset of the samples |
| 44 | 4 × 8 | latitude and longitude range, in radians |
| 76 | 3 × 8 | minimum, maximum and mean elevation, in meters |

The six integers are signed 32-bit words at `4 + 4 i`, the nine reals binary64 words at
`28 + 8 i`. Reals stay words, so that writing a header back gives its bytes exactly.
-/

namespace PlanetTiles.Elevation

open Bytes

/-- The length of the packed header. -/
def headerLength : Nat := 100

/-- The side of a decoded raster. -/
def tileSize : Nat := 256

/-- The side of the stored grid, a one-sample border included. -/
def paddedGrid : Nat := 259

/-- The number of stored samples. -/
def gridSamples : Nat := paddedGrid * paddedGrid

/-- How the samples of a tile are stored. -/
inductive DataType where
  /-- no sample block: the whole tile is at its mean elevation -/
  | flat
  /-- unsigned 8-bit samples -/
  | u8
  /-- signed 16-bit samples -/
  | i16
  deriving DecidableEq, Repr

namespace DataType

/-- The sample type a header code names, if any. -/
def ofCode (code : Int) : Option DataType :=
  if code = 0 then some .flat
  else if code = 8 then some .u8
  else if code = -16 then some .i16
  else none

/-- The header code of a sample type. -/
def code : DataType → Int
  | .flat => 0
  | .u8 => 8
  | .i16 => -16

/-- Bytes per stored sample. -/
def sampleSize : DataType → Nat
  | .flat => 0
  | .u8 => 1
  | .i16 => 2

theorem ofCode_code (t : DataType) : ofCode t.code = some t := by
  cases t <;> decide

end DataType

/-- The signed 32-bit word of four little-endian bytes read as a number. -/
def word32 (n : Nat) : Int32 :=
  (UInt32.ofNat n).toInt32

/-- A decoded elevation header. -/
structure Header where
  /-- format tag and version -/
  id : Vector UInt8 4
  /-- header size: where the sample block starts -/
  headerSize : Int32
  /-- sample type code -/
  dataType : Int32
  /-- grid width -/
  gridWidth : Int32
  /-- grid height -/
  gridHeight : Int32
  /-- horizontal border width -/
  padX : Int32
  /-- vertical border width -/
  padY : Int32
  /-- sample scale, never applied -/
  scale : Binary64
  /-- sample offset, in meters -/
  offset : Binary64
  /-- southern edge -/
  latMin : Binary64
  /-- northern edge -/
  latMax : Binary64
  /-- western edge -/
  lngMin : Binary64
  /-- eastern edge -/
  lngMax : Binary64
  /-- lowest elevation -/
  elevMin : Binary64
  /-- highest elevation -/
  elevMax : Binary64
  /-- mean elevation -/
  elevMean : Binary64
  deriving DecidableEq, Repr

namespace Header

/-- The header of a flat tile at zero elevation: tag `ELE 1`, a 100-byte header, the
padded grid with one-sample borders, scale 1 and all else 0. -/
def standard : Header where
  id := ⟨#[0x45, 0x4c, 0x45, 0x01], rfl⟩
  headerSize := 100
  dataType := 0
  gridWidth := 259
  gridHeight := 259
  padX := 1
  padY := 1
  scale := Binary64.one
  offset := Binary64.zero
  latMin := Binary64.zero
  latMax := Binary64.zero
  lngMin := Binary64.zero
  lngMax := Binary64.zero
  elevMin := Binary64.zero
  elevMax := Binary64.zero
  elevMean := Binary64.zero

/-- The integer fields, in stored order. -/
def integers (h : Header) : List Int32 :=
  [h.headerSize, h.dataType, h.gridWidth, h.gridHeight, h.padX, h.padY]

/-- The real fields, in stored order. -/
def reals (h : Header) : List Binary64 :=
  [h.scale, h.offset, h.latMin, h.latMax, h.lngMin, h.lngMax, h.elevMin, h.elevMax, h.elevMean]

/-- The packed form: the id, then each integer in four bytes, then each real in eight. -/
def toBytes (h : Header) : ByteArray :=
  (h.id.toList ++ h.integers.flatMap (fun v => encodeLE 4 v.toUInt32.toNat) ++
    h.reals.flatMap (fun v => encodeLE 8 v.bits.toNat)).toByteArray

/-- The signed 32-bit word stored at `offset`. -/
def int32At (bytes : ByteArray) (offset : Nat) : Int32 :=
  word32 (readLE bytes offset 4)

/-- The binary64 word stored at `offset`. -/
def binary64At (bytes : ByteArray) (offset : Nat) : Binary64 :=
  ⟨UInt64.ofNat (readLE bytes offset 8)⟩

/-- Reads the fields of a packed header, each at its own offset, without checking the
length. -/
def read (bytes : ByteArray) : Header where
  id := Vector.ofFn fun i => (bytes[i.val]?).getD 0
  headerSize := int32At bytes 4
  dataType := int32At bytes 8
  gridWidth := int32At bytes 12
  gridHeight := int32At bytes 16
  padX := int32At bytes 20
  padY := int32At bytes 24
  scale := binary64At bytes 28
  offset := binary64At bytes 36
  latMin := binary64At bytes 44
  latMax := binary64At bytes 52
  lngMin := binary64At bytes 60
  lngMax := binary64At bytes 68
  elevMin := binary64At bytes 76
  elevMax := binary64At bytes 84
  elevMean := binary64At bytes 92

/-- The header at the start of a payload, which must hold all of it. -/
def parse (bytes : ByteArray) : Except DecodeError Header :=
  if bytes.size < headerLength then .error (.bufferTooShort headerLength bytes.size)
  else .ok (read bytes)

theorem parse_of_size {bytes : ByteArray} (h : headerLength ≤ bytes.size) :
    parse bytes = .ok (read bytes) := by
  simp [parse, Nat.not_lt.mpr h]

end Header

end PlanetTiles.Elevation
