import PlanetTiles.Elevation.Header

/-!
# Elevation rasters

Decoding an elevation payload gives a 256 × 256 raster of unsigned 16-bit samples: the
stored grid without its one-sample border, each elevation shifted by the sea level and held
within `0 … 65535`. A flat tile has its truncated mean elevation everywhere; a stored tile
adds the truncated offset to each stored value. Truncation and sums saturate at the signed
64-bit bounds. The scale is never applied.

The checks run in this order: the header is all there, the grid is 259 × 259, the header
size is not negative, the sample type is known, and a stored tile holds its sample block,
which starts at the header size, also when that lies inside the header.

Main statements:

* `storedSamples_get` — each sample of a stored tile is the sample rule applied to the
  stored value below it.
-/

namespace PlanetTiles.Elevation

open Bytes

/-- The raster sample of an elevation: shifted by the sea level, held within 16 bits. -/
def sampleOf (seaLevel : Nat) (elevation : Int) : UInt16 :=
  (max 0 (min 65535 (Signed64.addSat seaLevel elevation))).toNat.toUInt16

/-- The stored value of grid cell `cell` of a sample block starting at `start`. -/
def storedValue (t : DataType) (bytes : ByteArray) (start cell : Nat) : Int :=
  match t with
  | .flat => 0
  | .u8 => readLE bytes (start + cell) 1
  | .i16 => ofTwosComplement 16 (readLE bytes (start + 2 * cell) 2)

/-- The grid cell under raster sample `(x, y)`: one row and one column in, past the border. -/
def cellOf (x y : Nat) : Nat :=
  (y + 1) * paddedGrid + (x + 1)

/-- A decoded elevation tile: its header and its samples, row by row. -/
structure Raster where
  /-- the header it was decoded from -/
  header : Header
  /-- the samples, row-major -/
  samples : Array UInt16

namespace Raster

/-- The sample at column `x` and row `y`, none outside the raster. -/
def sample (r : Raster) (x y : Nat) : Option UInt16 :=
  if x < tileSize ∧ y < tileSize then r.samples[y * tileSize + x]? else none

/-- The smallest and the largest sample. -/
def range (r : Raster) : UInt16 × UInt16 :=
  r.samples.foldl (fun acc s => (min acc.1 s, max acc.2 s)) (65535, 0)

end Raster

/-- The samples of a tile whose values are stored, given the header's truncated offset. -/
def storedSamples (seaLevel : Nat) (t : DataType) (bytes : ByteArray) (start : Nat)
    (offset : Int) : Array UInt16 :=
  Array.ofFn (n := tileSize * tileSize) fun i =>
    sampleOf seaLevel
      (Signed64.addSat (storedValue t bytes start (cellOf (i.val % tileSize) (i.val / tileSize)))
        offset)

/-- Decodes an elevation payload around a sea level. -/
def decode (seaLevel : Nat) (bytes : ByteArray) : Except DecodeError Raster := do
  let h ← Header.parse bytes
  if h.gridWidth.toInt ≠ paddedGrid ∨ h.gridHeight.toInt ≠ paddedGrid then
    throw (.gridMismatch h.gridWidth.toInt h.gridHeight.toInt paddedGrid)
  if h.headerSize.toInt < 0 then
    throw (.negativeHeaderSize h.headerSize.toInt)
  match DataType.ofCode h.dataType.toInt with
  | none => throw (.unsupportedDataType h.dataType.toInt)
  | some .flat =>
    pure ⟨h, Array.replicate (tileSize * tileSize) (sampleOf seaLevel h.elevMean.truncate)⟩
  | some t =>
    let start := h.headerSize.toInt.toNat
    let needed := start + gridSamples * t.sampleSize
    if bytes.size < needed then throw (.bufferTooShort needed bytes.size)
    pure ⟨h, storedSamples seaLevel t bytes start h.offset.truncate⟩

theorem storedSamples_get (seaLevel : Nat) (t : DataType) (bytes : ByteArray) (start : Nat)
    (offset : Int) {x y : Nat} (hx : x < tileSize) (hy : y < tileSize) :
    (storedSamples seaLevel t bytes start offset)[y * tileSize + x]? =
      some (sampleOf seaLevel (Signed64.addSat (storedValue t bytes start (cellOf x y)) offset)) := by
  have hi : y * tileSize + x < tileSize * tileSize := by
    unfold tileSize at *
    omega
  have hmod : (y * tileSize + x) % tileSize = x := by
    unfold tileSize at *
    omega
  have hdiv : (y * tileSize + x) / tileSize = y := by
    unfold tileSize at *
    omega
  simp [storedSamples, hi, hmod, hdiv]

end PlanetTiles.Elevation
