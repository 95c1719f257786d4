import PlanetTiles.Deflate.Adler
import PlanetTiles.Deflate.PrefixCode
import PlanetTiles.Deflate.Decoder

/-!
# Inflating a zlib stream

A zlib stream is a two-byte header, a sequence of deflate blocks, and the Adler-32
checksum of the inflated bytes, most significant byte first. A block is stored (copied
as it is), or coded with the fixed prefix codes, or coded with codes described at its
start. Coded blocks are literals, back references of a length and a distance, and an
end-of-block symbol.

The decoder is strict where the format leaves room. The header must name deflate with a
window of at most 32 KiB, have its check bits right, and use no preset dictionary. A
block describing its codes may name at most 286 literal and length codes and 30 distance
codes; the code of the code lengths must be complete; the literal and distance codes must
be complete unless they use no symbol or a single symbol with a one-bit word. Literal
symbols 286 and 287, distance symbols 30 and 31, and bit strings that start no code word
are faults.

`inflatePrefix stream want` is what a reader that asks for `want` bytes receives: the
first `want` bytes of the inflated stream, or fewer if the stream ends cleanly before,
or nothing when the decoder meets a fault before that reader is satisfied (see
`PlanetTiles.Deflate.Decoder` for when that is).

Main statements:

* `inflatePrefix_size_le` — the reader never receives more bytes than it asked for.
-/

namespace PlanetTiles.Deflate

open Decoder

/-- Base lengths of the length symbols 257 to 285. -/
def lengthBase : Array Nat :=
  #[3, 4, 5, 6, 7, 8, 9, 10, 11, 13, 15, 17, 19, 23, 27, 31, 35, 43, 51, 59, 67, 83, 99,
    115, 131, 163, 195, 227, 258]

/-- Extra bits of the length symbols 257 to 285. -/
def lengthExtra : Array Nat :=
  #[0, 0, 0, 0, 0, 0, 0, 0, 1, 1, 1, 1, 2, 2, 2, 2, 3, 3, 3, 3, 4, 4, 4, 4, 5, 5, 5, 5, 0]

/-- Base distances of the distance symbols 0 to 29. -/
def distanceBase : Array Nat :=
  #[1, 2, 3, 4, 5, 7, 9, 13, 17, 25, 33, 49, 65, 97, 129, 193, 257, 385, 513, 769, 1025,
    1537, 2049, 3073, 4097, 6145, 8193, 12289, 16385, 24577]

/-- Extra bits of the distance symbols 0 to 29. -/
def distanceExtra : Array Nat :=
  #[0, 0, 0, 0, 1, 1, 2, 2, 3, 3, 4, 4, 5, 5, 6, 6, 7, 7, 8, 8, 9, 9, 10, 10, 11, 11, 12,
    12, 13, 13]

/-- The order in which a block lists the lengths of the code-length code. -/
def codeLengthOrder : List Nat :=
  [16, 17, 18, 0, 8, 7, 9, 6, 10, 5, 11, 4, 12, 3, 13, 2, 14, 1, 15]

/-- The fixed literal and length code. -/
def fixedLiteralCode : PrefixCode :=
  PrefixCode.ofLengths ((List.range 288).map fun i =>
    if i < 144 then 8 else if i < 256 then 9 else if i < 280 then 7 else 8)

/-- The fixed distance code. -/
def fixedDistanceCode : PrefixCode :=
  PrefixCode.ofLengths (List.replicate 32 5)

/-- Reads one symbol of a code, one bit at a time: after `len` bits the bits read are a
word of that length exactly when they lie among the `count` words of that length that
follow the first one. When they are no word and no longer word is left, no further bit
can make them one, and the fault is seen at once. `left` bounds the lengths still to try. -/
def decodeSymbolFrom (code : PrefixCode) : (left len word first index : Nat) → DecodeM Nat
  | 0, _, _, _, _ => throw .corrupt
  | left + 1, len, word, first, index => do
    let word := word + (← readBit)
    let count := code.counts.getD len 0
    if word < first + count then
      pure (code.symbols.getD (index + (word - first)) 0)
    else if code.symbols.size ≤ index + count then
      throw .corrupt
    else
      decodeSymbolFrom code left (len + 1) (2 * word) (2 * (first + count)) (index + count)

/-- Reads one symbol of a code. -/
def decodeSymbol (code : PrefixCode) : DecodeM Nat :=
  decodeSymbolFrom code maxCodeLength 1 0 0 0

/-- Decodes the symbols of a coded block up to its end-of-block symbol. `fuel` bounds
the symbols; each takes at least one bit of the stream. -/
def inflateCodes (literals distances : PrefixCode) : (fuel : Nat) → DecodeM Unit
  | 0 => throw .corrupt
  | fuel + 1 => do
    let sym ← decodeSymbol literals
    if sym < 256 then
      emit sym.toUInt8
      inflateCodes literals distances fuel
    else if sym = 256 then
      pure ()
    else if 285 < sym then
      throw .corrupt
    else
      let len := lengthBase.getD (sym - 257) 0 + (← readBits (lengthExtra.getD (sym - 257) 0))
      let dsym ← decodeSymbol distances
      if 29 < dsym then
        throw .corrupt
      let dist := distanceBase.getD dsym 0 + (← readBits (distanceExtra.getD dsym 0))
      copyBack dist len
      inflateCodes literals distances fuel

/-- Copies the `len` bytes of a stored block. -/
def copyStored : (len : Nat) → DecodeM Unit
  | 0 => pure ()
  | len + 1 => do
    let byte ← readBits 8
    emit byte.toUInt8
    copyStored len

/-- A stored block: from the next byte on, its length, the length's complement, and the
bytes themselves. -/
def inflateStored : DecodeM Unit := do
  alignByte
  let len ← readBits 16
  let complement ← readBits 16
  if len + complement ≠ 65535 then
    throw .corrupt
  copyStored len

/-- Reads the code lengths of the literal and distance codes, `total` of them, with their
run-length symbols: 16 repeats the previous length, 17 and 18 repeat zero. A run may not
start the list, and may not end past `total`. -/
def readCodeLengths (code : PrefixCode) (total : Nat) :
    (fuel : Nat) → (lengths : Array Nat) → DecodeM (Array Nat)
  | 0, lengths => pure lengths
  | fuel + 1, lengths => do
    if total ≤ lengths.size then
      return lengths
    let sym ← decodeSymbol code
    if sym < 16 then
      readCodeLengths code total fuel (lengths.push sym)
    else if sym = 16 then
      match lengths.back? with
      | none => throw .corrupt
      | some prev =>
        let run := 3 + (← readBits 2)
        readCodeLengths code total fuel (lengths ++ Array.replicate run prev)
    else if sym = 17 then
      let run := 3 + (← readBits 3)
      readCodeLengths code total fuel (lengths ++ Array.replicate run 0)
    else
      let run := 11 + (← readBits 7)
      readCodeLengths code total fuel (lengths ++ Array.replicate run 0)

/-- Reads the lengths of the code-length code, three bits each, in their listed order. -/
def readCodeLengthLengths : (order : List Nat) → (lengths : Array Nat) → DecodeM (Array Nat)
  | [], lengths => pure lengths
  | sym :: rest, lengths => do
    let len ← readBits 3
    readCodeLengthLengths rest (lengths.setIfInBounds sym len)

/-- The codes a block describes at its start. -/
def readDynamicCodes : DecodeM (PrefixCode × PrefixCode) := do
  let literalCount := 257 + (← readBits 5)
  let distanceCount := 1 + (← readBits 5)
  let codeLengthCount := 4 + (← readBits 4)
  if 286 < literalCount ∨ 30 < distanceCount then
    throw .corrupt
  let codeLengthLengths ←
    readCodeLengthLengths (codeLengthOrder.take codeLengthCount) (Array.replicate 19 0)
  let codeLengthCode := PrefixCode.ofLengths codeLengthLengths.toList
  if !codeLengthCode.isComplete then
    throw .corrupt
  let total := literalCount + distanceCount
  let lengths ← readCodeLengths codeLengthCode total total #[]
  if lengths.size ≠ total then
    throw .corrupt
  let distances := PrefixCode.ofLengths (lengths.toList.drop literalCount)
  let literals := PrefixCode.ofLengths (lengths.toList.take literalCount)
  if !distances.isUsable || !literals.isUsable then
    throw .corrupt
  pure (literals, distances)

/-- Decodes blocks until the one marked final. -/
def inflateBlocks (symbolFuel : Nat) : (fuel : Nat) → DecodeM Unit
  | 0 => throw .corrupt
  | fuel + 1 => do
    let final ← readBits 1
    let kind ← readBits 2
    if kind = 0 then
      inflateStored
    else if kind = 1 then
      inflateCodes fixedLiteralCode fixedDistanceCode symbolFuel
    else if kind = 2 then
      let (literals, distances) ← readDynamicCodes
      inflateCodes literals distances symbolFuel
    else
      throw .corrupt
    if final = 0 then
      inflateBlocks symbolFuel fuel

/-- The zlib header is acceptable: deflate, a window of at most 32 KiB, no preset
dictionary, and a header that is a multiple of 31. -/
def headerOk (cmf flg : Nat) : Bool :=
  (cmf * 256 + flg) % 31 = 0 && flg &&& 32 = 0 && cmf % 16 = 8 && cmf / 16 ≤ 7

/-- The whole zlib stream: header, blocks, checksum. `fuel` bounds every loop; a loop
turn reads at least one bit, so the number of bits of the stream is enough. -/
def inflateStream (fuel : Nat) : DecodeM Unit := do
  let cmf ← readBits 8
  let flg ← readBits 8
  if !headerOk cmf flg then
    throw .corrupt
  inflateBlocks fuel fuel
  alignByte
  let b3 ← readBits 8
  let b2 ← readBits 8
  let b1 ← readBits 8
  let b0 ← readBits 8
  let s ← get
  if adler32 s.out ≠ ((b3 * 256 + b2) * 256 + b1) * 256 + b0 then
    throw .corrupt

/-- What a reader that asks for `want` bytes of a zlib stream receives: the first `want`
bytes of its inflation, or all of it when it is shorter, or `none` when the decoder meets
a fault before the reader is satisfied. -/
def inflatePrefix (stream : ByteArray) (want : Nat) : Option ByteArray :=
  let start : Decoder := { input := stream, bitPos := 0, out := .empty, want := want }
  match (inflateStream (8 * stream.size + 8)).run start with
  | .ok _ s => some (s.out.extract 0 want)
  | .error .satisfied s => some (s.out.extract 0 want)
  | .error .corrupt _ => none

theorem inflatePrefix_size_le (stream : ByteArray) (want : Nat) (out : ByteArray)
    (h : inflatePrefix stream want = some out) : out.size ≤ want := by
  dsimp only [inflatePrefix] at h
  split at h
  · cases h
    rw [ByteArray.size_extract]
    omega
  · cases h
    rw [ByteArray.size_extract]
    omega
  · cases h

end PlanetTiles.Deflate
