/-!
# The streaming decoder and the reader it serves

A zlib stream is read through a reader that wants a fixed number of bytes. The decoder
behind it sees its input in buffers of 32 KiB and writes its output through a window of
32 KiB, and it runs only while the reader still wants bytes. It halts at two kinds of
boundary: when it needs the first byte of a new input buffer, and when it is about to
write the first byte of a new window. If at such a boundary the reader already holds
every byte it wants, the reader stops there, and whatever lies further in the stream,
a fault included, is never looked at.

The decoder reads bits least significant first, one at a time, and asks for a byte only
when it needs one of its bits. Running out of input is a boundary too: the reader that
still wants bytes then reports the stream as corrupt.

Main statements:

* `Decoder.emit_size` — writing a byte grows the output by one, unless the decoder
  halts at a window boundary.
* `Decoder.readBit_lt` — a bit is 0 or 1.
-/

namespace PlanetTiles.Deflate

/-- The size of an input buffer and of the output window. -/
def blockBytes : Nat := 32768

/-- Why decoding stopped before the end of the stream. -/
inductive Halt where
  /-- The stream is malformed, or ended while the reader still wanted bytes. -/
  | corrupt
  /-- The decoder reached a boundary with every byte the reader wants already written. -/
  | satisfied
  deriving DecidableEq, Repr

/-- The state of the decoder: the stream, the next bit to read, the output so far, and
how many bytes the reader wants. -/
structure Decoder where
  /-- the compressed stream -/
  input : ByteArray
  /-- index of the next bit, counted from the first bit of the stream -/
  bitPos : Nat
  /-- everything decoded so far -/
  out : ByteArray
  /-- the number of bytes the reader wants -/
  want : Nat

/-- Decoding steps: they change the decoder and may halt. -/
abbrev DecodeM := EStateM Halt Decoder

namespace Decoder

/-- A boundary: halt if the reader already has every byte it wants. -/
def atBoundary (s : Decoder) : Bool :=
  s.want ≤ s.out.size

/-- What asking for the next bit runs into. Asking for the first bit of a byte asks for
that byte: past the end of the stream the decoder halts, and at the start of a new input
buffer it is at a boundary. -/
def bitHalt (s : Decoder) : Option Halt :=
  let i := s.bitPos / 8
  if s.bitPos % 8 ≠ 0 then none
  else if s.input.size ≤ i then some (if s.atBoundary then .satisfied else .corrupt)
  else if 0 < i ∧ i % blockBytes = 0 ∧ s.atBoundary then some .satisfied
  else none

/-- Reads the next bit. -/
def readBit : DecodeM Nat := fun s =>
  match s.bitHalt with
  | some h => .error h s
  | none =>
    let byte := (s.input[s.bitPos / 8]?).getD 0
    .ok ((byte.toNat >>> (s.bitPos % 8)) % 2) { s with bitPos := s.bitPos + 1 }

/-- Reads `n` bits as a number, the first bit being the least significant. -/
def readBits : Nat → DecodeM Nat
  | 0 => pure 0
  | n + 1 => do
    let low ← readBit
    let high ← readBits n
    pure (low + 2 * high)

/-- Skips to the start of the next byte, asking for nothing. -/
def alignByte : DecodeM Unit := fun s =>
  .ok () { s with bitPos := (s.bitPos + 7) / 8 * 8 }

/-- Writes one byte. Writing the first byte of a new window is a boundary. -/
def emit (byte : UInt8) : DecodeM Unit := fun s =>
  if 0 < s.out.size ∧ s.out.size % blockBytes = 0 ∧ s.atBoundary then
    .error .satisfied s
  else
    .ok () { s with out := s.out.push byte }

/-- Writes again the byte `dist` places back. Before the start of the output the window
still holds zeros. -/
def emitBack (dist : Nat) : DecodeM Unit := fun s =>
  let byte := if dist ≤ s.out.size then (s.out[s.out.size - dist]?).getD 0 else 0
  emit byte s

/-- Copies `len` bytes from `dist` places back, one at a time, so that a copy may
overlap the bytes it writes. -/
def copyBack (dist : Nat) : Nat → DecodeM Unit
  | 0 => pure ()
  | len + 1 => do
    emitBack dist
    copyBack dist len

theorem readBit_lt (s : Decoder) (b : Nat) (t : Decoder)
    (h : readBit s = .ok b t) : b < 2 := by
  unfold readBit at h
  split at h
  · cases h
  · cases h
    omega

theorem emit_size (s : Decoder) (byte : UInt8) (t : Decoder)
    (h : emit byte s = .ok () t) : t.out.size = s.out.size + 1 := by
  unfold emit at h
  split at h
  · cases h
  · cases h
    simp

end Decoder

end PlanetTiles.Deflate
