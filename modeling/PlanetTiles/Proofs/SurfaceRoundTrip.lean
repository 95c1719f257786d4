import Mathlib
import PlanetTiles.Proofs.SurfaceChain
import PlanetTiles.Proofs.Bytes

/-!
# Writing a surface and reading it back

`Surface.toBytes` lays out a 128-byte header by hand: the flags, height before width, the
mip count at offset 28, the pixel format's size, flags and code at 76, 80 and 84, with the
mip count flag only when there is more than one level. `Surface.parse` reads the header
back field by field, clamps the declared count to the full chain, rebuilds the chain and
cuts the data to it.

Every surface a caller can hold comes back whole: its size, its format, its levels and its
bytes, also after flips that cut its chain and after changes of format.

* `Surface.read_toBytes` — the header read back from a written file.
* `Surface.parse_toBytes` — a chained surface with 32-bit sides reads back as itself.
* `Surface.parse_toBytes_after_edits` — **a surface built from parts and then edited any
  number of times survives writing and reading**.
-/

namespace PlanetTiles.Dds

open Bytes

namespace Surface

theorem writtenFlags_lt (mipCount : Nat) : writtenFlags mipCount < 2 ^ 32 := by
  unfold writtenFlags
  split <;> decide

theorem writtenPixelFlags_lt (format : PixelFormat) : writtenPixelFlags format < 2 ^ 32 := by
  cases format <;> decide

theorem size_toBytes (s : Surface) : s.toBytes.size = preambleLength + s.data.size := by
  simp [toBytes, length_preamble]

/-- A 4-byte field of the header reads back the value written there. -/
theorem readLE_toBytes (s : Surface) {offset value : Nat} (hoff : offset + 4 ≤ preambleLength)
    (hfield : (s.preamble.drop offset).take 4 = encodeLE 4 value) (hvalue : value < 2 ^ 32) :
    readLE s.toBytes offset 4 = value := by
  rw [toBytes, readLE_append_left _ _ (by rw [length_preamble]; exact hoff), hfield]
  exact decodeLE_encodeLE_of_lt hvalue

/-- The header of a written file, read back: the flags written, the top size, the count of
levels and the pixel format written. -/
theorem read_toBytes (s : Surface) (hw : s.width < 2 ^ 32) (hh : s.height < 2 ^ 32)
    (hn : s.levels.length < 2 ^ 32) :
    Header.read s.toBytes =
      .ok ⟨writtenFlags s.levels.length, s.height, s.width, s.levels.length,
        writtenPixelFlags s.format, dxt1Code⟩ := by
  have hsize : ¬ s.toBytes.size < preambleLength := by
    rw [size_toBytes]
    omega
  have hmagic : (s.toBytes.extract 0 4).toList = magic := by
    rw [ByteArray.toList_extract, toBytes]
    simp [preamble, magic]
  have hcode : (s.toBytes.extract 84 88).toList = dxt1Code := by
    rw [ByteArray.toList_extract, toBytes]
    simp [preamble, magic, dxt1Code]
  -- each field sits at its offset in the preamble
  have hheader : readLE s.toBytes 4 4 = headerSize :=
    readLE_toBytes s (by decide) (by simp [preamble, magic]) (by decide)
  have hpixel : readLE s.toBytes 76 4 = pixelFormatSize :=
    readLE_toBytes s (by decide) (by simp [preamble, magic]) (by decide)
  have hflags : readLE s.toBytes 8 4 = writtenFlags s.levels.length :=
    readLE_toBytes s (by decide) (by simp [preamble, magic]) (writtenFlags_lt _)
  have hheight : readLE s.toBytes 12 4 = s.height :=
    readLE_toBytes s (by decide) (by simp [preamble, magic]) hh
  have hwidth : readLE s.toBytes 16 4 = s.width :=
    readLE_toBytes s (by decide) (by simp [preamble, magic]) hw
  have hcount : readLE s.toBytes 28 4 = s.levels.length :=
    readLE_toBytes s (by decide) (by simp [preamble, magic]) hn
  have hpixelFlags : readLE s.toBytes 80 4 = writtenPixelFlags s.format :=
    readLE_toBytes s (by decide) (by simp [preamble, magic]) (writtenPixelFlags_lt _)
  simp only [Header.read, hsize, hmagic, hheader, hpixel, hflags, hheight, hwidth, hcount,
    hpixelFlags, hcode, if_false, ne_eq, not_true_eq_false]

theorem pixelFormat_written (flags height width mipmapCount : Nat) (format : PixelFormat) :
    Header.pixelFormat
        ⟨flags, height, width, mipmapCount, writtenPixelFlags format, dxt1Code⟩ = .ok format := by
  cases format <;>
    simp [Header.pixelFormat, writtenPixelFlags, hasFlag, pixelFourCc, pixelAlpha,
      PixelFormat.hasAlpha]

/-- The written flags declare the count exactly when there is more than one level, and the
count is read back either way. -/
theorem mipCount_written {height width n : Nat} (pixelFlags : Nat) (fourcc : List UInt8)
    (hpos : 0 < n) (hn : n ≤ fullChainLength width height) :
    Header.mipCount ⟨writtenFlags n, height, width, n, pixelFlags, fourcc⟩ = n := by
  by_cases hmany : 1 < n
  · have hflag : hasFlag (writtenFlags n) flagMipmapCount = true := by
      simp [writtenFlags, hmany, hasFlag, flagMipmapCount, flagCaps, flagHeight, flagWidth,
        flagPixelFormat, flagLinearSize]
    simp only [Header.mipCount, hflag, if_true, clampCount]
    omega
  · have hflag : hasFlag (writtenFlags n) flagMipmapCount = false := by
      simp [writtenFlags, hmany, hasFlag, flagMipmapCount, flagCaps, flagHeight, flagWidth,
        flagPixelFormat, flagLinearSize]
    simp [Header.mipCount, hflag]
    omega

/-- A chained surface is rebuilt from its own parts. -/
theorem ofParts_of_chained {s : Surface} (hs : s.Chained) :
    ofParts s.width s.height s.format s.levels.length s.data = .ok s := by
  have hclamp : clampCount s.width s.height s.levels.length = s.levels.length := by
    have := hs.length_le
    have := hs.length_pos
    simp only [clampCount]
    omega
  have hlevels : mipChain s.width s.height s.levels.length = s.levels := by
    rw [mipChain, hclamp, ← hs.levels_eq]
  have hdim : ¬ (s.width = 0 ∨ s.height = 0) := by
    have := hs.width_pos
    have := hs.height_pos
    omega
  simp only [ofParts, hdim, hlevels, ← hs.size_eq, Nat.lt_irrefl, if_false,
    ByteArray.extract_zero_size]

/-- A chained surface whose sides fit in 32 bits reads back as itself. -/
theorem parse_toBytes {s : Surface} (hs : s.Chained) (hw : s.width < 2 ^ 32)
    (hh : s.height < 2 ^ 32) : parse s.toBytes = .ok s := by
  have hfull : fullChainLength s.width s.height ≤ 32 := by
    have hpos : max 1 (max s.width s.height) ≠ 0 := by omega
    have hlog := (Nat.log2_lt hpos).mpr (show max 1 (max s.width s.height) < 2 ^ 32 by omega)
    simp only [fullChainLength]
    omega
  have hn : s.levels.length < 2 ^ 32 := by
    have := hs.length_le
    omega
  -- the bytes after the header are the surface's data
  have hdata : s.toBytes.extract preambleLength s.toBytes.size = s.data := by
    rw [toBytes]
    exact ByteArray.extract_append_eq_right (by simp [length_preamble]) (by simp)
  have hcount := mipCount_written (writtenPixelFlags s.format) dxt1Code hs.length_pos hs.length_le
  simp only [parse, read_toBytes s hw hh hn, pixelFormat_written, bind, Except.bind, hcount, hdata]
  exact ofParts_of_chained hs

theorem size_of_ofParts {width height : Nat} {format : PixelFormat} {mipCount : Nat}
    {data : ByteArray} {s : Surface} (h : ofParts width height format mipCount data = .ok s) :
    s.width = width ∧ s.height = height := by
  dsimp only [ofParts] at h
  split at h
  · cases h
  · split at h
    · cases h
    · cases h
      exact ⟨rfl, rfl⟩

/-- **A surface built from parts and then flipped or given another format any number of
times reads back from its file as itself**, whether a flip cut its chain or failed. -/
theorem parse_toBytes_after_edits {width height : Nat} {format : PixelFormat} {mipCount : Nat}
    {data : ByteArray} {s : Surface} (hw : width < 2 ^ 32) (hh : height < 2 ^ 32)
    (hs : ofParts width height format mipCount data = .ok s) (edits : List Edit) :
    parse (edits.foldl Surface.edit s).toBytes = .ok (edits.foldl Surface.edit s) := by
  obtain ⟨hsw, hsh⟩ := size_of_ofParts hs
  obtain ⟨hew, heh⟩ := foldl_edit_size s edits
  refine parse_toBytes ((chained_ofParts hs).foldl_edit edits) ?_ ?_
  · rw [hew, hsw]
    exact hw
  · rw [heh, hsh]
    exact hh

/-- Three levels of blocks for a 4 by 4 surface. -/
def sampleBlocks : ByteArray :=
  ⟨#[0x00, 0xF8, 0xE0, 0x07, 0x1B, 0xE4, 0x00, 0xFF,
     0xE0, 0x07, 0x00, 0xF8, 0x55, 0xAA, 0x55, 0xAA,
     0x1F, 0x00, 0x1F, 0x00, 0x00, 0x01, 0x02, 0x03]⟩

/-- The surface built from them, with its whole chain. -/
def sampleSurface : Surface :=
  ⟨4, 4, .dxt1Rgb, [⟨4, 4, 0, 8⟩, ⟨2, 2, 8, 8⟩, ⟨1, 1, 16, 8⟩], sampleBlocks⟩

theorem parse_toBytes_after_edits_sample :
    ofParts 4 4 .dxt1Rgb 3 sampleBlocks = .ok sampleSurface ∧
      parse ([Edit.flip, .setFormat .dxt1Rgba, .flip].foldl Surface.edit sampleSurface).toBytes =
        .ok ([Edit.flip, .setFormat .dxt1Rgba, .flip].foldl Surface.edit sampleSurface) := by
  have hs : ofParts 4 4 .dxt1Rgb 3 sampleBlocks = .ok sampleSurface := by
    rfl
  exact ⟨hs, parse_toBytes_after_edits (by decide) (by decide) hs _⟩

end Surface

end PlanetTiles.Dds
