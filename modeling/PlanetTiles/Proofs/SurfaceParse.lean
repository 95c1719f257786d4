import Mathlib
import PlanetTiles.Dds.Surface
import PlanetTiles.Proofs.Bytes

/-!
# Reading a DDS file

Reading a file makes its checks in this order and fails with the first that does not hold:
the 128 bytes of the magic and the header are there, checked before the magic itself; the
magic; the header size 124; the pixel format size 32; a pixel format marked as a
four-character code whose code is DXT1; two sides that are not zero; and, after the header, the
bytes of the whole mip chain the header declares. The declared count of levels counts only when
its header flag is set, and is then held between 1 and the full chain.

A file that passes every check reads as the surface its header declares: its size, its chain,
DXT1 with alpha exactly when the alpha flag is set, and the bytes of the chain right after the
header, with anything after them dropped.

* `hasFlag_two_pow` — a flag test on a power of two reads one bit of the word.
* `Surface.parse_of_dxt1` — a file whose header reads and names DXT1 is built from the parts
  its header declares.
* `Surface.parse_checks_in_order` — **reading a file checks in order**: each check that fails
  gives its own error once every check before it passed, and a file that passes them all reads
  as the surface its header declares.
-/

namespace PlanetTiles.Dds

open Bytes

/-! ## Flags -/

/-- A flag that is a power of two is set exactly when its bit is. -/
theorem hasFlag_two_pow (word k : Nat) : hasFlag word (2 ^ k) = word.testBit k := by
  unfold hasFlag
  rw [Nat.and_two_pow]
  cases word.testBit k <;> simp

/-! ## Reading the header, check by check

Each lemma takes the checks before its own as passed. -/

/-- The file holds the magic and the header, and the header and its pixel format declare their
own sizes: the checks of reading the header. -/
structure HeaderRead (bytes : ByteArray) : Prop where
  /-- the file holds the magic and the header -/
  holds_preamble : 128 ≤ bytes.size
  /-- it starts with the magic -/
  magic_eq : (bytes.extract 0 4).toList = magic
  /-- the header declares its own size -/
  headerSize_eq : readLE bytes 4 4 = 124
  /-- and so does its pixel format -/
  pixelFormatSize_eq : readLE bytes 76 4 = 32

variable {bytes : ByteArray}

theorem Header.read_of_size_lt (h : bytes.size < 128) :
    Header.read bytes = .error (.truncated 128 bytes.size) := by
  simp [Header.read, preambleLength, h]

theorem Header.read_of_magic_ne (hsize : 128 ≤ bytes.size)
    (h : (bytes.extract 0 4).toList ≠ magic) :
    Header.read bytes = .error (.badMagic (bytes.extract 0 4).toList) := by
  simp [Header.read, preambleLength, Nat.not_lt.mpr hsize, h]

theorem Header.read_of_headerSize_ne (hsize : 128 ≤ bytes.size)
    (hmagic : (bytes.extract 0 4).toList = magic) (h : readLE bytes 4 4 ≠ 124) :
    Header.read bytes = .error (.invalidHeaderSize .header (readLE bytes 4 4)) := by
  simp [Header.read, preambleLength, headerSize, Nat.not_lt.mpr hsize, hmagic, h]

theorem Header.read_of_pixelFormatSize_ne (hsize : 128 ≤ bytes.size)
    (hmagic : (bytes.extract 0 4).toList = magic) (hheader : readLE bytes 4 4 = 124)
    (h : readLE bytes 76 4 ≠ 32) :
    Header.read bytes = .error (.invalidHeaderSize .pixelFormat (readLE bytes 76 4)) := by
  simp [Header.read, preambleLength, headerSize, pixelFormatSize, Nat.not_lt.mpr hsize, hmagic,
    hheader, h]

theorem Header.read_of_headerRead (hr : HeaderRead bytes) :
    Header.read bytes = .ok ⟨readLE bytes 8 4, readLE bytes 12 4, readLE bytes 16 4,
      readLE bytes 28 4, readLE bytes 80 4, (bytes.extract 84 88).toList⟩ := by
  simp [Header.read, preambleLength, headerSize, pixelFormatSize,
    Nat.not_lt.mpr hr.holds_preamble, hr.magic_eq, hr.headerSize_eq, hr.pixelFormatSize_eq]

theorem Header.pixelFormat_of_not_dxt1 {h : Header}
    (hcode : h.pixelFlags.testBit 2 = false ∨ h.fourcc ≠ dxt1Code) :
    h.pixelFormat = .error (.unsupportedFourCc h.fourcc) := by
  have hfour : hasFlag h.pixelFlags pixelFourCc = h.pixelFlags.testBit 2 :=
    hasFlag_two_pow h.pixelFlags 2
  unfold Header.pixelFormat
  rw [if_pos (by rcases hcode with hbit | hne <;> simp_all)]

theorem Header.pixelFormat_of_dxt1 {h : Header} (hbit : h.pixelFlags.testBit 2 = true)
    (hcode : h.fourcc = dxt1Code) :
    h.pixelFormat = .ok (if h.pixelFlags.testBit 0 then .dxt1Rgba else .dxt1Rgb) := by
  have hfour : hasFlag h.pixelFlags pixelFourCc = h.pixelFlags.testBit 2 :=
    hasFlag_two_pow h.pixelFlags 2
  have halpha : hasFlag h.pixelFlags pixelAlpha = h.pixelFlags.testBit 0 :=
    hasFlag_two_pow h.pixelFlags 0
  unfold Header.pixelFormat
  rw [if_neg (by simp_all), halpha]
  split <;> rfl

theorem Header.mipCount_eq (h : Header) :
    h.mipCount = if h.flags.testBit 17 then max 1 (min h.mipmapCount (fullChainLength h.width h.height)) else 1 := by
  have hflag : hasFlag h.flags flagMipmapCount = h.flags.testBit 17 := hasFlag_two_pow h.flags 17
  unfold Header.mipCount
  rw [hflag, clampCount]

/-! ## Building from parts -/

namespace Surface

variable {width height : Nat} {format : PixelFormat} {mipCount : Nat} {data : ByteArray}

theorem ofParts_of_zero (h : width = 0 ∨ height = 0) :
    ofParts width height format mipCount data = .error (.invalidDimensions width height) := by
  simp only [ofParts, if_pos h]

theorem ofParts_of_size_lt (hw : width ≠ 0) (hh : height ≠ 0)
    (h : data.size < chainLength (mipChain width height mipCount)) :
    ofParts width height format mipCount data =
      .error (.truncated (chainLength (mipChain width height mipCount)) data.size) := by
  simp only [ofParts, hw, hh, or_self, if_false, if_pos h]

theorem ofParts_of_le (hw : width ≠ 0) (hh : height ≠ 0)
    (h : chainLength (mipChain width height mipCount) ≤ data.size) :
    ofParts width height format mipCount data = .ok ⟨width, height, format,
      mipChain width height mipCount, data.extract 0 (chainLength (mipChain width height mipCount))⟩ := by
  simp only [ofParts, hw, hh, or_self, if_false, if_neg (Nat.not_lt.mpr h)]

/-! ## Reading a file, check by check -/

theorem parse_of_read_error {e : SurfaceError} (h : Header.read bytes = .error e) :
    parse bytes = .error e := by
  simp [parse, h, bind, Except.bind]

theorem parse_of_not_dxt1 (hr : HeaderRead bytes)
    (hcode : (readLE bytes 80 4).testBit 2 = false ∨ (bytes.extract 84 88).toList ≠ dxt1Code) :
    parse bytes = .error (.unsupportedFourCc (bytes.extract 84 88).toList) := by
  have hformat : Header.pixelFormat ⟨readLE bytes 8 4, readLE bytes 12 4, readLE bytes 16 4,
      readLE bytes 28 4, readLE bytes 80 4, (bytes.extract 84 88).toList⟩ =
      .error (.unsupportedFourCc (bytes.extract 84 88).toList) :=
    Header.pixelFormat_of_not_dxt1 hcode
  simp only [parse, Header.read_of_headerRead hr, bind, Except.bind, hformat]

/-- A file whose header reads and names DXT1 is built from the parts its header declares and
the bytes after the header. -/
theorem parse_of_dxt1 (hr : HeaderRead bytes) (hbit : (readLE bytes 80 4).testBit 2 = true)
    (hcode : (bytes.extract 84 88).toList = dxt1Code) :
    parse bytes = ofParts (readLE bytes 16 4) (readLE bytes 12 4)
      (if (readLE bytes 80 4).testBit 0 then .dxt1Rgba else .dxt1Rgb)
      (if (readLE bytes 8 4).testBit 17 then
        max 1 (min (readLE bytes 28 4) (fullChainLength (readLE bytes 16 4) (readLE bytes 12 4)))
      else 1)
      (bytes.extract 128 bytes.size) := by
  have hformat : Header.pixelFormat ⟨readLE bytes 8 4, readLE bytes 12 4, readLE bytes 16 4,
      readLE bytes 28 4, readLE bytes 80 4, (bytes.extract 84 88).toList⟩ =
      .ok (if (readLE bytes 80 4).testBit 0 then .dxt1Rgba else .dxt1Rgb) :=
    Header.pixelFormat_of_dxt1 hbit hcode
  simp only [parse, Header.read_of_headerRead hr, bind, Except.bind, hformat, Header.mipCount_eq,
    preambleLength]

theorem size_extract_preamble (bytes : ByteArray) :
    (bytes.extract 128 bytes.size).size = bytes.size - 128 := by
  simp [ByteArray.size_extract]

/-- The first `n` bytes after the header, when the file has them. -/
theorem extract_extract_preamble {bytes : ByteArray} {n : Nat} (hsize : 128 ≤ bytes.size)
    (h : n ≤ bytes.size - 128) :
    (bytes.extract 128 bytes.size).extract 0 n = bytes.extract 128 (128 + n) := by
  rw [ByteArray.extract_extract, Nat.add_zero, Nat.min_eq_left (by omega)]

/-! ## Reading a file, check by check, in order -/

/-- What reading `bytes` as a DDS file answers: the error of the first check that fails, with
the values it names, or the surface the header declares, over the bytes right after it. -/
structure ParseAnswer (bytes : ByteArray) : Prop where
  /-- a file shorter than the magic and the header is cut short, whatever it starts with -/
  short : bytes.size < 128 → parse bytes = .error (.truncated 128 bytes.size)
  /-- then the magic, and the four bytes found instead are named -/
  bad_magic : 128 ≤ bytes.size → (bytes.extract 0 4).toList ≠ magic →
    parse bytes = .error (.badMagic (bytes.extract 0 4).toList)
  /-- then the size the header declares -/
  bad_header_size : 128 ≤ bytes.size → (bytes.extract 0 4).toList = magic →
    readLE bytes 4 4 ≠ 124 → parse bytes = .error (.invalidHeaderSize .header (readLE bytes 4 4))
  /-- then the size its pixel format declares -/
  bad_pixel_format_size : 128 ≤ bytes.size → (bytes.extract 0 4).toList = magic →
    readLE bytes 4 4 = 124 → readLE bytes 76 4 ≠ 32 →
    parse bytes = .error (.invalidHeaderSize .pixelFormat (readLE bytes 76 4))
  /-- then that the pixel format flags mark a four-character code, and that the code is DXT1 -/
  unsupported_fourcc : HeaderRead bytes →
    ((readLE bytes 80 4).testBit 2 = false ∨ (bytes.extract 84 88).toList ≠ dxt1Code) →
    parse bytes = .error (.unsupportedFourCc (bytes.extract 84 88).toList)
  /-- then that neither side is zero, both named, width first -/
  invalid_dimensions : HeaderRead bytes → (readLE bytes 80 4).testBit 2 = true →
    (bytes.extract 84 88).toList = dxt1Code → (readLE bytes 16 4 = 0 ∨ readLE bytes 12 4 = 0) →
    parse bytes = .error (.invalidDimensions (readLE bytes 16 4) (readLE bytes 12 4))
  /-- and last that the bytes after the header hold the chain of the declared count, held
  between 1 and the full chain when its flag is set, and 1 when it is not -/
  truncated : HeaderRead bytes → (readLE bytes 80 4).testBit 2 = true →
    (bytes.extract 84 88).toList = dxt1Code → readLE bytes 16 4 ≠ 0 → readLE bytes 12 4 ≠ 0 →
    bytes.size - 128 < chainLength (mipChain (readLE bytes 16 4) (readLE bytes 12 4)
      (if (readLE bytes 8 4).testBit 17 then
        max 1 (min (readLE bytes 28 4) (fullChainLength (readLE bytes 16 4) (readLE bytes 12 4)))
      else 1)) →
    parse bytes = .error (.truncated (chainLength (mipChain (readLE bytes 16 4) (readLE bytes 12 4)
      (if (readLE bytes 8 4).testBit 17 then
        max 1 (min (readLE bytes 28 4) (fullChainLength (readLE bytes 16 4) (readLE bytes 12 4)))
      else 1))) (bytes.size - 128))
  /-- a file that passes every check reads as the declared size and chain, with alpha exactly
  when its flag is set, over the bytes of the chain right after the header; any bytes after
  those are dropped -/
  parsed : HeaderRead bytes → (readLE bytes 80 4).testBit 2 = true →
    (bytes.extract 84 88).toList = dxt1Code → readLE bytes 16 4 ≠ 0 → readLE bytes 12 4 ≠ 0 →
    chainLength (mipChain (readLE bytes 16 4) (readLE bytes 12 4)
      (if (readLE bytes 8 4).testBit 17 then
        max 1 (min (readLE bytes 28 4) (fullChainLength (readLE bytes 16 4) (readLE bytes 12 4)))
      else 1)) ≤ bytes.size - 128 →
    ∃ s, parse bytes = .ok s ∧ s.width = readLE bytes 16 4 ∧ s.height = readLE bytes 12 4 ∧
      s.format = (if (readLE bytes 80 4).testBit 0 then .dxt1Rgba else .dxt1Rgb) ∧
      s.levels = mipChain (readLE bytes 16 4) (readLE bytes 12 4)
        (if (readLE bytes 8 4).testBit 17 then
          max 1 (min (readLE bytes 28 4) (fullChainLength (readLE bytes 16 4) (readLE bytes 12 4)))
        else 1) ∧
      s.data = bytes.extract 128 (128 + chainLength (mipChain (readLE bytes 16 4)
        (readLE bytes 12 4) (if (readLE bytes 8 4).testBit 17 then
          max 1 (min (readLE bytes 28 4) (fullChainLength (readLE bytes 16 4) (readLE bytes 12 4)))
        else 1)))

/-- **Reading a file checks in order.** For every byte string, reading it as a DDS file fails
with the error of the first check that fails: 128 bytes are there (before the magic is looked
at), the magic, the header size 124, the pixel format size 32, a four-character code that is
DXT1, two sides that are not zero, and the bytes of the declared mip chain after the header,
all of them. A file that passes them all reads as the surface its header declares, over
exactly the bytes of its chain. -/
theorem parse_checks_in_order (bytes : ByteArray) : ParseAnswer bytes where
  short := fun h => parse_of_read_error (Header.read_of_size_lt h)
  bad_magic := fun hsize h => parse_of_read_error (Header.read_of_magic_ne hsize h)
  bad_header_size := fun hsize hmagic h =>
    parse_of_read_error (Header.read_of_headerSize_ne hsize hmagic h)
  bad_pixel_format_size := fun hsize hmagic hheader h =>
    parse_of_read_error (Header.read_of_pixelFormatSize_ne hsize hmagic hheader h)
  unsupported_fourcc := parse_of_not_dxt1
  invalid_dimensions := fun hr hbit hcode hzero => by
    rw [parse_of_dxt1 hr hbit hcode, ofParts_of_zero hzero]
  truncated := fun hr hbit hcode hw hh hlt => by
    rw [parse_of_dxt1 hr hbit hcode,
      ofParts_of_size_lt hw hh (by rw [size_extract_preamble]; exact hlt), size_extract_preamble]
  parsed := fun hr hbit hcode hw hh hle => by
    rw [parse_of_dxt1 hr hbit hcode,
      ofParts_of_le hw hh (by rw [size_extract_preamble]; exact hle)]
    -- the chain's bytes are the bytes right after the header
    exact ⟨_, rfl, rfl, rfl, rfl, rfl, extract_extract_preamble hr.holds_preamble hle⟩

end Surface

end PlanetTiles.Dds
