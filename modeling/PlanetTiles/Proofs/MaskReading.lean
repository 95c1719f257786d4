import PlanetTiles.Image.Raster
import PlanetTiles.Proofs.SurfaceFlip

/-!
# Land masks are surfaces read with alpha

A land-mask tile is decoded exactly as a surface tile is: the same surface is read, flipped
and kept, and only its pixel format is then forced to DXT1 with alpha. Alpha changes one
palette entry of a BC1 block and nothing else: the fourth entry of a three-colour block (its
first endpoint word not above the second), which is black and opaque without alpha and
transparent black with it.

* `Bc1.decodeTexel_alpha_true` — a texel read with alpha is the texel read either way, except
  on that entry, where it is transparent black.
* `Dds.Surface.rgbaPixel_decodeRgba` — pixel `(x, y)` of the expanded image is the colour of
  texel `(x, y)`.
* `Dds.Surface.alpha_decodeRgba` — without alpha every expanded pixel is opaque.
* `Image.decode_landMask` — the mask decoder is the surface decoder followed by the change of
  format.
* `Image.landMask_reads_with_alpha` — **a land mask is its surface read with alpha**: both
  decoders fail alike, and where they succeed they hold the same blocks and expand to the same
  image except on the fourth entry of three-colour blocks.
-/

namespace PlanetTiles

/-! ## One BC1 texel with and without alpha -/

namespace Bc1

/-- The first endpoint word of a block, little-endian. -/
def endpoint0 (block : List UInt8) : Nat :=
  byteAt block 0 + 256 * byteAt block 1

/-- The second endpoint word of a block, little-endian. -/
def endpoint1 (block : List UInt8) : Nat :=
  byteAt block 2 + 256 * byteAt block 3

/-- Texel `(x, y)` of a block takes the fourth entry of a three-colour palette, the one entry
that alpha makes transparent. -/
def punchThrough (block : List UInt8) (x y : Nat) : Bool :=
  decide (endpoint0 block ≤ endpoint1 block) && indexAt block x y == 3

theorem indexAt_lt (block : List UInt8) (x y : Nat) : indexAt block x y < 4 :=
  Nat.mod_lt _ (by decide)

/-- The fourth entry of a three-colour palette is black, transparent exactly with alpha. -/
theorem paletteEntry_three {c0 c1 : Nat} (h : c0 ≤ c1) (hasAlpha : Bool) :
    paletteEntry c0 c1 3 hasAlpha = ⟨0, 0, 0, if hasAlpha then 0 else 255⟩ := by
  have hc : ¬ c1 < c0 := Nat.not_lt.mpr h
  cases hasAlpha <;> simp [paletteEntry, hc, colour]

/-- Read with alpha, a palette entry is the entry read either way, except the fourth entry of a
three-colour palette, which is transparent black. -/
theorem paletteEntry_true (c0 c1 : Nat) {index : Nat} (h : index < 4) (hasAlpha : Bool) :
    paletteEntry c0 c1 index true =
      if c0 ≤ c1 ∧ index = 3 then ⟨0, 0, 0, 0⟩ else paletteEntry c0 c1 index hasAlpha := by
  by_cases hp : c0 ≤ c1 ∧ index = 3
  · obtain ⟨hc, rfl⟩ := hp
    rw [if_pos ⟨hc, rfl⟩, paletteEntry_three hc, if_pos rfl]
  · rw [if_neg hp]
    -- alpha is read only on the fourth entry of a three-colour palette
    unfold paletteEntry
    by_cases h0 : index = 0
    · simp [h0]
    by_cases h1 : index = 1
    · simp [h1]
    by_cases hc : c1 < c0
    · simp [h0, h1, hc]
    · have h2 : index = 2 := by omega
      simp [h2, hc]

theorem punchThrough_iff {block : List UInt8} {x y : Nat} :
    punchThrough block x y = true ↔
      endpoint0 block ≤ endpoint1 block ∧ indexAt block x y = 3 := by
  simp [punchThrough]

theorem decodeTexel_eq (block : List UInt8) (x y : Nat) (hasAlpha : Bool) :
    decodeTexel block x y hasAlpha =
      paletteEntry (endpoint0 block) (endpoint1 block) (indexAt block x y) hasAlpha := rfl

theorem decodeTexel_alpha_true (block : List UInt8) (x y : Nat) (hasAlpha : Bool) :
    decodeTexel block x y true =
      if punchThrough block x y then ⟨0, 0, 0, 0⟩ else decodeTexel block x y hasAlpha := by
  rw [decodeTexel_eq, decodeTexel_eq, paletteEntry_true _ _ (indexAt_lt block x y) hasAlpha]
  by_cases hp : punchThrough block x y = true
  · have hends : endpoint0 block ≤ endpoint1 block ∧ indexAt block x y = 3 :=
      punchThrough_iff.mp hp
    rw [if_pos hends, if_pos hp]
  · have hends : ¬ (endpoint0 block ≤ endpoint1 block ∧ indexAt block x y = 3) :=
      mt punchThrough_iff.mpr hp
    rw [if_neg hends, if_neg hp]

theorem decodeTexel_of_punchThrough {block : List UInt8} {x y : Nat}
    (h : punchThrough block x y = true) (hasAlpha : Bool) :
    decodeTexel block x y hasAlpha = ⟨0, 0, 0, if hasAlpha then 0 else 255⟩ := by
  obtain ⟨hends, hindex⟩ := punchThrough_iff.mp h
  rw [decodeTexel_eq, hindex]
  exact paletteEntry_three hends hasAlpha

/-- Channel `j` of a colour: red, green, blue, then alpha. -/
def Rgba.channel (c : Rgba) : Nat → UInt8
  | 0 => c.r
  | 1 => c.g
  | 2 => c.b
  | _ => c.a

theorem Rgba.getElem?_toList (c : Rgba) {j : Nat} (hj : j < 4) :
    c.toList[j]? = some (c.channel j) := by
  match j, hj with
  | 0, _ => rfl
  | 1, _ => rfl
  | 2, _ => rfl
  | 3, _ => rfl

end Bc1

/-! ## The expanded image of a surface -/

namespace Dds

/-- The four bytes of pixel `(x, y)` of an RGBA image `width` pixels wide, stored row by
row. -/
def rgbaPixel (image : ByteArray) (width x y : Nat) : List UInt8 :=
  (image.extract (4 * (y * width + x)) (4 * (y * width + x) + 4)).toList

namespace Surface

/-- The block texel `(x, y)` of the top level is decoded from. -/
def texelBlock (s : Surface) (x y : Nat) : List UInt8 :=
  s.block ((y / 4) * blocks s.width + x / 4)

/-- Texel `(x, y)` of the top level takes the fourth entry of a three-colour palette. -/
def punchThrough (s : Surface) (x y : Nat) : Bool :=
  Bc1.punchThrough (s.texelBlock x y) (x % 4) (y % 4)

theorem texel_eq (s : Surface) (x y : Nat) :
    s.texel x y = Bc1.decodeTexel (s.texelBlock x y) (x % 4) (y % 4) s.format.hasAlpha := rfl

@[simp] theorem setFormat_width (s : Surface) (f : PixelFormat) : (s.setFormat f).width = s.width :=
  rfl

@[simp] theorem setFormat_height (s : Surface) (f : PixelFormat) :
    (s.setFormat f).height = s.height := rfl

@[simp] theorem setFormat_format (s : Surface) (f : PixelFormat) :
    (s.setFormat f).format = f := rfl

theorem setFormat_self (s : Surface) : s.setFormat s.format = s := rfl

theorem texelBlock_setFormat (s : Surface) (f : PixelFormat) (x y : Nat) :
    (s.setFormat f).texelBlock x y = s.texelBlock x y := rfl

/-- Byte `i` of the expanded image is channel `i mod 4` of texel `i / 4`, counted row by
row. -/
theorem getElem?_decodeRgba (s : Surface) {i : Nat} (hi : i < s.width * s.height * 4) :
    s.decodeRgba[i]? = some ((s.texel (i / 4 % s.width) (i / 4 / s.width)).channel (i % 4)) := by
  rw [decodeRgba, ByteArray.getElem?_mk, Array.getElem?_ofFn, dif_pos hi]
  rfl

/-- Pixel `(x, y)` of the expanded image is the colour of texel `(x, y)`. -/
theorem rgbaPixel_decodeRgba (s : Surface) {x y : Nat} (hx : x < s.width) (hy : y < s.height) :
    rgbaPixel s.decodeRgba s.width x y = (s.texel x y).toList := by
  have hpix : y * s.width + x < s.width * s.height := blockIndex_lt hy hx
  apply List.ext_getElem?
  intro j
  rw [rgbaPixel, ByteArray.toList_eq_data_toList]
  by_cases hj : j < 4
  · -- byte `j` of the pixel is channel `j` of its texel
    have hbyte : 4 * (y * s.width + x) + j < s.width * s.height * 4 := by omega
    have hdiv : (4 * (y * s.width + x) + j) / 4 = y * s.width + x := by omega
    have hmod : (4 * (y * s.width + x) + j) % 4 = j := by omega
    obtain ⟨hrow, hcol⟩ := rowMajor_div_mod y hx
    rw [← ByteArray.getElem?_eq_data_toList, ByteArray.getElem?_extract _ (by omega),
      getElem?_decodeRgba s hbyte, hdiv, hmod, hrow, hcol, Bc1.Rgba.getElem?_toList _ hj]
  · rw [List.getElem?_eq_none (by simp; omega),
      List.getElem?_eq_none (by simp [Bc1.Rgba.toList]; omega)]

/-- Without alpha every pixel of the expanded image is opaque: every fourth byte is 255. -/
theorem alpha_decodeRgba {s : Surface} (h : s.format = .dxt1Rgb) {i : Nat} {v : UInt8}
    (hi : i % 4 = 3) (hv : s.decodeRgba[i]? = some v) : v = 255 := by
  have hlt : i < s.width * s.height * 4 := by
    rcases Nat.lt_or_ge i (s.width * s.height * 4) with hlt | hge
    · exact hlt
    · rw [decodeRgba, ByteArray.getElem?_mk, Array.getElem?_ofFn,
        dif_neg (Nat.not_lt.mpr hge)] at hv
      cases hv
  -- the byte is the alpha of a texel decoded without alpha
  have halpha := Bc1.decodeTexel_alpha (s.texelBlock (i / 4 % s.width) (i / 4 / s.width))
    (i / 4 % s.width % 4) (i / 4 / s.width % 4) s.format.hasAlpha
  rw [h] at halpha
  simp only [PixelFormat.hasAlpha, Bool.false_eq_true, and_false, if_false] at halpha
  rw [getElem?_decodeRgba s hlt, hi, texel_eq, h] at hv
  exact (Option.some.inj hv).symm.trans halpha

/-- Read with alpha, the top level expands to the same image except on the fourth entry of
three-colour blocks, which becomes transparent black. -/
theorem rgbaPixel_setFormat_rgba (s : Surface) {x y : Nat} (hx : x < s.width) (hy : y < s.height) :
    rgbaPixel (s.setFormat .dxt1Rgba).decodeRgba s.width x y =
      if s.punchThrough x y then [0, 0, 0, 0] else rgbaPixel s.decodeRgba s.width x y := by
  rw [← setFormat_width s .dxt1Rgba,
    rgbaPixel_decodeRgba _ (by simpa using hx) (by simpa using hy),
    setFormat_width, rgbaPixel_decodeRgba s hx hy, texel_eq, texel_eq, setFormat_format,
    texelBlock_setFormat]
  simp only [PixelFormat.hasAlpha]
  rw [Bc1.decodeTexel_alpha_true _ _ _ s.format.hasAlpha]
  unfold punchThrough
  split <;> rfl

theorem rgbaPixel_of_punchThrough (s : Surface) {x y : Nat} (hx : x < s.width)
    (hy : y < s.height) (h : s.punchThrough x y = true) :
    rgbaPixel s.decodeRgba s.width x y = [0, 0, 0, if s.format.hasAlpha then 0 else 255] := by
  rw [rgbaPixel_decodeRgba s hx hy, texel_eq, Bc1.decodeTexel_of_punchThrough h]
  rfl

end Surface

end Dds

/-! ## The two image decoders -/

namespace Image

open Dds

/-- The land-mask decoder is the surface decoder followed by reading the blocks with alpha. -/
theorem decode_landMask (bytes : ByteArray) :
    decode .landMask bytes =
      (decode .surface bytes).map fun r => ⟨r.surface.setFormat .dxt1Rgba⟩ := by
  unfold decode
  cases Surface.parse bytes with
  | error e => rfl
  | ok s =>
    dsimp only
    cases s.flipVertical with
    | error e => rfl
    | ok t => simp only [Variant.adjust, Surface.setFormat_self]; rfl

/-- What a land-mask surface is, next to the surface decoded from the same bytes. -/
structure MaskOf (mask surface : Surface) : Prop where
  /-- the top size stays -/
  width_eq : mask.width = surface.width
  /-- the top height stays -/
  height_eq : mask.height = surface.height
  /-- the mip levels stay -/
  levels_eq : mask.levels = surface.levels
  /-- the blocks stay -/
  data_eq : mask.data = surface.data
  /-- the blocks are read with alpha -/
  format_eq : mask.format = .dxt1Rgba
  /-- each pixel of the mask's image is the surface's pixel, except that the fourth entry of a
  three-colour block is transparent black -/
  pixel_eq : ∀ x < surface.width, ∀ y < surface.height,
    rgbaPixel mask.decodeRgba mask.width x y =
      if surface.punchThrough x y then [0, 0, 0, 0]
      else rgbaPixel surface.decodeRgba surface.width x y
  /-- where the surface's pixel is that entry, it is black, opaque unless the file declares
  alpha -/
  pixel_punchThrough : ∀ x < surface.width, ∀ y < surface.height,
    surface.punchThrough x y = true →
    rgbaPixel surface.decodeRgba surface.width x y =
      [0, 0, 0, if surface.format.hasAlpha then 0 else 255]

theorem maskOf_setFormat (s : Surface) : MaskOf (s.setFormat .dxt1Rgba) s where
  width_eq := rfl
  height_eq := rfl
  levels_eq := rfl
  data_eq := rfl
  format_eq := rfl
  pixel_eq _ hx _ hy := s.rgbaPixel_setFormat_rgba hx hy
  pixel_punchThrough _ hx _ hy h := s.rgbaPixel_of_punchThrough hx hy h

/-- **A land mask is its surface read with alpha.** For every payload the land-mask and
surface decoders fail with the same error or both succeed; when they succeed the mask holds the
surface's size, levels and blocks, in DXT1 with alpha, and expands to the surface's image except
where a texel takes the fourth entry of a three-colour block. And a surface without alpha
expands to an image whose every pixel is opaque. -/
theorem landMask_reads_with_alpha (bytes : ByteArray) :
    (∀ e, decode .landMask bytes = .error e ↔ decode .surface bytes = .error e) ∧
      (∀ m s, decode .landMask bytes = .ok m → decode .surface bytes = .ok s →
        MaskOf m.surface s.surface) ∧
      ∀ s : Surface, s.format = .dxt1Rgb →
        ∀ i v, i % 4 = 3 → s.decodeRgba[i]? = some v → v = 255 := by
  refine ⟨fun e => ?_, fun m s hm hs => ?_,
    fun s h i v hi hv => Surface.alpha_decodeRgba h hi hv⟩
  · rw [decode_landMask]
    cases decode .surface bytes <;> simp [Except.map]
  · rw [decode_landMask, hs] at hm
    cases hm
    exact maskOf_setFormat s.surface

end Image

end PlanetTiles
