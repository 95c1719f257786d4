import Mathlib
import PlanetTiles.Proofs.SurfaceChain
import PlanetTiles.Dds.Rgba
import PlanetTiles.Proofs.Bytes

/-!
# Flipping a surface mirrors every level it keeps

A flip rewrites the compressed bytes of each level it keeps without decoding them: byte `p`
of the flipped level is read from `sourceByte level p`, the same byte of the block in the
same column and the mirrored block row, with the texel rows of an index byte reversed. This
file shows that these byte moves are a mirror of the decoded texels, for every width and
for heights 1, 2 and multiples of 4.

* `getElem?_flipLevel` — one flip in place: the level's own bytes are read from their
  mirrored places, all others stay.
* `getElem?_foldl_flipLevel` — the flips of a whole chain, one after another, read every
  level from the data as it was before any of them.
* `texelOf_of_mirrored` — bytes read from their mirrored places decode to the mirrored
  texels.
* `Surface.flipVertical_mirrors` — **a surface a caller can hold, with a top level that can
  flip, flips; every level kept decodes to the mirror of what it decoded to before, and the
  top level expands to the mirrored image.**
-/

namespace PlanetTiles

/-! ## Reading one texel of a block -/

namespace Bc1

/-- A texel of a block depends on the two endpoint words and on the index byte of its row,
nothing else. -/
theorem decodeTexel_congr {block block' : List UInt8} {x y y' : Nat} (hasAlpha : Bool)
    (hends : ∀ j < 4, byteAt block j = byteAt block' j)
    (hrow : byteAt block (4 + y) = byteAt block' (4 + y')) :
    decodeTexel block x y hasAlpha = decodeTexel block' x y' hasAlpha := by
  simp only [decodeTexel, indexAt, hrow, hends 0 (by decide), hends 1 (by decide),
    hends 2 (by decide), hends 3 (by decide)]

end Bc1

namespace Dds

/-! ## One level flipped in place -/

/-- **The spec of flipping one level in place**: the level's own bytes are the flipped
bytes, every other byte stays. -/
theorem getElem?_flipLevel {data : ByteArray} {level : MipLevel}
    (h : level.offset + level.len ≤ data.size) (p : Nat) :
    (flipLevel data level)[p]? =
      if level.offset ≤ p ∧ p < level.offset + level.len then
        (flipLevelBytes data level)[p - level.offset]?
      else data[p]? := by
  have hsize : data.data.toList.length = data.size := by simp
  have hmin : min level.offset data.size = level.offset := by omega
  simp only [flipLevel, ByteArray.getElem?_eq_data_toList, ByteArray.toList_data_append,
    ByteArray.data_extract, Array.toList_extract, List.extract_eq_take_drop]
  by_cases hlo : p < level.offset
  · -- before the level: the untouched head
    rw [List.getElem?_append_left (by simp; omega), List.getElem?_append_left (by simp; omega)]
    simp [hlo]
  · by_cases hhi : p < level.offset + level.len
    · rw [List.getElem?_append_left (by simp; omega), List.getElem?_append_right (by simp; omega)]
      simp [hmin, hhi, show level.offset ≤ p by omega]
    · -- after the level: the untouched tail
      rw [List.getElem?_append_right (by simp; omega)]
      have hidx : level.offset + level.len + (p - (level.offset + level.len)) = p := by omega
      simp [hmin, hhi, List.getElem?_take, hidx]
      omega

/-! ## Where a flipped texel row comes from -/

/-- The texel at column `x` lies in a block column of the level. -/
theorem div_four_lt_blocks {texels x : Nat} (h : x < texels) : x / 4 < blocks texels := by
  simp only [blocks]
  omega

/-- For a height that can flip, block row and texel row of the mirrored row `height - 1 - y`
are the mirrored block row and the source row of row `y`. -/
theorem mirror_row {height y : Nat} (hflip : flippable height = true) (hy : y < height) :
    blocks height - 1 - y / 4 = (height - 1 - y) / 4 ∧
      sourceRow height (y % 4) = (height - 1 - y) % 4 := by
  simp only [flippable, Bool.or_eq_true, decide_eq_true_eq] at hflip
  simp only [blocks, sourceRow]
  rcases hflip with hsmall | hmul
  · -- heights 1 and 2: one block row
    have hnot : ¬ height % 4 = 0 := by omega
    refine ⟨by omega, ?_⟩
    split_ifs <;> omega
  · have hnot : ¬ (height = 2 ∧ y % 4 < 2) := by omega
    refine ⟨by omega, ?_⟩
    rw [if_neg hnot, if_pos ⟨hmul, Nat.mod_lt _ (by decide)⟩]
    omega

/-! ## The flips of a whole chain -/

/-- Flipping the levels of a chain leaves the bytes before the chain as they were. -/
theorem getElem?_foldl_flipLevel_of_lt {width height offset count : Nat} {data : ByteArray}
    (hsize : offset + chainLength (chainFrom width height offset count) ≤ data.size)
    {p : Nat} (hp : p < offset) :
    ((chainFrom width height offset count).foldl flipLevel data)[p]? = data[p]? := by
  induction count generalizing width height offset data with
  | zero => rfl
  | succ count ih =>
    simp only [chainFrom_succ, chainLength_cons, List.foldl_cons] at hsize ⊢
    have hfirst : offset + levelLength width height ≤ data.size := by omega
    rw [ih (by rw [size_flipLevel hfirst]; omega) (by omega), getElem?_flipLevel hfirst,
      if_neg (by simp; omega)]

/-- **Flipping the levels of a chain one after another flips each in place**: every byte of
a level is read from its mirrored place in the data before any of the flips, since each
flip reads only its own level's bytes and later flips do not touch them. -/
theorem getElem?_foldl_flipLevel {width height offset count j : Nat} {data : ByteArray}
    {level : MipLevel}
    (hsize : offset + chainLength (chainFrom width height offset count) ≤ data.size)
    (hj : (chainFrom width height offset count)[j]? = some level) {q : Nat}
    (hq : q < level.len) :
    ((chainFrom width height offset count).foldl flipLevel data)[level.offset + q]? =
      data[level.offset + sourceByte level q]? := by
  have hlen := (mem_chainFrom (List.mem_of_getElem? hj)).1
  have hsrc := sourceByte_lt hlen hq
  induction count generalizing width height offset data j with
  | zero => simp at hj
  | succ count ih =>
    simp only [chainFrom_succ, chainLength_cons, List.foldl_cons] at hsize hj ⊢
    have hfirst : offset + levelLength width height ≤ data.size := by omega
    have hrest : offset + levelLength width height +
        chainLength (chainFrom (halve width) (halve height) (offset + levelLength width height)
          count) ≤ (flipLevel data ⟨width, height, offset, levelLength width height⟩).size := by
      rw [size_flipLevel hfirst]
      omega
    cases j with
    | zero =>
      -- the first level: flipped by the first step, untouched by the rest
      simp only [List.getElem?_cons_zero, Option.some.injEq] at hj
      subst hj
      dsimp only at hq hsrc ⊢
      rw [getElem?_foldl_flipLevel_of_lt hrest (by omega), getElem?_flipLevel hfirst,
        if_pos (by dsimp only; omega), Nat.add_sub_cancel_left, getElem?_flipLevelBytes,
        if_pos hq, ByteArray.getD_getElem?_of_lt (by dsimp only; omega)]
    | succ j =>
      -- a later level: the first step left its bytes as they were
      simp only [List.getElem?_cons_succ] at hj
      have hoff := offset_of_getElem?_chainFrom hj
      rw [ih hrest hj, getElem?_flipLevel hfirst, if_neg (by dsimp only; omega)]

/-- A chain's level lies inside the chain. -/
theorem offset_add_len_le_of_getElem?_chainFrom {width height offset count k : Nat}
    {level : MipLevel} (h : (chainFrom width height offset count)[k]? = some level) :
    level.offset + level.len ≤ offset + chainLength (chainFrom width height offset count) := by
  induction count generalizing width height offset k with
  | zero => simp at h
  | succ count ih =>
    simp only [chainFrom_succ, chainLength_cons] at h ⊢
    cases k with
    | zero =>
      simp only [List.getElem?_cons_zero, Option.some.injEq] at h
      subst h
      dsimp only
      omega
    | succ k =>
      have := ih h
      omega

/-- The first levels of a chain are levels of any longer chain. -/
theorem getElem?_chainFrom_of_le {width height offset k count i : Nat} {level : MipLevel}
    (hk : k ≤ count) (h : (chainFrom width height offset k)[i]? = some level) :
    (chainFrom width height offset count)[i]? = some level := by
  have hi : i < k := by simpa using (List.getElem?_eq_some_iff.mp h).1
  rw [← Nat.min_eq_left hk, ← take_chainFrom, List.getElem?_take, if_pos hi] at h
  exact h

/-! ## Texels of a level -/

/-- The eight bytes of block `index` of a level's bytes. -/
def blockOf (bytes : ByteArray) (index : Nat) : List UInt8 :=
  (bytes.extract (index * blockBytes) ((index + 1) * blockBytes)).toList

/-- Texel `(x, y)` of a level `width` texels wide whose compressed bytes are `bytes`, decoded
as the top level of a surface is: from block `(y / 4) * blocks width + x / 4`, at column
`x % 4` and row `y % 4`. -/
def texelOf (bytes : ByteArray) (width : Nat) (hasAlpha : Bool) (x y : Nat) : Bc1.Rgba :=
  Bc1.decodeTexel (blockOf bytes ((y / 4) * blocks width + x / 4)) (x % 4) (y % 4) hasAlpha

theorem Surface.texel_eq_texelOf (s : Surface) (x y : Nat) :
    s.texel x y = texelOf s.data s.width s.format.hasAlpha x y := rfl

theorem byteAt_blockOf (bytes : ByteArray) (index : Nat) {j : Nat} (hj : j < blockBytes) :
    Bc1.byteAt (blockOf bytes index) j = ((bytes[index * blockBytes + j]?).getD 0).toNat := by
  have hlt : j < (index + 1) * blockBytes - index * blockBytes := by
    rw [Nat.succ_mul, Nat.add_sub_cancel_left]
    exact hj
  rw [Bc1.byteAt, blockOf, ByteArray.toList_eq_data_toList, ← ByteArray.getElem?_eq_data_toList,
    ByteArray.getElem?_extract _ hlt]

/-- A texel of a level reads only the bytes of its own block, so cutting the bytes after
that block changes nothing. -/
theorem texelOf_extract (bytes : ByteArray) {width stop x y : Nat} (hasAlpha : Bool)
    (hstop : ((y / 4) * blocks width + x / 4 + 1) * blockBytes ≤ stop) :
    texelOf (bytes.extract 0 stop) width hasAlpha x y = texelOf bytes width hasAlpha x y := by
  have hmin : min ((y / 4 * blocks width + x / 4 + 1) * blockBytes) stop =
      (y / 4 * blocks width + x / 4 + 1) * blockBytes := Nat.min_eq_left hstop
  simp only [texelOf, blockOf, ByteArray.extract_extract, Nat.zero_add, hmin]

/-- **Bytes read from their mirrored places decode to the mirrored texels**: if every byte
of a level of a height that can flip is read from its `sourceByte` in another, texel
`(x, y)` of the one is texel `(x, height - 1 - y)` of the other. -/
theorem texelOf_of_mirrored {bytes bytes' : ByteArray} {level : MipLevel}
    (hlen : level.len = levelLength level.width level.height)
    (hflip : flippable level.height = true)
    (hbytes : ∀ q < level.len, bytes'[q]? = bytes[sourceByte level q]?) (hasAlpha : Bool)
    {x y : Nat} (hx : x < level.width) (hy : y < level.height) :
    texelOf bytes' level.width hasAlpha x y =
      texelOf bytes level.width hasAlpha x (level.height - 1 - y) := by
  obtain ⟨hblockRow, hsourceRow⟩ := mirror_row hflip hy
  have hcol := div_four_lt_blocks hx
  have hblock := blockIndex_lt (div_four_lt_blocks hy) hcol
  -- each byte of the texel's block comes from the same byte of the mirrored block, or for an
  -- index byte from the mirrored row
  have hbyte : ∀ j < blockBytes,
      Bc1.byteAt (blockOf bytes' ((y / 4) * blocks level.width + x / 4)) j =
        Bc1.byteAt (blockOf bytes (((level.height - 1 - y) / 4) * blocks level.width + x / 4))
          (if j < 4 then j else 4 + sourceRow level.height (j - 4)) := by
    intro j hj
    have hq : ((y / 4) * blocks level.width + x / 4) * blockBytes + j < level.len := by
      rw [hlen, levelLength]
      simp only [blockBytes] at hj ⊢
      omega
    rw [byteAt_blockOf _ _ hj, hbytes _ hq, sourceByte_block level hcol hj, hblockRow,
      byteAt_blockOf _ _ (sourceByteInBlock_lt _ hj)]
  unfold texelOf
  apply Bc1.decodeTexel_congr
  · intro j hj
    have hends := hbyte j (by simp only [blockBytes]; omega)
    rwa [if_pos hj] at hends
  · have hrow := hbyte (4 + y % 4) (by simp only [blockBytes]; omega)
    rwa [if_neg (by omega), Nat.add_sub_cancel_left, hsourceRow] at hrow

/-! ## Levels of a surface -/

namespace Surface

/-- Texel `(x, y)` of level `index` of a surface, if the surface has such a level. -/
def levelTexel (s : Surface) (index x y : Nat) : Option Bc1.Rgba := do
  let level ← s.levels[index]?
  let bytes ← s.levelData index
  pure (texelOf bytes level.width s.format.hasAlpha x y)

theorem Chained.offset_add_len_le {s : Surface} (hs : s.Chained) {i : Nat} {level : MipLevel}
    (h : s.levels[i]? = some level) : level.offset + level.len ≤ s.data.size := by
  rw [hs.levels_eq] at h
  have := offset_add_len_le_of_getElem?_chainFrom h
  rw [hs.size_eq, hs.levels_eq]
  omega

/-- The texels of a level of a chained surface are read from the level's bytes. -/
theorem Chained.levelTexel_eq {s : Surface} (hs : s.Chained) {i : Nat} {level : MipLevel}
    (h : s.levels[i]? = some level) (x y : Nat) :
    s.levelTexel i x y = some (texelOf (s.data.extract level.offset (level.offset + level.len))
      level.width s.format.hasAlpha x y) := by
  have hdata : s.levelData i = some (s.data.extract level.offset (level.offset + level.len)) := by
    simp only [levelData, h, if_pos (hs.offset_add_len_le h)]
  simp only [levelTexel, h, hdata, Option.bind_eq_bind, Option.bind_some, Option.pure_def]

/-- The top level of a chained surface is level 0. -/
theorem Chained.getElem?_levels_zero {s : Surface} (hs : s.Chained) :
    s.levels[0]? = some ⟨s.width, s.height, 0, levelLength s.width s.height⟩ := by
  have hchain := hs.levels_eq
  obtain ⟨n, hn⟩ := Nat.exists_eq_add_of_lt hs.length_pos
  rw [hn, chainFrom_succ] at hchain
  rw [hchain]
  rfl

/-- A flip of a chained surface whose top level can flip succeeds. -/
theorem flipVertical_ok {s : Surface} (hs : s.Chained) (htop : flippable s.height = true) :
    ∃ t, s.flipVertical = .ok t := by
  cases h : s.flipVertical with
  | ok t => exact ⟨t, rfl⟩
  | error e =>
    exfalso
    obtain ⟨⟨top, rest, hlevels, hunflip⟩, -⟩ := (flipVertical_error s e).mp h
    -- the level that cannot flip is the top level, of the surface's height
    have htop' := hs.getElem?_levels_zero
    rw [hlevels, List.getElem?_cons_zero, Option.some.injEq] at htop'
    rw [htop'] at hunflip
    rw [hunflip] at htop
    cases htop

/-- **The bytes of a level after a flip**: every level the flip keeps is a level of the
surface before, and each of its bytes is read from its mirrored place in that level. -/
theorem flipVertical_levelBytes {s t : Surface} (hs : s.Chained) (h : s.flipVertical = .ok t)
    {i : Nat} {level : MipLevel} (hi : t.levels[i]? = some level) :
    s.levels[i]? = some level ∧ ∀ q < level.len,
      (t.data.extract level.offset (level.offset + level.len))[q]? =
        (s.data.extract level.offset (level.offset + level.len))[sourceByte level q]? := by
  obtain ⟨k, -, hkn, -, rfl⟩ := flipVertical_eq_ok hs h
  dsimp only at hi ⊢
  have hcut : chainLength (chainFrom s.width s.height 0 k) ≤ s.data.size := by
    rw [hs.size_eq, hs.levels_eq]
    exact chainLength_chainFrom_le hkn
  have hinside := offset_add_len_le_of_getElem?_chainFrom hi
  have hlen := (mem_chainFrom (List.mem_of_getElem? hi)).1
  refine ⟨?_, fun q hq => ?_⟩
  · rw [hs.levels_eq]
    exact getElem?_chainFrom_of_le hkn hi
  · have hsrc := sourceByte_lt hlen hq
    rw [ByteArray.getElem?_extract _ (by omega), ByteArray.getElem?_extract _ (by omega),
      getElem?_foldl_flipLevel (by simp only [ByteArray.size_extract]; omega) hi hq,
      ByteArray.getElem?_extract _ (by omega), Nat.zero_add]

/-- **Every level a flip keeps decodes to the mirror of what it decoded to before**: texel
`(x, y)` of the flipped level is texel `(x, height - 1 - y)` of the level before, and both
exist. -/
theorem levelTexel_flipVertical {s t : Surface} (hs : s.Chained) (h : s.flipVertical = .ok t)
    {i : Nat} {level : MipLevel} (hi : t.levels[i]? = some level) {x y : Nat}
    (hx : x < level.width) (hy : y < level.height) :
    (t.levelTexel i x y).isSome ∧ t.levelTexel i x y = s.levelTexel i x (level.height - 1 - y) := by
  have ht := hs.flipVertical h
  obtain ⟨hsi, hbytes⟩ := flipVertical_levelBytes hs h hi
  obtain ⟨-, -, hformat⟩ := flipVertical_eq_ok_size h
  -- the kept level can flip and has the length of its size
  have hmem : level ∈ t.levels := List.mem_of_getElem? hi
  have hlen : level.len = levelLength level.width level.height := by
    rw [ht.levels_eq] at hmem
    exact (mem_chainFrom hmem).1
  have hflip : flippable level.height = true := by
    obtain ⟨k, -, -, hall, rfl⟩ := flipVertical_eq_ok hs h
    exact hall level hmem
  rw [ht.levelTexel_eq hi, hs.levelTexel_eq hsi, hformat,
    texelOf_of_mirrored hlen hflip hbytes _ hx hy]
  exact ⟨rfl, rfl⟩

/-- Texels of the top level, as the surface expands them to RGBA, are the texels of level 0. -/
theorem Chained.levelTexel_zero {s : Surface} (hs : s.Chained) {x y : Nat} (hx : x < s.width)
    (hy : y < s.height) : s.levelTexel 0 x y = some (s.texel x y) := by
  have hblock := blockIndex_lt (div_four_lt_blocks hy) (div_four_lt_blocks hx)
  have hstop : ((y / 4) * blocks s.width + x / 4 + 1) * blockBytes ≤
      levelLength s.width s.height := by
    simp only [levelLength, blockBytes]
    omega
  rw [hs.levelTexel_eq hs.getElem?_levels_zero]
  dsimp only
  rw [Nat.zero_add, texelOf_extract _ _ hstop, texel_eq_texelOf]

/-- The top level after a flip is the top level before it, mirrored. -/
theorem texel_flipVertical {s t : Surface} (hs : s.Chained) (h : s.flipVertical = .ok t)
    {x y : Nat} (hx : x < s.width) (hy : y < s.height) :
    t.texel x y = s.texel x (s.height - 1 - y) := by
  have ht := hs.flipVertical h
  obtain ⟨hw, hh, -⟩ := flipVertical_eq_ok_size h
  obtain ⟨-, heq⟩ := levelTexel_flipVertical hs h ht.getElem?_levels_zero
    (by rw [hw]; exact hx) (by rw [hh]; exact hy)
  dsimp only at heq
  rw [ht.levelTexel_zero (by rw [hw]; exact hx) (by rw [hh]; exact hy), hh,
    hs.levelTexel_zero hx (by omega)] at heq
  exact Option.some.inj heq

end Surface

/-! ## The top level as an image -/

/-- An RGBA image `width` texels wide and `height` high, four bytes a texel and row by row,
mirrored top to bottom: texel `(x, y)` of the result is texel `(x, height - 1 - y)` of the
image. -/
def flipRows (width height : Nat) (image : ByteArray) : ByteArray :=
  ⟨Array.ofFn (n := width * height * 4) fun i =>
    let texel := i.val / 4
    (image[((height - 1 - texel / width) * width + texel % width) * 4 + i.val % 4]?).getD 0⟩

namespace Surface

/-- A surface whose top-level texels are the mirrored texels of another's expands to the
mirrored image. -/
theorem decodeRgba_of_mirrored {s t : Surface} (hw : t.width = s.width)
    (hh : t.height = s.height)
    (htexel : ∀ x < s.width, ∀ y < s.height, t.texel x y = s.texel x (s.height - 1 - y)) :
    t.decodeRgba = flipRows s.width s.height s.decodeRgba := by
  apply ByteArray.ext
  apply Array.ext
  · simp [decodeRgba, flipRows, hw, hh]
  · intro i hi _
    have hi' : i < s.width * s.height * 4 := by simpa [decodeRgba, hw, hh] using hi
    simp only [decodeRgba, flipRows, Array.getElem_ofFn, hw]
    -- byte `i` belongs to texel `(x, y)`
    have hwpos : 0 < s.width := Nat.pos_of_ne_zero (by rintro h0; simp [h0] at hi')
    have hx : i / 4 % s.width < s.width := Nat.mod_lt _ hwpos
    have hy : i / 4 / s.width < s.height := by
      rw [Nat.div_lt_iff_lt_mul hwpos, Nat.mul_comm]
      omega
    generalize i / 4 % s.width = x at hx ⊢
    generalize i / 4 / s.width = y at hy ⊢
    -- and is read from the same byte of texel `(x, height - 1 - y)` of the image
    have hrow := blockIndex_lt (show s.height - 1 - y < s.height by omega) hx
    have hj : ((s.height - 1 - y) * s.width + x) * 4 + i % 4 < s.width * s.height * 4 := by
      omega
    have hj4 : (((s.height - 1 - y) * s.width + x) * 4 + i % 4) % 4 = i % 4 := by omega
    have hjt : (((s.height - 1 - y) * s.width + x) * 4 + i % 4) / 4 =
        (s.height - 1 - y) * s.width + x := by omega
    obtain ⟨hjy, hjx⟩ := rowMajor_div_mod (s.height - 1 - y) hx
    rw [ByteArray.getElem?_mk, Array.getElem?_ofFn, dif_pos hj, Option.getD_some]
    dsimp only
    rw [hj4, hjt, hjx, hjy, htexel x hx y hy]

/-! ## Flipping a surface a caller holds -/

/-- What a flip that turns `s` into `t` does: the top size and the format stay, the levels
kept are the first levels of `s`, each decodes to the mirror of what it decoded to in `s`,
and the top level expands to the mirrored image. -/
structure Mirrors (s t : Surface) : Prop where
  /-- the top width stays -/
  width_eq : t.width = s.width
  /-- the top height stays -/
  height_eq : t.height = s.height
  /-- the format stays -/
  format_eq : t.format = s.format
  /-- the levels kept are the first levels -/
  levels_prefix : t.levels <+: s.levels
  /-- texel `(x, y)` of a kept level is texel `(x, height - 1 - y)` of that level before -/
  texel_mirrored : ∀ i level, t.levels[i]? = some level →
    ∀ x < level.width, ∀ y < level.height,
      (t.levelTexel i x y).isSome ∧ t.levelTexel i x y = s.levelTexel i x (level.height - 1 - y)
  /-- the top level expands to the image of the top level before, mirrored -/
  image_mirrored : t.decodeRgba = flipRows s.width s.height s.decodeRgba

/-- **A flip of a surface a caller holds, with a top level of height 1, 2 or a multiple of 4,
succeeds and mirrors every level it keeps**, for both pixel formats. -/
theorem flipVertical_mirrors {s : Surface} (hs : s.Reachable) (htop : flippable s.height = true) :
    ∃ t, s.flipVertical = .ok t ∧ Mirrors s t := by
  have hchained := hs.chained
  obtain ⟨t, h⟩ := flipVertical_ok hchained htop
  obtain ⟨hw, hh, hformat⟩ := flipVertical_eq_ok_size h
  refine ⟨t, h, hw, hh, hformat, ?_, fun i level hi x hx y hy =>
    levelTexel_flipVertical hchained h hi hx hy, decodeRgba_of_mirrored hw hh
    fun x hx y hy => texel_flipVertical hchained h hx hy⟩
  -- the levels kept are the chain cut after `k` levels
  obtain ⟨k, -, hkn, -, rfl⟩ := flipVertical_eq_ok hchained h
  have hprefix := List.take_prefix k (chainFrom s.width s.height 0 s.levels.length)
  rw [take_chainFrom, Nat.min_eq_left hkn, ← hchained.levels_eq] at hprefix
  exact hprefix

/-- Blocks for a 4 by 12 surface and its 2 by 6 level: red and blue endpoints, and index
rows that differ from row to row. -/
def flipSampleBlocks : ByteArray :=
  ⟨#[0x00, 0xF8, 0x1F, 0x00, 0x00, 0x55, 0xAA, 0xFF,
     0x1F, 0x00, 0x00, 0xF8, 0xE4, 0x1B, 0x4E, 0xB1,
     0x00, 0xF8, 0xE0, 0x07, 0x01, 0x02, 0x03, 0x00,
     0xE0, 0x07, 0x00, 0xF8, 0xFF, 0x00, 0xAA, 0x55,
     0x1F, 0x00, 0xE0, 0x07, 0x05, 0x50, 0x0A, 0xA0]⟩

/-- The surface built from them: its second level, 6 texels high, cannot flip. -/
def flipSample : Surface :=
  ⟨4, 12, .dxt1Rgba, [⟨4, 12, 0, 24⟩, ⟨2, 6, 24, 16⟩], flipSampleBlocks⟩

theorem flipVertical_mirrors_sample :
    flipSample.Reachable ∧ flippable flipSample.height = true ∧
      ∃ t, flipSample.flipVertical = .ok t ∧ Mirrors flipSample t := by
  have hs : flipSample.Reachable :=
    .ofParts (show ofParts 4 12 .dxt1Rgba 2 flipSampleBlocks = .ok flipSample from rfl)
  exact ⟨hs, by decide, flipVertical_mirrors hs (by decide)⟩

end Surface

end Dds

end PlanetTiles
