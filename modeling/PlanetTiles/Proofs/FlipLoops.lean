import Mathlib
import PlanetTiles.Dds.Flip
import PlanetTiles.Proofs.Bytes

/-!
# The swap loops of a flip

`flipDxt1Level` flips a level in place with loops of swaps: it trades the block rows of the
upper half with their mirrors, pair of bytes by pair of bytes, then walks every block and
reverses its index bytes (for height 2 it only trades the two index bytes in use). Each loop
is shown here by induction on the steps done so far, with the invariant that the bytes the
loop has reached read their partner and all others read themselves; the three invariants
together say that every byte reads from the place `sourceByte` names, which is what
`flipLevelBytes` says at once.

* `getElem?_swapRanges` — trading two ranges, pair by pair.
* `getElem?_swapAllRows` — trading every block row of the upper half with its mirror.
* `PermutesBlock.getElem?_eachBlock` — a step that moves bytes within a block, run on every
  block.
* `flipDxt1Level_eq_flipLevelBytes` — **the swap loops flip a level as `flipLevelBytes`
  says**.
* `flipLevelInPlace_eq_flipLevel` — and flipping a level through its slice of the data is
  `flipLevel`.
-/

namespace PlanetTiles.Dds

/-! ## Swapping two bytes -/

@[simp] theorem size_swapBytes (bytes : ByteArray) (p q : Nat) :
    (swapBytes bytes p q).size = bytes.size := by
  show (bytes.data.swapIfInBounds p q).size = bytes.data.size
  exact Array.size_swapIfInBounds

theorem getElem?_swapBytes {bytes : ByteArray} {p q : Nat} (hp : p < bytes.size)
    (hq : q < bytes.size) (k : Nat) :
    (swapBytes bytes p q)[k]? =
      if k = p then bytes[q]? else if k = q then bytes[p]? else bytes[k]? := by
  have hp' : p < bytes.data.size := hp
  have hq' : q < bytes.data.size := hq
  have hdata : ∀ i, bytes[i]? = bytes.data[i]? := fun i => by
    rw [ByteArray.getElem?_eq_data_toList, Array.getElem?_toList]
  rw [swapBytes, ByteArray.getElem?_mk, Array.swapIfInBounds_def, dif_pos hp', dif_pos hq',
    Array.getElem?_swap, hdata, hdata, hdata, Array.getElem?_eq_getElem hp',
    Array.getElem?_eq_getElem hq']
  by_cases hkp : k = p <;> by_cases hkq : k = q <;> simp_all [eq_comm]

/-! ## Trading two ranges -/

theorem size_foldl_swapBytes (js : List Nat) (f g : Nat → Nat) (bytes : ByteArray) :
    (js.foldl (fun acc j => swapBytes acc (f j) (g j)) bytes).size = bytes.size := by
  induction js generalizing bytes with
  | nil => rfl
  | cons j js ih => rw [List.foldl_cons, ih, size_swapBytes]

@[simp] theorem size_swapRanges (bytes : ByteArray) (a b len : Nat) :
    (swapRanges bytes a b len).size = bytes.size :=
  size_foldl_swapBytes _ _ _ bytes

/-- After the first `n` pairs of a trade of the ranges at `a` and `b`, apart and inside the
bytes, the first `n` bytes of each range read the other's, and every other byte stays. -/
theorem getElem?_foldl_swapPairs {bytes : ByteArray} {a b len : Nat} (hab : a + len ≤ b)
    (hb : b + len ≤ bytes.size) {n : Nat} (hn : n ≤ len) (k : Nat) :
    ((List.range n).foldl (fun acc j => swapBytes acc (a + j) (b + j)) bytes)[k]? =
      if a ≤ k ∧ k < a + n then bytes[k - a + b]?
      else if b ≤ k ∧ k < b + n then bytes[k - b + a]? else bytes[k]? := by
  induction n generalizing k with
  | zero =>
    simp only [List.range_zero, List.foldl_nil, Nat.add_zero]
    rw [if_neg (by omega), if_neg (by omega)]
  | succ n ih =>
    have hsize := size_foldl_swapBytes (List.range n) (a + ·) (b + ·) bytes
    rw [List.range_succ, List.foldl_append, List.foldl_cons, List.foldl_nil,
      getElem?_swapBytes (by rw [hsize]; omega) (by rw [hsize]; omega)]
    simp only [ih (Nat.le_of_succ_le hn)]
    -- the pair traded last reads its partner, which no earlier pair touched
    split_ifs <;> first | rfl | omega | (congr 1; omega)

/-- **Trading two ranges**, apart and inside the bytes: each byte of one range comes from the
same place in the other, and every other byte stays. -/
theorem getElem?_swapRanges {bytes : ByteArray} {a b len : Nat} (hab : a + len ≤ b)
    (hb : b + len ≤ bytes.size) (k : Nat) :
    (swapRanges bytes a b len)[k]? =
      if a ≤ k ∧ k < a + len then bytes[k - a + b]?
      else if b ≤ k ∧ k < b + len then bytes[k - b + a]? else bytes[k]? :=
  getElem?_foldl_swapPairs hab hb (Nat.le_refl len) k

/-! ## Trading block rows -/

/-- Byte `c` of row `r`, rows being `rowLen` bytes long, lies before row `t` exactly when
`r < t`. -/
theorem mul_add_lt_mul_iff {rowLen r c t : Nat} (hc : c < rowLen) :
    r * rowLen + c < t * rowLen ↔ r < t := by
  constructor
  · intro h
    refine Nat.lt_of_not_le fun htr => ?_
    have := Nat.mul_le_mul_right rowLen htr
    omega
  · intro h
    have := Nat.mul_le_mul_right rowLen (Nat.succ_le_of_lt h)
    rw [Nat.succ_mul] at this
    omega

theorem size_foldl_swapBlockRows (tops : List Nat) (bytes : ByteArray) (rowLen rows : Nat) :
    (tops.foldl (fun acc top => swapBlockRows acc rowLen rows top) bytes).size = bytes.size := by
  induction tops generalizing bytes with
  | nil => rfl
  | cons top tops ih => rw [List.foldl_cons, ih, swapBlockRows, size_swapRanges]

/-- After the first `t` trades of block rows, from the outside in, byte `c` of block row `r`
reads the same byte of the mirrored row `rows - 1 - r` when one of the two was traded, and
itself otherwise. -/
theorem getElem?_foldl_swapBlockRows {bytes : ByteArray} {rowLen rows : Nat}
    (hsize : bytes.size = rows * rowLen) {t : Nat} (ht : t ≤ rows / 2) {r c : Nat}
    (hr : r < rows) (hc : c < rowLen) :
    ((List.range t).foldl (fun acc top => swapBlockRows acc rowLen rows top) bytes)[r * rowLen + c]? =
      bytes[(if min r (rows - 1 - r) < t then rows - 1 - r else r) * rowLen + c]? := by
  induction t generalizing r c with
  | zero => rw [if_neg (Nat.not_lt_zero _)]; rfl
  | succ t ih =>
    -- row `t` trades with row `rows - 1 - t`, which lies after it
    have hab : t * rowLen + rowLen ≤ (rows - 1 - t) * rowLen := by
      rw [← Nat.succ_mul]
      exact Nat.mul_le_mul_right rowLen (by omega)
    have hb : (rows - 1 - t) * rowLen + rowLen ≤
        ((List.range t).foldl (fun acc top => swapBlockRows acc rowLen rows top) bytes).size := by
      rw [size_foldl_swapBlockRows, hsize, ← Nat.succ_mul]
      exact Nat.mul_le_mul_right rowLen (by omega)
    -- byte `c` of row `r` lies in row `u` exactly when `r = u`
    have hrow : ∀ u, (u * rowLen ≤ r * rowLen + c ∧ r * rowLen + c < u * rowLen + rowLen) ↔
        r = u := fun u => by
      rw [← Nat.succ_mul, mul_add_lt_mul_iff hc, ← Nat.not_lt, mul_add_lt_mul_iff hc]
      omega
    rw [List.range_succ, List.foldl_append, List.foldl_cons, List.foldl_nil, swapBlockRows,
      getElem?_swapRanges hab hb]
    by_cases hrt : r = t
    · -- row `t` reads row `rows - 1 - t`, not traded before
      subst hrt
      rw [if_pos ((hrow r).mpr rfl), show r * rowLen + c - r * rowLen + (rows - 1 - r) * rowLen =
        (rows - 1 - r) * rowLen + c by omega, ih (by omega) (by omega) hc,
        if_neg (by omega), if_pos (by omega)]
    · by_cases hrb : r = rows - 1 - t
      · -- row `rows - 1 - t` reads row `t`, not traded before
        rw [if_neg (fun h => hrt ((hrow t).mp h)), if_pos ((hrow _).mpr hrb),
          show r * rowLen + c - (rows - 1 - t) * rowLen + t * rowLen = t * rowLen + c by
            subst hrb; omega,
          ih (by omega) (by omega) hc, if_neg (by omega), if_pos (by omega),
          show rows - 1 - r = t by omega]
      · -- any other row is as the earlier trades left it
        rw [if_neg (fun h => hrt ((hrow t).mp h)), if_neg (fun h => hrb ((hrow _).mp h)),
          ih (by omega) hr hc]
        have hmin : min r (rows - 1 - r) ≠ t := by omega
        by_cases hlt : min r (rows - 1 - r) < t
        · rw [if_pos hlt, if_pos (by omega)]
        · rw [if_neg hlt, if_neg (by omega)]

/-- **Trading all block rows**: once every row of the upper half has traded with its mirror,
byte `c` of every block row `r` reads the same byte of the mirrored row. -/
theorem getElem?_swapAllRows {bytes : ByteArray} {rowLen rows : Nat}
    (hsize : bytes.size = rows * rowLen) {r c : Nat} (hr : r < rows) (hc : c < rowLen) :
    ((List.range (rows / 2)).foldl (fun acc top => swapBlockRows acc rowLen rows top)
      bytes)[r * rowLen + c]? = bytes[(rows - 1 - r) * rowLen + c]? := by
  rw [getElem?_foldl_swapBlockRows hsize (Nat.le_refl _) hr hc]
  by_cases hlt : min r (rows - 1 - r) < rows / 2
  · rw [if_pos hlt]
  · -- the middle row of an odd number of rows is its own mirror
    rw [if_neg hlt, show rows - 1 - r = r by omega]

/-- An index laid out row by row, `across` to a row, gives back its row and column. -/
theorem rowMajor_div_mod (row : Nat) {across col : Nat} (hcol : col < across) :
    (row * across + col) / across = row ∧ (row * across + col) % across = col := by
  have hpos : 0 < across := by omega
  refine ⟨?_, ?_⟩
  · rw [Nat.add_comm, Nat.add_mul_div_right _ _ hpos, Nat.div_eq_of_lt hcol, Nat.zero_add]
  · rw [Nat.add_comm, Nat.add_mul_mod_self_right, Nat.mod_eq_of_lt hcol]

/-! ## A step on every block -/

/-- A step that, given a block's start `p`, moves the block's bytes within the block as `σ`
says, byte `σ j` to place `j`, and leaves every other byte, and the size, as they were. -/
structure PermutesBlock (step : ByteArray → Nat → ByteArray) (σ : Nat → Nat) : Prop where
  /-- the step keeps the size -/
  size_eq : ∀ acc p, (step acc p).size = acc.size
  /-- `σ` stays inside a block -/
  lt : ∀ j < blockBytes, σ j < blockBytes
  /-- byte `j` of the block is read from byte `σ j`, every byte outside it stays -/
  getElem?_eq : ∀ acc p, p + blockBytes ≤ acc.size → ∀ k,
    (step acc p)[k]? = if p ≤ k ∧ k < p + blockBytes then acc[p + σ (k - p)]? else acc[k]?

section EachBlock

variable {step : ByteArray → Nat → ByteArray} {σ : Nat → Nat}

theorem PermutesBlock.size_foldl (h : PermutesBlock step σ) (blocks : List Nat)
    (bytes : ByteArray) :
    (blocks.foldl (fun acc block => step acc (block * blockBytes)) bytes).size = bytes.size := by
  induction blocks generalizing bytes with
  | nil => rfl
  | cons block blocks ih => rw [List.foldl_cons, ih, h.size_eq]

/-- After the step ran on the first `n` blocks, their bytes are moved within their blocks, and
the bytes after them are as they were. -/
theorem PermutesBlock.getElem?_foldl (h : PermutesBlock step σ) {bytes : ByteArray} {n : Nat}
    (hn : n ≤ bytes.size / blockBytes) (k : Nat) :
    ((List.range n).foldl (fun acc block => step acc (block * blockBytes)) bytes)[k]? =
      if k < n * blockBytes then bytes[k / blockBytes * blockBytes + σ (k % blockBytes)]?
      else bytes[k]? := by
  induction n generalizing k with
  | zero =>
    simp only [List.range_zero, List.foldl_nil, Nat.zero_mul]
    rw [if_neg (Nat.not_lt_zero k)]
  | succ n ih =>
    have hsize := h.size_foldl (List.range n) bytes
    have hend : n * blockBytes + blockBytes ≤ bytes.size := by
      simp only [blockBytes] at hn ⊢
      omega
    rw [List.range_succ, List.foldl_append, List.foldl_cons, List.foldl_nil,
      h.getElem?_eq _ _ (by rw [hsize]; exact hend)]
    by_cases hk : n * blockBytes ≤ k ∧ k < n * blockBytes + blockBytes
    · -- a byte of block `n`, read from a byte of the same block, which no earlier step moved
      have hσ := h.lt (k - n * blockBytes) (by omega)
      obtain ⟨hdiv, hmod⟩ := rowMajor_div_mod n (show k - n * blockBytes < blockBytes by omega)
      rw [Nat.add_sub_cancel' hk.1] at hdiv hmod
      rw [if_pos hk, ih (Nat.le_of_succ_le hn), if_neg (by omega), if_pos (by rw [Nat.succ_mul]; omega),
        hdiv, hmod]
    · rw [if_neg hk, ih (Nat.le_of_succ_le hn)]
      by_cases hlt : k < n * blockBytes
      · rw [if_pos hlt, if_pos (by rw [Nat.succ_mul]; omega)]
      · rw [if_neg hlt, if_neg (by rw [Nat.succ_mul]; omega)]

theorem PermutesBlock.size_eachBlock (h : PermutesBlock step σ) (bytes : ByteArray) :
    (eachBlock step bytes).size = bytes.size :=
  h.size_foldl _ bytes

/-- **A step on every block**: every byte of a whole block is read from its place `σ` within
the block, and the bytes after the last whole block stay. -/
theorem PermutesBlock.getElem?_eachBlock (h : PermutesBlock step σ) (bytes : ByteArray)
    (k : Nat) :
    (eachBlock step bytes)[k]? =
      if k < bytes.size / blockBytes * blockBytes then
        bytes[k / blockBytes * blockBytes + σ (k % blockBytes)]?
      else bytes[k]? :=
  h.getElem?_foldl (Nat.le_refl _) k

end EachBlock

/-- Swapping index bytes 4 and 5 of a block moves them within the block. -/
theorem permutesBlock_swapIndexPair :
    PermutesBlock swapIndexPair fun j => if j = 4 then 5 else if j = 5 then 4 else j where
  size_eq := fun acc p => size_swapBytes acc _ _
  lt := fun j hj => by
    simp only [blockBytes] at hj ⊢
    split_ifs <;> omega
  getElem?_eq := fun acc p hp k => by
    have hb : blockBytes = 8 := rfl
    rw [swapIndexPair, getElem?_swapBytes (by omega : p + 4 < acc.size)
      (by omega : p + 5 < acc.size)]
    by_cases hin : p ≤ k ∧ k < p + blockBytes
    · -- a byte of the block: its place `j` in the block says where it reads from
      obtain ⟨j, hj, rfl⟩ : ∃ j, j < 8 ∧ k = p + j := ⟨k - p, by omega, by omega⟩
      rw [if_pos hin, Nat.add_sub_cancel_left]
      interval_cases j <;> simp
    · rw [if_neg hin, if_neg (by omega), if_neg (by omega)]

/-- Reversing the four index bytes of a block moves them within the block. -/
theorem permutesBlock_reverseIndexRows :
    PermutesBlock reverseIndexRows fun j => if 4 ≤ j then 11 - j else j where
  size_eq := fun acc p => by simp only [reverseIndexRows, size_swapBytes]
  lt := fun j hj => by
    simp only [blockBytes] at hj ⊢
    split_ifs <;> omega
  getElem?_eq := fun acc p hp k => by
    have hb : blockBytes = 8 := rfl
    have h4 : p + 4 < acc.size := by omega
    have h7 : p + 7 < acc.size := by omega
    have h5 : p + 5 < (swapBytes acc (p + 4) (p + 7)).size := by rw [size_swapBytes]; omega
    have h6 : p + 6 < (swapBytes acc (p + 4) (p + 7)).size := by rw [size_swapBytes]; omega
    rw [reverseIndexRows, getElem?_swapBytes h5 h6]
    simp only [getElem?_swapBytes h4 h7]
    by_cases hin : p ≤ k ∧ k < p + blockBytes
    · -- the outer pair 4, 7 trades first, then the inner pair 5, 6
      obtain ⟨j, hj, rfl⟩ : ∃ j, j < 8 ∧ k = p + j := ⟨k - p, by omega, by omega⟩
      rw [if_pos hin, Nat.add_sub_cancel_left]
      interval_cases j <;> simp
    · rw [if_neg hin]
      simp only [show ¬k = p + 5 by omega, show ¬k = p + 6 by omega, show ¬k = p + 4 by omega,
        show ¬k = p + 7 by omega, if_false]

/-! ## Where a flipped byte comes from -/

theorem getElem?_flipLevelBytes (data : ByteArray) (level : MipLevel) (q : Nat) :
    (flipLevelBytes data level)[q]? =
      if q < level.len then some ((data[level.offset + sourceByte level q]?).getD 0)
      else none := by
  rw [flipLevelBytes, ByteArray.getElem?_mk, Array.getElem?_ofFn]
  simp

theorem sourceRow_lt (height row : Nat) (h : row < 4) : sourceRow height row < 4 := by
  unfold sourceRow
  split_ifs <;> omega

theorem blocks_pos (texels : Nat) : 0 < blocks texels := by
  simp [blocks]

/-- Byte `j` of the block at block row `row` and block column `col` comes from byte
`j` of the block in the mirrored block row, or for an index byte from the mirrored texel
row. -/
theorem sourceByte_block (level : MipLevel) {row col j : Nat} (hcol : col < blocks level.width)
    (hj : j < blockBytes) :
    sourceByte level ((row * blocks level.width + col) * blockBytes + j) =
      ((blocks level.height - 1 - row) * blocks level.width + col) * blockBytes +
        (if j < 4 then j else 4 + sourceRow level.height (j - 4)) := by
  -- the byte's block and place in it, then the block's row and column
  obtain ⟨hblock, hbyte⟩ := rowMajor_div_mod (row * blocks level.width + col) hj
  obtain ⟨hrow, hcol'⟩ := rowMajor_div_mod row hcol
  simp only [sourceByte, hblock, hbyte, hrow, hcol']

/-- The block at block row `row` and block column `col` of a level `across` blocks wide and
`rows` blocks high is one of its blocks. -/
theorem blockIndex_lt {across rows row col : Nat} (hrow : row < rows) (hcol : col < across) :
    row * across + col < across * rows := by
  calc row * across + col
      < row * across + across := by omega
    _ = (row + 1) * across := by rw [Nat.succ_mul]
    _ ≤ rows * across := Nat.mul_le_mul_right _ hrow
    _ = across * rows := Nat.mul_comm _ _

/-- The byte of a block that byte `j` of its flipped block comes from is a byte of a
block. -/
theorem sourceByteInBlock_lt (height : Nat) {j : Nat} (hj : j < blockBytes) :
    (if j < 4 then j else 4 + sourceRow height (j - 4)) < blockBytes := by
  simp only [blockBytes] at hj ⊢
  by_cases hlow : j < 4
  · rw [if_pos hlow]
    exact hj
  · rw [if_neg hlow]
    have := sourceRow_lt height (j - 4) (by omega)
    omega

/-- A flipped byte of a level comes from inside the level. -/
theorem sourceByte_lt {level : MipLevel} (hlen : level.len = levelLength level.width level.height)
    {p : Nat} (hp : p < level.len) : sourceByte level p < level.len := by
  have hacross := blocks_pos level.width
  have hrows := blocks_pos level.height
  have hbyte := sourceByteInBlock_lt level.height (Nat.mod_lt p (show 0 < blockBytes by decide))
  dsimp only [sourceByte]
  rw [hlen, levelLength] at hp ⊢
  generalize blocks level.width = across at hacross hp ⊢
  generalize blocks level.height = rows at hrows hp ⊢
  -- the block of byte `p`, with its block row and column
  have hblock : p / blockBytes < across * rows := by
    simp only [blockBytes] at hp ⊢
    omega
  generalize p / blockBytes = block at hblock ⊢
  have hrow : block / across < rows := by
    rw [Nat.div_lt_iff_lt_mul hacross, Nat.mul_comm]
    exact hblock
  have hcol : block % across < across := Nat.mod_lt _ hacross
  generalize block / across = row at hrow ⊢
  generalize block % across = col at hcol ⊢
  -- the mirrored block is a block of the level
  have hmirror := blockIndex_lt (show rows - 1 - row < rows by omega) hcol
  simp only [blockBytes] at hbyte ⊢
  omega

/-- A byte of a level is byte `j` of the block at some block row and block column. -/
theorem exists_block_of_lt {level : MipLevel}
    (hlen : level.len = levelLength level.width level.height) {p : Nat} (hp : p < level.len) :
    ∃ row col j, row < blocks level.height ∧ col < blocks level.width ∧ j < blockBytes ∧
      p = (row * blocks level.width + col) * blockBytes + j := by
  have hacross := blocks_pos level.width
  rw [hlen, levelLength] at hp
  refine ⟨p / blockBytes / blocks level.width, p / blockBytes % blocks level.width, p % blockBytes,
    ?_, Nat.mod_lt _ hacross, Nat.mod_lt _ (by decide), ?_⟩
  · rw [Nat.div_lt_iff_lt_mul hacross, Nat.div_lt_iff_lt_mul (by decide)]
    simp only [blockBytes] at hp ⊢
    rw [Nat.mul_comm (blocks level.height)]
    exact hp
  · rw [Nat.div_add_mod', Nat.div_add_mod']

/-! ## The loops flip a level -/

theorem sourceRow_one (row : Nat) : sourceRow 1 row = row := by
  simp [sourceRow]

theorem sourceRow_two (row : Nat) : sourceRow 2 row = if row < 2 then 1 - row else row := by
  simp [sourceRow]

/-- For height 1 the byte of a block read is the byte itself. -/
theorem sourceByteInBlock_one (j : Nat) :
    (if j < 4 then j else 4 + sourceRow 1 (j - 4)) = j := by
  rw [sourceRow_one]
  split <;> omega

/-- For height 2 the index bytes 4 and 5 trade places. -/
theorem sourceByteInBlock_two (j : Nat) :
    (if j < 4 then j else 4 + sourceRow 2 (j - 4)) =
      if j = 4 then 5 else if j = 5 then 4 else j := by
  rw [sourceRow_two]
  split_ifs <;> omega

/-- For a multiple of 4 the four index bytes are reversed. -/
theorem sourceByteInBlock_of_mod_four {height j : Nat} (hmod : height % 4 = 0) (hj : j < blockBytes) :
    (if j < 4 then j else 4 + sourceRow height (j - 4)) = if 4 ≤ j then 11 - j else j := by
  simp only [blockBytes] at hj
  unfold sourceRow
  split_ifs <;> omega

/-- The loops keep the size of the level. -/
theorem size_flipDxt1Level {bytes out : ByteArray} {width height : Nat}
    (h : flipDxt1Level bytes width height = .ok out) : out.size = bytes.size := by
  unfold flipDxt1Level at h
  split_ifs at h
  · cases h
    rfl
  · cases h
    exact permutesBlock_swapIndexPair.size_eachBlock bytes
  · cases h
    rw [permutesBlock_reverseIndexRows.size_eachBlock, size_foldl_swapBlockRows]

/-- The byte a flip moves to byte `j` of the block at block row `row` and column `col`: the
loops of `flipDxt1Level` read it where `sourceByte` says. -/
theorem getElem?_flipDxt1Level {bytes out : ByteArray} {width height : Nat}
    (hsize : bytes.size = levelLength width height)
    (h : flipDxt1Level bytes width height = .ok out) {row col j : Nat}
    (hrow : row < blocks height) (hcol : col < blocks width) (hj : j < blockBytes) :
    out[(row * blocks width + col) * blockBytes + j]? =
      bytes[((blocks height - 1 - row) * blocks width + col) * blockBytes +
        (if j < 4 then j else 4 + sourceRow height (j - 4))]? := by
  -- the byte lies in a whole block of the level
  have hin : (row * blocks width + col) * blockBytes + j < bytes.size / blockBytes * blockBytes := by
    have hblock := blockIndex_lt hrow hcol
    rw [hsize, levelLength, Nat.mul_div_cancel _ (by decide : 0 < blockBytes)]
    simp only [blockBytes] at hj ⊢
    omega
  obtain ⟨hdiv, hmod⟩ := rowMajor_div_mod (row * blocks width + col) hj
  unfold flipDxt1Level at h
  by_cases h1 : height = 1
  · -- one block row, nothing moves
    subst h1
    rw [if_pos rfl] at h
    cases h
    have hrows : blocks 1 = 1 := rfl
    rw [sourceByteInBlock_one, hrows, show row = 0 by omega]
  by_cases h2 : height = 2
  · -- one block row, index bytes 4 and 5 trade places
    subst h2
    rw [if_neg h1, if_pos rfl] at h
    cases h
    have hrows : blocks 2 = 1 := rfl
    rw [permutesBlock_swapIndexPair.getElem?_eachBlock, if_pos hin, hdiv, hmod,
      sourceByteInBlock_two, hrows, show row = 0 by omega]
  by_cases h4 : height % 4 = 0
  · -- block rows trade places, then every block's index bytes are reversed
    rw [if_neg h1, if_neg h2, if_pos h4] at h
    cases h
    have hrows : bytes.size = blocks height * (blocks width * blockBytes) := by
      rw [hsize, levelLength, Nat.mul_comm (blocks width), Nat.mul_assoc]
    have hσ := permutesBlock_reverseIndexRows.lt j hj
    rw [permutesBlock_reverseIndexRows.getElem?_eachBlock,
      size_foldl_swapBlockRows, if_pos hin, hdiv, hmod,
      sourceByteInBlock_of_mod_four h4 hj,
      show (row * blocks width + col) * blockBytes + (if 4 ≤ j then 11 - j else j) =
        row * (blocks width * blockBytes) + (col * blockBytes + (if 4 ≤ j then 11 - j else j)) by
          ring,
      getElem?_swapAllRows hrows hrow (by simp only [blockBytes] at hσ ⊢; omega)]
    congr 1
    ring
  · rw [if_neg h1, if_neg h2, if_neg h4] at h
    cases h

/-- **The swap loops flip a level as `flipLevelBytes` says.** For every width, every height
that can flip and bytes the size of the level, `flipDxt1Level` succeeds with every byte read
from its mirrored place. -/
theorem flipDxt1Level_eq_flipLevelBytes {bytes : ByteArray} {width height : Nat}
    (hflip : flippable height = true) (hsize : bytes.size = levelLength width height) :
    flipDxt1Level bytes width height =
      .ok (flipLevelBytes bytes ⟨width, height, 0, bytes.size⟩) := by
  obtain ⟨out, h⟩ := exists_flipDxt1Level_eq_ok bytes width hflip
  rw [h]
  congr 1
  apply ByteArray.eq_of_getElem?_eq
  intro p
  have hlen : (⟨width, height, 0, bytes.size⟩ : MipLevel).len =
      levelLength width height := hsize
  rw [getElem?_flipLevelBytes]
  by_cases hp : p < bytes.size
  · -- byte `p` is byte `j` of a block, which both read from its mirrored place
    obtain ⟨row, col, j, hrow, hcol, hj, rfl⟩ := exists_block_of_lt hlen hp
    have hsrc := sourceByte_lt hlen hp
    rw [if_pos hp, Nat.zero_add, ByteArray.getD_getElem?_of_lt hsrc,
      getElem?_flipDxt1Level hsize h hrow hcol hj, sourceByte_block _ hcol hj]
  · -- past the level, neither has a byte
    rw [if_neg hp, getElem?_neg out p (by rw [size_flipDxt1Level h]; exact hp)]

/-- **Flipping a level through its slice of the data** is `flipLevel`, for a level that lies
inside the data, has the length of its blocks and a height that can flip. -/
theorem flipLevelInPlace_eq_flipLevel {data : ByteArray} {level : MipLevel}
    (h : level.offset + level.len ≤ data.size)
    (hlen : level.len = levelLength level.width level.height)
    (hflip : flippable level.height = true) :
    flipLevelInPlace data level = .ok (flipLevel data level) := by
  have hslice : (data.extract level.offset (level.offset + level.len)).size = level.len := by
    simp only [ByteArray.size_extract]
    omega
  -- the slice flips to the level's flipped bytes: reading the slice is reading the data
  have hbytes : flipLevelBytes (data.extract level.offset (level.offset + level.len))
      ⟨level.width, level.height, 0, (data.extract level.offset (level.offset + level.len)).size⟩ =
      flipLevelBytes data level := by
    apply ByteArray.eq_of_getElem?_eq
    intro q
    rw [getElem?_flipLevelBytes, getElem?_flipLevelBytes]
    dsimp only
    rw [hslice]
    by_cases hq : q < level.len
    · have hsrc : sourceByte ⟨level.width, level.height, 0, level.len⟩ q < level.len :=
        sourceByte_lt hlen hq
      rw [if_pos hq, if_pos hq, Nat.zero_add, ByteArray.getElem?_extract _ (by omega)]
      rfl
    · rw [if_neg hq, if_neg hq]
  rw [flipLevelInPlace, flipDxt1Level_eq_flipLevelBytes hflip (by rw [hslice, hlen]), hbytes]
  rfl

end PlanetTiles.Dds

