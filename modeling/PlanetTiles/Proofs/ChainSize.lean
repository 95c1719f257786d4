import Mathlib
import PlanetTiles.Proofs.SurfaceLayout

/-!
# How long a mip chain is, and how many bytes it holds

A chain asked for `count` levels of a `width × height` surface keeps that count held between 1
and the full chain, whose length is the bit length of the larger side. Level `j` is the top
halved `j` times, each side held at 1, and lies right after the levels before it.

The chain reaches 1 × 1 exactly when the count reaches the full chain, and also for a
1 × 1 surface asked for no level at all, since a chain always keeps its top level.

Its bytes stay below `2^64` for sides below `2^32`. The top level alone can take `2^63` bytes, so
a level-by-level bound does not do; but each level has at most half the blocks of the one before
across and down, hence about a quarter of its bytes, and the whole chain stays below
`4/3 · 2^63` plus eight bytes a level (`three_mul_chainLength_le`).

* `fullChainLength_eq_size` — the full chain is the bit length of the larger side.
* `ends_one_by_one_iff` — when the chain reaches 1 × 1.
* `mipChain_shape` — **the shape of every mip chain**: its length, each level in closed form,
  when it ends at 1 × 1, and its bytes below `2^64`.
-/

namespace PlanetTiles.Dds

/-! ## The full chain -/

theorem chainLength_eq_sum (levels : List MipLevel) :
    chainLength levels = (levels.map (·.len)).sum := by
  induction levels with
  | nil => rfl
  | cons l levels ih => simp [ih]

/-- The full chain has as many levels as the larger side has bits. -/
theorem fullChainLength_eq_size {width : Nat} (height : Nat) (hw : 0 < width) :
    fullChainLength width height = (max width height).size := by
  have hM : max 1 (max width height) = max width height := by omega
  have hne : max width height ≠ 0 := by omega
  unfold fullChainLength
  rw [hM]
  apply Nat.le_antisymm
  · -- the larger side has a bit at position `log2`
    exact Nat.succ_le_of_lt (Nat.lt_size.mpr (Nat.log2_self_le hne))
  · -- and none above it
    exact Nat.size_le.mpr Nat.lt_log2_self

/-- The full chain has at most `k + 1` levels exactly when both sides are below `2^(k+1)`. -/
theorem fullChainLength_le_iff {width : Nat} (height : Nat) (hw : 0 < width) (k : Nat) :
    fullChainLength width height ≤ k + 1 ↔ max width height < 2 ^ (k + 1) := by
  have hM : max 1 (max width height) = max width height := by omega
  unfold fullChainLength
  rw [hM, Nat.add_le_add_iff_right, ← Nat.lt_succ_iff, Nat.log2_lt (by omega)]

/-- A side halved `k` times is held at 1 exactly when it is below `2^(k+1)`. -/
theorem max_one_shiftRight_eq_one_iff (side k : Nat) :
    max 1 (side >>> k) = 1 ↔ side < 2 ^ (k + 1) := by
  rw [Nat.shiftRight_eq_div_pow, Nat.pow_succ]
  have hdiv := Nat.div_lt_iff_lt_mul (x := side) (y := 2) (Nat.two_pow_pos k)
  rw [Nat.mul_comm 2] at hdiv
  omega

/-! ## The last level -/

/-- The count a chain keeps is at least one level. -/
theorem clampCount_pos (width height count : Nat) : 0 < clampCount width height count := by
  simp [clampCount]

/-- The last level of a chain is the top halved one time fewer than the chain has levels. -/
theorem getLast?_mipChain {width height : Nat} (count : Nat) (hw : 0 < width) (hh : 0 < height) :
    (mipChain width height count).getLast?.map (fun l => (l.width, l.height)) =
      some (max 1 (width >>> (clampCount width height count - 1)),
        max 1 (height >>> (clampCount width height count - 1))) := by
  have hc := clampCount_pos width height count
  rw [List.getLast?_eq_getElem?, length_mipChain, mipChain,
    chainFrom_getElem hw hh (by omega)]
  rfl

/-- **When the chain reaches 1 × 1**: exactly when the full chain is asked for, or the surface is
1 × 1, whose one level a chain keeps even when no level is asked for. -/
theorem ends_one_by_one_iff {width height : Nat} (count : Nat) (hw : 0 < width)
    (hh : 0 < height) :
    (mipChain width height count).getLast?.map (fun l => (l.width, l.height)) = some (1, 1) ↔
      fullChainLength width height ≤ count ∨ (width = 1 ∧ height = 1) := by
  -- the chain has `k + 1` levels, the last of them the top halved `k` times
  obtain ⟨k, hk⟩ : ∃ k, clampCount width height count = k + 1 :=
    ⟨clampCount width height count - 1, by have := clampCount_pos width height count; omega⟩
  -- that level is 1 × 1 exactly when the full chain has at most `k + 1` levels
  have hlast : max 1 (width >>> k) = 1 ∧ max 1 (height >>> k) = 1 ↔
      fullChainLength width height ≤ k + 1 := by
    rw [max_one_shiftRight_eq_one_iff, max_one_shiftRight_eq_one_iff,
      fullChainLength_le_iff height hw, max_lt_iff]
  -- and a full chain of one level is a 1 × 1 surface
  have hone : fullChainLength width height ≤ 1 ↔ width = 1 ∧ height = 1 := by
    rw [fullChainLength_le_iff height hw 0]
    omega
  rw [getLast?_mipChain count hw hh, hk, Nat.add_sub_cancel, Option.some.injEq, Prod.mk.injEq,
    hlast, ← hone]
  simp only [clampCount] at hk
  omega

/-! ## The bytes of a chain -/

/-- Halving a side at most `2^a` blocks across leaves it at most `2^(a-1)` blocks across. -/
theorem blocks_halve_le {side a : Nat} (h : blocks side ≤ 2 ^ a) :
    blocks (halve side) ≤ 2 ^ (a - 1) := by
  simp only [blocks, halve] at h ⊢
  cases a with
  | zero =>
    simp only [Nat.pow_zero] at h ⊢
    omega
  | succ a =>
    rw [Nat.pow_succ] at h
    rw [Nat.add_sub_cancel]
    omega

/-- A level at most `2^a` blocks across and down holds at most `8 · 4^a` bytes. -/
theorem levelLength_le {width height a : Nat} (hw : blocks width ≤ 2 ^ a)
    (hh : blocks height ≤ 2 ^ a) : levelLength width height ≤ 8 * 4 ^ a := by
  have hsq : blocks width * blocks height ≤ 4 ^ a := by
    calc blocks width * blocks height ≤ 2 ^ a * 2 ^ a := Nat.mul_le_mul hw hh
      _ = 4 ^ a := by rw [← Nat.mul_pow]
  unfold levelLength blockBytes
  omega

/-- **Each level is about a quarter of the one before.** A chain whose top level is at most
`2^a` blocks across and down holds at most `32/3 · 4^a` bytes, and eight more for each level:
the level at `2^a` blocks takes `8 · 4^a`, and the rest of the chain, from at most `2^(a-1)`
blocks, a quarter of the bound. -/
theorem three_mul_chainLength_le {a : Nat} (width height offset count : Nat)
    (hw : blocks width ≤ 2 ^ a) (hh : blocks height ≤ 2 ^ a) :
    3 * chainLength (chainFrom width height offset count) ≤ 32 * 4 ^ a + 24 * count := by
  induction count generalizing width height offset a with
  | zero => simp
  | succ count ih =>
    have hrest := ih (a := a - 1) (halve width) (halve height) (offset + levelLength width height)
      (blocks_halve_le hw) (blocks_halve_le hh)
    have hlen := levelLength_le hw hh
    simp only [chainFrom_succ, chainLength_cons]
    cases a with
    | zero =>
      simp only [Nat.pow_zero, Nat.zero_sub] at hrest hlen ⊢
      omega
    | succ a =>
      rw [Nat.add_sub_cancel] at hrest
      rw [Nat.pow_succ] at hlen ⊢
      omega

/-- Sides below `2^32` leave a chain of at most 32 levels. -/
theorem clampCount_le_32 {width height : Nat} (count : Nat) (hw : 0 < width)
    (hw32 : width < 2 ^ 32) (hh32 : height < 2 ^ 32) : clampCount width height count ≤ 32 := by
  have hfull : fullChainLength width height ≤ 31 + 1 :=
    (fullChainLength_le_iff height hw 31).mpr (max_lt hw32 hh32)
  simp only [clampCount]
  omega

/-- The bytes of a chain of sides below `2^32` number fewer than `2^64`. -/
theorem chainLength_mipChain_lt {width height : Nat} (count : Nat) (hw : 0 < width)
    (hw32 : width < 2 ^ 32) (hh32 : height < 2 ^ 32) :
    chainLength (mipChain width height count) < 2 ^ 64 := by
  -- the top level is at most `2^30` blocks across and down
  have hbw : blocks width ≤ 2 ^ 30 := by simp only [blocks]; omega
  have hbh : blocks height ≤ 2 ^ 30 := by simp only [blocks]; omega
  have hcount := clampCount_le_32 count hw hw32 hh32
  have hbound := three_mul_chainLength_le width height 0 (clampCount width height count) hbw hbh
  rw [mipChain]
  omega

/-! ## The shape of a chain -/

/-- The shape of the chain `levels` of a `width × height` surface asked for `count` levels. -/
structure ChainShape (width height count : Nat) (levels : List MipLevel) : Prop where
  /-- the full chain has as many levels as the larger side has bits -/
  fullChainLength_eq : fullChainLength width height = (max width height).size
  /-- the chain has the count asked for, held between 1 and the full chain -/
  length_eq : levels.length = max 1 (min count (fullChainLength width height))
  /-- level `j` is the top halved `j` times, each side held at 1, lies right after the levels
  before it, and takes 8 bytes for each 4 × 4 block, at least one across and down -/
  getElem_eq : ∀ j (hj : j < levels.length), levels[j] =
    ⟨max 1 (width >>> j), max 1 (height >>> j), ((levels.take j).map (·.len)).sum,
      max 1 ((max 1 (width >>> j) + 3) / 4) * max 1 ((max 1 (height >>> j) + 3) / 4) * 8⟩
  /-- the chain ends at 1 × 1 exactly when the full chain is asked for, or the surface is 1 × 1 -/
  ends_one_iff : levels.getLast?.map (fun l => (l.width, l.height)) = some (1, 1) ↔
    fullChainLength width height ≤ count ∨ (width = 1 ∧ height = 1)
  /-- the bytes of all levels number fewer than `2^64` -/
  total_lt : (levels.map (·.len)).sum < 2 ^ 64
  /-- and every level lies inside them -/
  offset_add_len_le : ∀ l ∈ levels, l.offset + l.len ≤ (levels.map (·.len)).sum

/-- **The shape of every mip chain.** For all sides from 1 to `2^32 - 1` and every count asked
for, the chain has that count held between 1 and the full chain, the bit length of the larger
side; level `j` is the top halved `j` times with each side held at 1, starts where the levels
before it end and takes 8 bytes per 4 × 4 block; the chain ends at 1 × 1 exactly when the full
chain is asked for or the surface is 1 × 1; and its bytes, each level's offset and length among
them, stay below `2^64`, also for sides of `2^32 - 1`. -/
theorem mipChain_shape {width height : Nat} (count : Nat) (hw : 0 < width) (hh : 0 < height)
    (hw32 : width < 2 ^ 32) (hh32 : height < 2 ^ 32) :
    ChainShape width height count (mipChain width height count) where
  fullChainLength_eq := fullChainLength_eq_size height hw
  length_eq := length_mipChain width height count
  getElem_eq := by
    intro j hj
    have hj' : j < clampCount width height count := by rwa [length_mipChain] at hj
    have hlevel : (chainFrom width height 0 (clampCount width height count))[j]? = _ :=
      chainFrom_getElem hw hh hj'
    rw [← mipChain, List.getElem?_eq_getElem hj, Option.some.injEq, Nat.zero_add,
      chainLength_eq_sum] at hlevel
    exact hlevel
  ends_one_iff := ends_one_by_one_iff count hw hh
  total_lt := by
    rw [← chainLength_eq_sum]
    exact chainLength_mipChain_lt count hw hw32 hh32
  offset_add_len_le := by
    intro l hl
    obtain ⟨k, hk, rfl⟩ := List.getElem_of_mem hl
    have := offset_add_len_le_of_getElem?_chainFrom (List.getElem?_eq_getElem hk)
    rw [Nat.zero_add, chainLength_eq_sum] at this
    exact this

/-- The chain of the largest surface, `2^32 - 1` texels square, asked for every level. -/
theorem mipChain_shape_largest :
    0 < 4294967295 ∧ 4294967295 < 2 ^ 32 ∧
      ChainShape 4294967295 4294967295 32 (mipChain 4294967295 4294967295 32) :=
  ⟨by decide, by decide, mipChain_shape 32 (by decide) (by decide) (by decide) (by decide)⟩

example : (mipChain 512 512 10).map (·.width) = [512, 256, 128, 64, 32, 16, 8, 4, 2, 1] := by
  decide

/-- A 1 × 1 surface asked for no level still keeps its one level: its chain ends at 1 × 1 with
a count below the full chain. -/
theorem mipChain_one_by_one_count_zero :
    (mipChain 1 1 0).getLast?.map (fun l => (l.width, l.height)) = some (1, 1) ∧
      ¬ fullChainLength 1 1 ≤ 0 := by
  decide

end PlanetTiles.Dds
