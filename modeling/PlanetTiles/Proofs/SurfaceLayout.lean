import PlanetTiles.Proofs.SurfaceFlip

/-!
# Where the bytes of a surface lie

Every surface a caller can hold lays its levels out the same way: level `j` is the top size
halved `j` times, each side held at 1, it starts where the levels before it end and it is
as long as a level of its size; there is at least one level and no more than the full
chain, and the data is exactly the bytes of the levels. `Surface.Chained` says this through
`chainFrom`; this module reads it off level by level.

Every slice the surface takes then lies inside its data: a level's bytes, the block of a
texel of the top level, the top level that a written file declares, and each level a flip
keeps, whose flipped bytes are read from inside the level itself.

* `chainFrom_getElem` — level `j` of a chain, in closed form.
* `Surface.Reachable.laidOut` — **the layout of every surface a caller can hold**, and the
  slices it makes safe.
-/

namespace PlanetTiles.Dds

/-! ## Level `j` of a chain -/

/-- Halving a side that is already halved `j` times, held at 1, is halving it `j + 1` times. -/
theorem max_one_halve_shiftRight (side j : Nat) :
    max 1 (halve side >>> j) = max 1 (side >>> (j + 1)) := by
  have hhalf : side >>> (j + 1) = (side / 2) >>> j := by
    rw [Nat.add_comm, Nat.shiftRight_add, Nat.shiftRight_eq_div_pow side 1, Nat.pow_one]
  rw [hhalf, halve]
  by_cases hside : side / 2 = 0
  · -- a side of 1 stays 1
    have hone : 1 >>> j ≤ 1 := by
      rw [Nat.shiftRight_eq_div_pow]
      exact Nat.div_le_self 1 _
    rw [hside, Nat.zero_shiftRight, Nat.max_eq_left (Nat.zero_le 1)]
    exact Nat.max_eq_left hone
  · rw [Nat.max_eq_right (show 1 ≤ side / 2 by omega)]

/-- **Level `j` of a chain**: its sides are the top sides halved `j` times, each held at 1; it
starts where the levels before it end, and is as long as a level of its size. -/
theorem chainFrom_getElem {width height offset count j : Nat} (hw : 0 < width)
    (hh : 0 < height) (hj : j < count) :
    (chainFrom width height offset count)[j]? =
      some ⟨max 1 (width >>> j), max 1 (height >>> j),
        offset + chainLength ((chainFrom width height offset count).take j),
        levelLength (max 1 (width >>> j)) (max 1 (height >>> j))⟩ := by
  induction count generalizing width height offset j with
  | zero => omega
  | succ count ih =>
    cases j with
    | zero =>
      simp [Nat.max_eq_right (Nat.succ_le_of_lt hw), Nat.max_eq_right (Nat.succ_le_of_lt hh)]
    | succ j =>
      -- the levels after the first are the chain of the halved top
      have hw' : 0 < halve width := by simp [halve]
      have hh' : 0 < halve height := by simp [halve]
      rw [chainFrom_succ, List.getElem?_cons_succ, ih hw' hh' (by omega),
        max_one_halve_shiftRight, max_one_halve_shiftRight]
      simp [Nat.add_assoc]

/-! ## The layout of a surface -/

namespace Surface

/-- The layout of a surface's levels and bytes, and the slices it keeps inside the data. -/
structure LaidOut (s : Surface) : Prop where
  /-- there is a level -/
  levels_ne_nil : s.levels ≠ []
  /-- and no more than the full chain -/
  length_le : s.levels.length ≤ fullChainLength s.width s.height
  /-- level `j`: the top sides halved `j` times and held at 1, right after the levels before
  it, as long as a level of its size -/
  getElem?_levels : ∀ j < s.levels.length, s.levels[j]? =
    some ⟨max 1 (s.width >>> j), max 1 (s.height >>> j), chainLength (s.levels.take j),
      levelLength (max 1 (s.width >>> j)) (max 1 (s.height >>> j))⟩
  /-- the data is the bytes of all levels -/
  size_data : s.data.size = chainLength s.levels
  /-- so every level has its bytes, and nothing else does -/
  levelData_isSome : ∀ i, (s.levelData i).isSome ↔ i < s.levels.length
  /-- every texel of the top level is decoded from a block inside the data -/
  texel_block_le : ∀ x < s.width, ∀ y < s.height,
    ((y / 4) * blocks s.width + x / 4 + 1) * blockBytes ≤ s.data.size
  /-- a written file finds the top level, of the surface's own size -/
  head?_levels : s.levels.head? = some ⟨s.width, s.height, 0, levelLength s.width s.height⟩
  /-- a flip that goes ahead flips only levels that can flip, each inside the data it
  keeps, and reads every flipped byte from inside the same level -/
  flip_in_bounds : ∀ t, s.flipVertical = .ok t → ∀ level ∈ t.levels,
    flippable level.height = true ∧ level.offset + level.len ≤ t.data.size ∧
      ∀ p < level.len, sourceByte level p < level.len

variable {s : Surface}

theorem Chained.getElem?_levels (hs : s.Chained) {j : Nat} (hj : j < s.levels.length) :
    s.levels[j]? =
      some ⟨max 1 (s.width >>> j), max 1 (s.height >>> j), chainLength (s.levels.take j),
        levelLength (max 1 (s.width >>> j)) (max 1 (s.height >>> j))⟩ := by
  have h : (chainFrom s.width s.height 0 s.levels.length)[j]? = _ :=
    chainFrom_getElem hs.width_pos hs.height_pos hj
  rw [← hs.levels_eq, Nat.zero_add] at h
  exact h

theorem Chained.levelData_isSome (hs : s.Chained) (i : Nat) :
    (s.levelData i).isSome ↔ i < s.levels.length := by
  constructor
  · intro h
    cases hi : s.levels[i]? with
    | none => simp [levelData, hi] at h
    | some level => exact (List.getElem?_eq_some_iff.mp hi).1
  · intro hi
    have hlevel := List.getElem?_eq_getElem hi
    simp [levelData, hlevel, hs.offset_add_len_le hlevel]

/-- The block of a texel of the top level lies inside the top level, hence inside the data. -/
theorem Chained.texel_block_le (hs : s.Chained) {x y : Nat} (hx : x < s.width)
    (hy : y < s.height) : ((y / 4) * blocks s.width + x / 4 + 1) * blockBytes ≤ s.data.size := by
  have hblock := blockIndex_lt (div_four_lt_blocks hy) (div_four_lt_blocks hx)
  have htop := hs.offset_add_len_le hs.getElem?_levels_zero
  dsimp only [levelLength] at htop
  simp only [blockBytes] at htop ⊢
  omega

theorem Chained.head?_levels (hs : s.Chained) :
    s.levels.head? = some ⟨s.width, s.height, 0, levelLength s.width s.height⟩ := by
  rw [List.head?_eq_getElem?]
  exact hs.getElem?_levels_zero

/-- Every level a flip keeps can flip, lies inside the flipped data, and its flipped bytes
come from inside it. -/
theorem Chained.flip_in_bounds (hs : s.Chained) {t : Surface} (h : s.flipVertical = .ok t)
    {level : MipLevel} (hlevel : level ∈ t.levels) :
    flippable level.height = true ∧ level.offset + level.len ≤ t.data.size ∧
      ∀ p < level.len, sourceByte level p < level.len := by
  have ht := hs.flipVertical h
  obtain ⟨k, -, -, hall, rfl⟩ := flipVertical_eq_ok hs h
  obtain ⟨i, hi, hget⟩ := List.getElem_of_mem hlevel
  have hlen : level.len = levelLength level.width level.height :=
    (mem_chainFrom hlevel).1
  exact ⟨hall level hlevel, ht.offset_add_len_le (hget ▸ List.getElem?_eq_getElem hi),
    fun p hp => sourceByte_lt hlen hp⟩

theorem Chained.toLaidOut (hs : s.Chained) : s.LaidOut where
  levels_ne_nil := List.ne_nil_of_length_pos hs.length_pos
  length_le := hs.length_le
  getElem?_levels := fun _ hj => hs.getElem?_levels hj
  size_data := hs.size_eq
  levelData_isSome := hs.levelData_isSome
  texel_block_le := fun _ hx _ hy => hs.texel_block_le hx hy
  head?_levels := hs.head?_levels
  flip_in_bounds := fun _ h _ hlevel => hs.flip_in_bounds h hlevel

/-- **The layout of every surface a caller can hold.** A surface built from parts or read from
a file, then flipped or given another format any number of times, whether the flips
succeeded or not, holds at least one and at most the full chain of levels, level `j` being
the top size halved `j` times right after the levels before it, and exactly their bytes. So
every level has its bytes, every texel of the top level is decoded from inside the data, a
written file finds the top level, and a flip reads and writes only inside the levels it
keeps, all of which can flip. -/
theorem Reachable.laidOut (hs : s.Reachable) : s.LaidOut :=
  hs.chained.toLaidOut

/-- The sample surface of 4 by 12 texels built from parts with two levels. -/
theorem reachable_laidOut_sample : flipSample.Reachable ∧ flipSample.LaidOut :=
  have hs : flipSample.Reachable :=
    .ofParts (show Surface.ofParts 4 12 .dxt1Rgba 2 flipSampleBlocks = .ok flipSample from rfl)
  ⟨hs, Reachable.laidOut hs⟩

end Surface

end PlanetTiles.Dds
