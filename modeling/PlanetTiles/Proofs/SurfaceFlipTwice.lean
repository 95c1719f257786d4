import PlanetTiles.Proofs.SurfaceFlip

/-!
# Flipping a surface twice

A flip moves each byte of a level it keeps to `sourceByte level p`: the same byte of the block
in the mirrored block row, with the texel rows of an index byte reversed. Moving a byte twice
puts it back, for every size of level, since mirroring a block row twice and reversing texel
rows twice are both the identity. So flipping the levels of a chain twice gives back their
bytes.

A flip cuts the chain before its first level that cannot flip, and the flipped surface has only
levels that can, so a second flip keeps all of them and undoes the first.

* `sourceByte_sourceByte` — **the byte moves of a flip undo themselves**.
* `foldl_flipLevel_twice` — flipping the levels of a chain twice gives its bytes back.
* `Surface.flipVertical_twice` — **flipping twice**: a flip with a top level that cannot flip
  fails and changes nothing; any other flip, flipped again, gives the surface cut before its
  first level that cannot flip, byte for byte.
-/

namespace PlanetTiles.Dds

/-! ## The byte moves of a flip undo themselves -/

theorem sourceRow_sourceRow (height row : Nat) : sourceRow height (sourceRow height row) = row := by
  unfold sourceRow
  split_ifs <;> omega

/-- The byte of a block that byte `j` of its flipped block comes from, taken twice, is `j`. -/
theorem sourceByteInBlock_twice (height j : Nat) :
    (if (if j < 4 then j else 4 + sourceRow height (j - 4)) < 4 then
        (if j < 4 then j else 4 + sourceRow height (j - 4))
      else 4 + sourceRow height ((if j < 4 then j else 4 + sourceRow height (j - 4)) - 4)) = j := by
  by_cases hlow : j < 4
  · rw [if_pos hlow, if_pos hlow]
  · rw [if_neg hlow, if_neg (by omega), Nat.add_sub_cancel_left, sourceRow_sourceRow]
    omega

/-- **The byte moves of a flip undo themselves**: byte `p` of a level, moved twice, is back at
`p`, for every size. -/
theorem sourceByte_sourceByte {level : MipLevel}
    (hlen : level.len = levelLength level.width level.height) {p : Nat} (hp : p < level.len) :
    sourceByte level (sourceByte level p) = p := by
  obtain ⟨row, col, j, hrow, hcol, hj, rfl⟩ := exists_block_of_lt hlen hp
  rw [sourceByte_block level hcol hj, sourceByte_block level hcol (sourceByteInBlock_lt _ hj),
    sourceByteInBlock_twice]
  -- the block row mirrored twice is the block row
  have hmirror : blocks level.height - 1 - (blocks level.height - 1 - row) = row := by omega
  rw [hmirror]

/-! ## Flipping a chain twice -/

/-- Every byte of a chain after its start is a byte of one of its levels. -/
theorem exists_level_of_lt {width height offset count p : Nat} (hlo : offset ≤ p)
    (hhi : p < offset + chainLength (chainFrom width height offset count)) :
    ∃ (j : Nat) (level : MipLevel) (q : Nat),
      (chainFrom width height offset count)[j]? = some level ∧ q < level.len ∧
      p = level.offset + q := by
  induction count generalizing width height offset with
  | zero =>
    simp only [chainFrom_zero, chainLength_nil] at hhi
    omega
  | succ count ih =>
    simp only [chainFrom_succ, chainLength_cons] at hhi
    by_cases hfirst : p < offset + levelLength width height
    · -- a byte of the first level
      exact ⟨0, _, p - offset, rfl, by dsimp only; omega, by dsimp only; omega⟩
    · obtain ⟨j, level, q, hj, hq, hp⟩ :=
        @ih (halve width) (halve height) (offset + levelLength width height)
          (Nat.le_of_not_lt hfirst) (by omega)
      exact ⟨j + 1, level, q, by simpa using hj, hq, hp⟩

/-- **Flipping the levels of a chain twice gives the bytes back.** -/
theorem foldl_flipLevel_twice {width height count : Nat} {data : ByteArray}
    (hsize : data.size = chainLength (chainFrom width height 0 count)) :
    (chainFrom width height 0 count).foldl flipLevel
      ((chainFrom width height 0 count).foldl flipLevel data) = data := by
  have hsize' := size_foldl_flipLevel width height count 0 data (by omega)
  have hsize'' := size_foldl_flipLevel width height count 0
    ((chainFrom width height 0 count).foldl flipLevel data) (by omega)
  apply ByteArray.ext
  apply Array.ext_getElem?
  intro p
  change ((chainFrom width height 0 count).foldl flipLevel
      ((chainFrom width height 0 count).foldl flipLevel data))[p]? = data[p]?
  by_cases hp : p < data.size
  · -- byte `p` is byte `q` of a level, read from its mirror, which is read from `q` again
    have hin : p < 0 + chainLength (chainFrom width height 0 count) := by omega
    obtain ⟨j, level, q, hj, hq, rfl⟩ := exists_level_of_lt (Nat.zero_le p) hin
    have hlen := (mem_chainFrom (List.mem_of_getElem? hj)).1
    rw [getElem?_foldl_flipLevel (by omega) hj hq,
      getElem?_foldl_flipLevel (by omega) hj (sourceByte_lt hlen hq), sourceByte_sourceByte hlen hq]
  · rw [getElem?_neg (_ : ByteArray) p (by omega), getElem?_neg data p hp]

/-! ## Flipping a surface twice -/

namespace Surface

/-- A flip that goes ahead keeps the levels before the first that cannot flip. -/
theorem flipVertical_levels {s t : Surface} (h : s.flipVertical = .ok t) :
    t.levels = s.levels.takeWhile (flippable ·.height) := by
  obtain ⟨data, rfl⟩ := exists_data_of_flipVertical_eq_ok h
  rfl

/-- A surface whose levels can all flip keeps them all and flips each of them in place. -/
theorem flipVertical_of_forall_flippable {s : Surface} (hs : s.Chained)
    (hall : ∀ level ∈ s.levels, flippable level.height = true) :
    s.flipVertical = .ok { s with data := s.levels.foldl flipLevel s.data } := by
  have hkept : s.levels.takeWhile (flippable ·.height) = s.levels :=
    List.takeWhile_eq_self_iff.mpr hall
  -- the levels are the chain, which lies inside the data, so each flips in place
  have hrun : s.levels.foldlM flipLevelInPlace s.data = .ok (s.levels.foldl flipLevel s.data) := by
    have hsize : 0 + chainLength (chainFrom s.width s.height 0 s.levels.length) ≤ s.data.size := by
      rw [← hs.levels_eq, hs.size_eq, Nat.zero_add]
    have hflip : ∀ level ∈ chainFrom s.width s.height 0 s.levels.length,
        flippable level.height = true := by
      rw [← hs.levels_eq]
      exact hall
    have := foldlM_flipLevelInPlace_chainFrom _ _ _ 0 _ hsize hflip
    rwa [← hs.levels_eq] at this
  unfold flipVertical
  simp [hkept, hrun, Except.map]

/-- The surface cut before its first level that cannot flip: the levels before it, and their
bytes as they are. -/
def flippablePrefix (s : Surface) : Surface :=
  { s with
    levels := s.levels.takeWhile (flippable ·.height)
    data := s.data.extract 0 (chainLength (s.levels.takeWhile (flippable ·.height))) }

/-- **A second flip undoes the first**, on the levels the first kept: a chained surface whose
top level can flip flips, and flipping the result gives the surface cut before its first level
that cannot flip, byte for byte. -/
theorem flipVertical_ok_flipVertical {s : Surface} (hs : s.Chained)
    (htop : flippable s.height = true) :
    ∃ t, s.flipVertical = .ok t ∧ t.flipVertical = .ok s.flippablePrefix := by
  obtain ⟨t, h⟩ := flipVertical_ok hs htop
  refine ⟨t, h, ?_⟩
  have hkept := flipVertical_levels h
  obtain ⟨k, -, hkn, hall, rfl⟩ := flipVertical_eq_ok hs h
  dsimp only at hkept
  -- the second flip keeps every level the first kept, and flips its bytes back
  have hcut : (s.data.extract 0 (chainLength (chainFrom s.width s.height 0 k))).size =
      chainLength (chainFrom s.width s.height 0 k) := by
    have hle : chainLength (chainFrom s.width s.height 0 k) ≤ s.data.size := by
      rw [hs.size_eq, hs.levels_eq]
      exact chainLength_chainFrom_le hkn
    simp only [ByteArray.size_extract]
    omega
  rw [flipVertical_of_forall_flippable (hs.flipVertical h) hall]
  dsimp only
  rw [foldl_flipLevel_twice hcut, flippablePrefix, hkept]

/-- A chained surface whose levels can all flip is its own flippable prefix. -/
theorem Chained.flippablePrefix_eq {s : Surface} (hs : s.Chained)
    (hall : ∀ level ∈ s.levels, flippable level.height = true) : s.flippablePrefix = s := by
  have hkept : s.levels.takeWhile (flippable ·.height) = s.levels :=
    List.takeWhile_eq_self_iff.mpr hall
  simp only [flippablePrefix, hkept, ← hs.size_eq, ByteArray.extract_zero_size]

/-- The top level of a chained surface is as high as the surface. -/
theorem Chained.exists_levels_eq_cons {s : Surface} (hs : s.Chained) :
    ∃ rest, s.levels = ⟨s.width, s.height, 0, levelLength s.width s.height⟩ :: rest := by
  have htop := hs.getElem?_levels_zero
  cases hlevels : s.levels with
  | nil => simp [hlevels] at htop
  | cons top rest =>
    rw [hlevels, List.getElem?_cons_zero, Option.some.injEq] at htop
    exact ⟨rest, by rw [htop]⟩

/-- What flipping a surface once and twice does. -/
structure FlipsTwice (s : Surface) : Prop where
  /-- a top level that cannot flip fails the flip, naming the surface's height, and the surface
  stays as it was -/
  unflippable : 2 < s.height ∧ s.height % 4 ≠ 0 →
    s.flipVertical = .error (.unflippableHeight s.height) ∧ s.edit .flip = s
  /-- any other flip goes ahead, and a second flip goes ahead too and gives the levels before
  the first that cannot flip, with their bytes as they were -/
  twice : s.height ≤ 2 ∨ s.height % 4 = 0 →
    ∃ t, s.flipVertical = .ok t ∧ t.flipVertical = .ok s.flippablePrefix
  /-- so on a surface whose levels can all flip, flipping is an involution -/
  involution : (∀ level ∈ s.levels, flippable level.height = true) →
    ∃ t, s.flipVertical = .ok t ∧ t.flipVertical = .ok s

/-- **Flipping twice.** On a chained surface, a flip whose top level cannot flip fails before
it changes anything; any other flip goes ahead, and a second flip gives back the surface cut
before its first level that cannot flip, byte for byte. Flipping is therefore an involution on
surfaces whose levels can all flip. -/
theorem flipVertical_twice {s : Surface} (hs : s.Chained) : s.FlipsTwice where
  unflippable := fun hheight => by
    have hunflip : flippable s.height = false := by
      simp only [flippable, Bool.or_eq_false_iff, decide_eq_false_iff_not]
      omega
    obtain ⟨rest, hlevels⟩ := hs.exists_levels_eq_cons
    have herror : s.flipVertical = .error (.unflippableHeight s.height) :=
      (flipVertical_error s _).mpr ⟨⟨_, rest, hlevels, hunflip⟩, rfl⟩
    exact ⟨herror, edit_flip_of_error herror⟩
  twice := fun hheight => flipVertical_ok_flipVertical hs (by
    simp only [flippable, Bool.or_eq_true, decide_eq_true_eq]
    exact hheight)
  involution := fun hall => by
    obtain ⟨rest, hlevels⟩ := hs.exists_levels_eq_cons
    have htop : flippable s.height = true := hall _ (by rw [hlevels]; exact List.mem_cons_self)
    obtain ⟨t, h, htwice⟩ := flipVertical_ok_flipVertical hs htop
    rw [hs.flippablePrefix_eq hall] at htwice
    exact ⟨t, h, htwice⟩

theorem flipVertical_twice_sample : flipSample.Chained ∧ flipSample.FlipsTwice :=
  have hs : flipSample.Chained :=
    (Reachable.ofParts (show ofParts 4 12 .dxt1Rgba 2 flipSampleBlocks = .ok flipSample from rfl)).chained
  ⟨hs, flipVertical_twice hs⟩

end Surface

end PlanetTiles.Dds
