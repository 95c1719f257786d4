import PlanetTiles.Dds.Surface

/-!
# Flipping DXT1 surfaces top to bottom

A level flips without decoding when its height is 1, 2 or a multiple of 4: block rows trade
places, first with last, and inside each block the texel rows are reversed (for height 2,
only the two rows in use). A level of any other height has texel rows that straddle
blocks and cannot flip this way.

A flip is done in place, level by level, on the slice of the data that holds the level:
`flipDxt1Level` swaps whole block rows, the first with the last and so on inward, then
reverses the four index bytes of every block, or for height 2 swaps the two index bytes in
use; for height 1 there is nothing to do, and any other height fails. `sourceByte` and
`flipLevelBytes` say the same at once, byte by byte: where each byte of a flipped level comes
from.

Flipping a surface keeps the levels up to the first one that cannot flip and drops it and
all after it, data included; when the top level itself cannot flip the surface is left as
it is and the flip fails.

Main statements:

* `exists_flipDxt1Level_eq_ok` — a level whose height can flip flips without error.
* `flipVertical_error` — a flip fails exactly when the top level cannot flip, and then says
  so with the surface's height.
-/

namespace PlanetTiles.Dds

/-- A level of this height flips block by block. -/
def flippable (height : Nat) : Bool :=
  height ≤ 2 || height % 4 = 0

/-- The texel row a row of a flipped block comes from, for a level of this height. -/
def sourceRow (height row : Nat) : Nat :=
  if height = 2 ∧ row < 2 then 1 - row
  else if height % 4 = 0 ∧ row < 4 then 3 - row
  else row

/-- The byte of the level's block data that byte `p` of the flipped level comes from: the
same column of blocks in the mirrored block row, and for an index byte the mirrored texel
row. -/
def sourceByte (level : MipLevel) (p : Nat) : Nat :=
  let across := blocks level.width
  let rows := blocks level.height
  let block := p / blockBytes
  let byte := p % blockBytes
  let mirrored := (rows - 1 - block / across) * across + block % across
  let byte' := if byte < 4 then byte else 4 + sourceRow level.height (byte - 4)
  mirrored * blockBytes + byte'

/-- The bytes of a level, flipped. -/
def flipLevelBytes (data : ByteArray) (level : MipLevel) : ByteArray :=
  ⟨Array.ofFn (n := level.len) fun p => (data[level.offset + sourceByte level p.val]?).getD 0⟩

/-- The data with one level's bytes flipped in place. -/
def flipLevel (data : ByteArray) (level : MipLevel) : ByteArray :=
  data.extract 0 level.offset ++ flipLevelBytes data level ++
    data.extract (level.offset + level.len) data.size

/-- Swaps the bytes at `p` and `q`. -/
def swapBytes (bytes : ByteArray) (p q : Nat) : ByteArray :=
  ⟨bytes.data.swapIfInBounds p q⟩

/-- Swaps the `len` bytes from `a` with the `len` bytes from `b`, pair by pair. -/
def swapRanges (bytes : ByteArray) (a b len : Nat) : ByteArray :=
  (List.range len).foldl (fun acc j => swapBytes acc (a + j) (b + j)) bytes

/-- Runs `step` on every whole block of the bytes, first to last, given the block's start. -/
def eachBlock (step : ByteArray → Nat → ByteArray) (bytes : ByteArray) : ByteArray :=
  (List.range (bytes.size / blockBytes)).foldl (fun acc block => step acc (block * blockBytes))
    bytes

/-- Swaps the two index bytes of the block at `p` that a level 2 texels high uses. -/
def swapIndexPair (bytes : ByteArray) (p : Nat) : ByteArray :=
  swapBytes bytes (p + 4) (p + 5)

/-- Reverses the four index bytes of the block at `p`, outermost pair first. -/
def reverseIndexRows (bytes : ByteArray) (p : Nat) : ByteArray :=
  swapBytes (swapBytes bytes (p + 4) (p + 7)) (p + 5) (p + 6)

/-- Trades block row `top` with block row `rows - 1 - top`, block rows being `rowLen` bytes
long. -/
def swapBlockRows (bytes : ByteArray) (rowLen rows top : Nat) : ByteArray :=
  swapRanges bytes (top * rowLen) ((rows - 1 - top) * rowLen) rowLen

/-- Flips the bytes of one level of `width × height` texels in place: nothing to do for
height 1; for height 2 the two index bytes in use trade places in every block; for a
multiple of 4 the block rows trade places from the outside in, then every block's index
bytes are reversed. Any other height fails. -/
def flipDxt1Level (bytes : ByteArray) (width height : Nat) : Except SurfaceError ByteArray :=
  if height = 1 then .ok bytes
  else if height = 2 then .ok (eachBlock swapIndexPair bytes)
  else if height % 4 = 0 then
    let rowLen := blocks width * blockBytes
    let rows := blocks height
    let swapped := (List.range (rows / 2)).foldl (fun acc top => swapBlockRows acc rowLen rows top)
      bytes
    .ok (eachBlock reverseIndexRows swapped)
  else .error (.unflippableHeight height)

/-- Flips one level of the data in place, through the slice that holds its bytes. -/
def flipLevelInPlace (data : ByteArray) (level : MipLevel) : Except SurfaceError ByteArray := do
  let flipped ← flipDxt1Level (data.extract level.offset (level.offset + level.len)) level.width
    level.height
  pure (data.extract 0 level.offset ++ flipped ++ data.extract (level.offset + level.len) data.size)

namespace Surface

/-- Flips every level top to bottom, after cutting the chain at the first level that cannot
flip; fails, changing nothing, when that is the top level. -/
def flipVertical (s : Surface) : Except SurfaceError Surface :=
  let kept := s.levels.takeWhile (flippable ·.height)
  if kept.isEmpty ∧ !s.levels.isEmpty then .error (.unflippableHeight s.height)
  else
    let data := match s.levels[kept.length]? with
      | some dropped => s.data.extract 0 dropped.offset
      | none => s.data
    (kept.foldlM flipLevelInPlace data).map fun data => { s with levels := kept, data }

end Surface

/-- A level whose height can flip flips without error: the only failing branch is for the
heights that cannot. -/
theorem exists_flipDxt1Level_eq_ok (bytes : ByteArray) (width : Nat) {height : Nat}
    (h : flippable height = true) : ∃ out, flipDxt1Level bytes width height = .ok out := by
  simp only [flippable, Bool.or_eq_true, decide_eq_true_eq] at h
  unfold flipDxt1Level
  by_cases h1 : height = 1
  · exact ⟨_, if_pos h1⟩
  by_cases h2 : height = 2
  · exact ⟨_, by rw [if_neg h1, if_pos h2]⟩
  -- a height of at most 2 that is neither 1 nor 2 is 0, a multiple of 4
  have h4 : height % 4 = 0 := by omega
  exact ⟨_, by rw [if_neg h1, if_neg h2, if_pos h4]⟩

/-- Flipping levels that can all flip, one after another, never fails. -/
theorem exists_foldlM_flipLevelInPlace_eq_ok {levels : List MipLevel}
    (h : ∀ level ∈ levels, flippable level.height = true) (data : ByteArray) :
    ∃ out, levels.foldlM flipLevelInPlace data = .ok out := by
  induction levels generalizing data with
  | nil => exact ⟨data, rfl⟩
  | cons level rest ih =>
    -- the first level flips, and the rest flip from what it gives
    obtain ⟨flipped, hflip⟩ := exists_flipDxt1Level_eq_ok
      (data.extract level.offset (level.offset + level.len)) level.width (h level List.mem_cons_self)
    obtain ⟨out, hout⟩ := ih (fun l hl => h l (List.mem_cons_of_mem _ hl))
      (data.extract 0 level.offset ++ flipped ++ data.extract (level.offset + level.len) data.size)
    refine ⟨out, ?_⟩
    simpa only [List.foldlM_cons, flipLevelInPlace, hflip, bind, Except.bind, pure, Except.pure]
      using hout

theorem flipVertical_error (s : Surface) (e : SurfaceError) :
    s.flipVertical = .error e ↔
      (∃ top rest, s.levels = top :: rest ∧ flippable top.height = false) ∧
        e = .unflippableHeight s.height := by
  unfold Surface.flipVertical
  cases h : s.levels with
  | nil => simp [Except.map, pure, Except.pure]
  | cons top rest =>
    by_cases ht : flippable top.height = true
    · -- the top level is kept, and the levels kept all flip, so nothing fails
      have hkept : ∀ level ∈ (top :: rest).takeWhile (flippable ·.height),
          flippable level.height = true :=
        fun level hl => List.all_eq_true.mp List.all_takeWhile level hl
      simp only [List.takeWhile_cons, ht, if_true, List.isEmpty_cons] at hkept ⊢
      generalize (match (top :: rest)[(top :: List.takeWhile (flippable ·.height) rest).length]? with
        | some dropped => s.data.extract 0 dropped.offset
        | none => s.data) = data
      obtain ⟨out, hout⟩ := exists_foldlM_flipLevelInPlace_eq_ok hkept data
      simp only [Bool.false_eq_true, false_and, if_false, hout, Except.map]
      constructor
      · intro he
        cases he
      · rintro ⟨⟨top', rest', heq, hf⟩, -⟩
        cases heq
        rw [ht] at hf
        cases hf
    · have hf : flippable top.height = false := by simpa using ht
      simp only [List.takeWhile_cons, hf, List.isEmpty_cons]
      constructor
      · intro he
        cases he
        exact ⟨⟨top, rest, rfl, hf⟩, rfl⟩
      · rintro ⟨-, rfl⟩
        rfl

end PlanetTiles.Dds
