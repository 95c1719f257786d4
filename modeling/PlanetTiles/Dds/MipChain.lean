/-!
# Mip chains of DXT1 surfaces

A DXT1 level of `w × h` texels is stored as 4 × 4 blocks of 8 bytes, with at least one block
across and down, so it takes `max 1 ⌈w/4⌉ * max 1 ⌈h/4⌉ * 8` bytes. Each level of a chain
halves both sides of the one before, down to 1; a full chain ends at 1 × 1 and has as many
levels as the larger side has bits. Levels follow each other in the data, so a level's
offset is the sum of the lengths before it.

Main statements:

* `length_mipChain` — a chain has the requested count of levels, held between 1 and the
  full chain.
* `chainFrom_offsets` — each level starts where the one before it ends.
-/

namespace PlanetTiles.Dds

/-- The bytes of one compressed block. -/
def blockBytes : Nat := 8

/-- One level of a mip chain: its size in texels and where its bytes lie. -/
structure MipLevel where
  /-- width in texels -/
  width : Nat
  /-- height in texels -/
  height : Nat
  /-- start of its bytes in the surface data -/
  offset : Nat
  /-- length of its bytes -/
  len : Nat
  deriving DecidableEq, Repr

/-- Blocks needed to cover `texels` texels in one direction: at least one. -/
def blocks (texels : Nat) : Nat :=
  max 1 ((texels + 3) / 4)

/-- The bytes of a DXT1 level of `width × height` texels. -/
def levelLength (width height : Nat) : Nat :=
  blocks width * blocks height * blockBytes

/-- The number of levels from `width × height` down to 1 × 1: the bit length of the larger
side. -/
def fullChainLength (width height : Nat) : Nat :=
  (max 1 (max width height)).log2 + 1

/-- The next level's side: half, but at least 1. -/
def halve (side : Nat) : Nat :=
  max 1 (side / 2)

/-- `count` levels starting with a `width × height` level at `offset`. -/
def chainFrom (width height offset : Nat) : (count : Nat) → List MipLevel
  | 0 => []
  | count + 1 =>
    ⟨width, height, offset, levelLength width height⟩ ::
      chainFrom (halve width) (halve height) (offset + levelLength width height) count

/-- The count of levels a chain keeps: at least one, at most the full chain. -/
def clampCount (width height count : Nat) : Nat :=
  max 1 (min count (fullChainLength width height))

/-- The mip chain of a `width × height` surface with the requested number of levels. -/
def mipChain (width height count : Nat) : List MipLevel :=
  chainFrom width height 0 (clampCount width height count)

/-- The bytes of a whole chain. -/
def chainLength (levels : List MipLevel) : Nat :=
  levels.foldr (fun l acc => l.len + acc) 0

@[simp] theorem length_chainFrom (width height offset count : Nat) :
    (chainFrom width height offset count).length = count := by
  induction count generalizing width height offset with
  | zero => rfl
  | succ count ih => simp [chainFrom, ih]

theorem length_mipChain (width height count : Nat) :
    (mipChain width height count).length = clampCount width height count := by
  simp [mipChain]

/-- Levels lie back to back: the offsets of `chainFrom` are its start plus the running sum
of the lengths. -/
theorem chainFrom_offsets (width height offset count : Nat) :
    ∀ j, j < count →
      ((chainFrom width height offset count)[j]?).map (·.offset) =
        some (offset + chainLength ((chainFrom width height offset count).take j)) := by
  induction count generalizing width height offset with
  | zero => intro j h; omega
  | succ count ih =>
    intro j h
    cases j with
    | zero => simp [chainFrom, chainLength]
    | succ j =>
      simp only [chainFrom, List.getElem?_cons_succ, List.take_succ_cons]
      rw [ih _ _ _ j (by omega)]
      simp [chainLength]
      omega

end PlanetTiles.Dds
