/-!
# Quadtree tile keys

A tile is addressed by its level and its column `x` and row `y` at that level. Level 0 is
the coarsest; each level below splits every tile into four, so the parent of `(l, x, y)`
is `(l - 1, x / 2, y / 2)` and its children are the four tiles `(l + 1, 2x + dx, 2y + dy)`.
A child's slot in its parent is `2 * (y mod 2) + x mod 2`, the same numbering the tables of
contents use.

Coordinates are 32-bit in the archives. The ancestor `m` levels up shifts both
coordinates right by `m`; a shift of 32 or more leaves nothing of a 32-bit coordinate,
which the plain shift of a natural number below `2^32` also gives.

Main statements:

* `TileKey.ancestorAt_ancestorAt` — ancestors compose.
* `TileKey.ancestorAt_self` — a key is its own ancestor at its own level.
* `TileKey.parent_child` and `TileKey.childSlot_child` — the children of a key have it as
  parent, and sit in the slots they are listed in.
-/

namespace PlanetTiles

/-- A quadtree tile address. -/
structure TileKey where
  /-- the level; 0 is the coarsest -/
  level : Nat
  /-- the column -/
  x : Nat
  /-- the row -/
  y : Nat
  deriving DecidableEq, Repr, Inhabited

namespace TileKey

/-- The key as `level/x/y`. -/
def display (k : TileKey) : String :=
  s!"{k.level}/{k.x}/{k.y}"

/-- The tile one level up, none at level 0. -/
def parent (k : TileKey) : Option TileKey :=
  if k.level = 0 then none else some ⟨k.level - 1, k.x / 2, k.y / 2⟩

/-- The child in slot `slot`: slot bit 0 adds to the column, bit 1 to the row. -/
def child (k : TileKey) (slot : Nat) : TileKey :=
  ⟨k.level + 1, 2 * k.x + slot % 2, 2 * k.y + slot / 2 % 2⟩

/-- The four children, in slot order. -/
def children (k : TileKey) : List TileKey :=
  [k.child 0, k.child 1, k.child 2, k.child 3]

/-- The slot of the key within its parent. -/
def childSlot (k : TileKey) : Nat :=
  2 * (k.y % 2) + k.x % 2

/-- The ancestor at `level`, none when that level is below the key. -/
def ancestorAt (k : TileKey) (level : Nat) : Option TileKey :=
  if k.level < level then none
  else some ⟨level, k.x >>> (k.level - level), k.y >>> (k.level - level)⟩

/-- The key lies under `other`: its ancestor at `other`'s level is `other`. -/
def isDescendantOf (k other : TileKey) : Bool :=
  k.ancestorAt other.level == some other

/-- Keys are ordered by level, then column, then row. -/
def compareKeys (a b : TileKey) : Ordering :=
  (compare a.level b.level).then ((compare a.x b.x).then (compare a.y b.y))

theorem ancestorAt_self (k : TileKey) : k.ancestorAt k.level = some k := by
  simp [ancestorAt]

theorem ancestorAt_ancestorAt (k : TileKey) {l m : Nat} (hl : l ≤ m) (hm : m ≤ k.level) :
    (k.ancestorAt m).bind (·.ancestorAt l) = k.ancestorAt l := by
  have h1 : ¬ k.level < m := by omega
  have h2 : ¬ m < l := by omega
  have h3 : ¬ k.level < l := by omega
  have h4 : k.level - m + (m - l) = k.level - l := by omega
  simp only [ancestorAt, h1, h2, h3, if_false, Option.bind_some, ← Nat.shiftRight_add, h4]

theorem parent_eq_ancestorAt (k : TileKey) (h : 0 < k.level) :
    k.parent = k.ancestorAt (k.level - 1) := by
  have h1 : ¬ k.level = 0 := by omega
  have h2 : ¬ k.level < k.level - 1 := by omega
  have h3 : k.level - (k.level - 1) = 1 := by omega
  simp [parent, ancestorAt, h1, h2, h3, Nat.shiftRight_eq_div_pow]

theorem parent_child (k : TileKey) (slot : Nat) : (k.child slot).parent = some k := by
  simp only [parent, child, Nat.add_one_ne_zero, if_false, Nat.add_sub_cancel]
  congr 2 <;> omega

theorem childSlot_child (k : TileKey) (slot : Nat) (h : slot < 4) :
    (k.child slot).childSlot = slot := by
  simp only [childSlot, child]
  omega

end TileKey

end PlanetTiles
