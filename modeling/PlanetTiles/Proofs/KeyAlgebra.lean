import Mathlib
import PlanetTiles.Proofs.ChildLookup

/-!
# The algebra of quadtree addresses

A key addresses one tile of the quadtree. `ancestorAt` walks up any number of levels,
`parent` walks up one, `children` lists the four tiles one level down, and `isDescendantOf`
asks whether one key lies under another. This file shows that these operations fit
together as the addresses of a tree must:

* ancestors compose, and a key is its own ancestor at its own level;
* a key whose coordinates are 32-bit words has, 32 or more levels up, the ancestor at
  column and row 0, as a shift of a 32-bit word that saturates gives;
* the parent is the ancestor one level up;
* "lies under" is a partial order on keys;
* the children of a key have it as their parent and sit in the slots they are listed in,
  which are also the slots a table of contents files them under; and they are the only keys
  with that parent.

Main statement:

* `TileKey.quadtree_address_algebra` — **the laws of quadtree addresses**, for every key.
-/

namespace PlanetTiles

namespace TileKey

/-! ## Ancestors -/

/-- An ancestor at a level the key reaches exists. -/
theorem exists_ancestorAt {k : TileKey} {l : Nat} (hl : l ≤ k.level) :
    ∃ a, k.ancestorAt l = some a :=
  ⟨_, ancestorAt_of_le hl⟩

/-- Walking up through an intermediate level reaches the same ancestor. -/
theorem ancestorAt_of_ancestorAt {k a : TileKey} {l m : Nat} (hl : l ≤ m) (hm : m ≤ k.level)
    (ha : k.ancestorAt m = some a) : a.ancestorAt l = k.ancestorAt l := by
  rw [← ancestorAt_ancestorAt k hl hm, ha, Option.bind_some]

/-- Thirty-two levels up, nothing is left of a 32-bit coordinate. -/
theorem ancestorAt_of_coords_lt {k : TileKey} {l : Nat} (hx : k.x < 2 ^ 32) (hy : k.y < 2 ^ 32)
    (hl : l + 32 ≤ k.level) : k.ancestorAt l = some ⟨l, 0, 0⟩ := by
  have hpow : 2 ^ 32 ≤ 2 ^ (k.level - l) := Nat.pow_le_pow_right (by decide) (by omega)
  rw [ancestorAt_of_le (by omega), Nat.shiftRight_eq_div_pow, Nat.shiftRight_eq_div_pow,
    Nat.div_eq_of_lt (hx.trans_le hpow), Nat.div_eq_of_lt (hy.trans_le hpow)]

/-! ## Lying under another key -/

theorem isDescendantOf_iff {k o : TileKey} :
    k.isDescendantOf o = true ↔ k.ancestorAt o.level = some o := by
  simp [isDescendantOf]

theorem isDescendantOf_refl (k : TileKey) : k.isDescendantOf k = true :=
  isDescendantOf_iff.mpr (ancestorAt_self k)

theorem level_le_of_isDescendantOf {k o : TileKey} (h : k.isDescendantOf o = true) :
    o.level ≤ k.level :=
  (level_of_ancestorAt (isDescendantOf_iff.mp h)).2

/-- Two keys that lie under each other sit at one level, where each is the other's ancestor. -/
theorem isDescendantOf_antisymm {k o : TileKey} (hko : k.isDescendantOf o = true)
    (hok : o.isDescendantOf k = true) : k = o := by
  have hlevel : o.level = k.level :=
    Nat.le_antisymm (level_le_of_isDescendantOf hko) (level_le_of_isDescendantOf hok)
  have hanc := isDescendantOf_iff.mp hko
  rw [hlevel, ancestorAt_self] at hanc
  exact Option.some.inj hanc

/-- A key under `b`, which lies under `c`, lies under `c`: its ancestor at `c`'s level is
reached through `b`. -/
theorem isDescendantOf_trans {a b c : TileKey} (hab : a.isDescendantOf b = true)
    (hbc : b.isDescendantOf c = true) : a.isDescendantOf c = true := by
  have hcb := level_le_of_isDescendantOf hbc
  have hba := level_le_of_isDescendantOf hab
  rw [isDescendantOf_iff] at hab hbc ⊢
  rw [← ancestorAt_of_ancestorAt hcb hba hab, hbc]

/-- "Lies under" is a partial order on keys. -/
instance : IsPartialOrder TileKey (fun k o => k.isDescendantOf o = true) where
  refl := isDescendantOf_refl
  trans _ _ _ := isDescendantOf_trans
  antisymm _ _ := isDescendantOf_antisymm

/-! ## Parents and children -/

theorem childSlot_lt (k : TileKey) : k.childSlot < 4 := by
  simp only [childSlot]
  omega

/-- A table of contents files a key under the slot the key itself names. -/
theorem archive_childSlot (k : TileKey) : Archive.childSlot k.y k.x = k.childSlot := rfl

/-- A key is the child of its parent in its own slot. -/
theorem eq_child_of_parent {k c : TileKey} (h : c.parent = some k) : c = k.child c.childSlot := by
  obtain ⟨level, x, y⟩ := c
  simp only [parent] at h
  split at h
  · cases h
  · cases h
    simp only [child, childSlot, TileKey.mk.injEq]
    omega

/-- The keys with parent `k` are exactly its children. -/
theorem parent_eq_some_iff {k c : TileKey} : c.parent = some k ↔ c ∈ k.children := by
  constructor
  · intro h
    exact mem_children.mpr ⟨c.childSlot, childSlot_lt c, eq_child_of_parent h⟩
  · intro h
    obtain ⟨slot, -, rfl⟩ := mem_children.mp h
    exact parent_child k slot

end TileKey

/-- What the address operations satisfy at one key. -/
structure TileKey.AddressLaws (k : TileKey) : Prop where
  /-- every level the key reaches has an ancestor, and walking up through it composes -/
  ancestorAt_comp : ∀ l m, l ≤ m → m ≤ k.level →
    ∃ a, k.ancestorAt m = some a ∧ a.ancestorAt l = k.ancestorAt l
  /-- the key is its own ancestor at its own level -/
  ancestorAt_level : k.ancestorAt k.level = some k
  /-- with 32-bit coordinates, every ancestor 32 or more levels up is at column and row 0 -/
  ancestorAt_saturates : k.x < 2 ^ 32 → k.y < 2 ^ 32 → ∀ l, l + 32 ≤ k.level →
    k.ancestorAt l = some ⟨l, 0, 0⟩
  /-- the parent is the ancestor one level up -/
  parent_eq : 0 < k.level → k.parent = k.ancestorAt (k.level - 1)
  /-- the child listed in slot `s` has the key as parent, and `s` as its slot both as a key
  names it and as a table of contents files it -/
  child_slot : ∀ s c, k.children[s]? = some c →
    c.parent = some k ∧ c.childSlot = s ∧ Archive.childSlot c.y c.x = s
  /-- every key with the key as parent is one of its children -/
  mem_children : ∀ c, c.parent = some k → c ∈ k.children

/-- **The laws of quadtree addresses.** At every key, ancestors compose, the parent is the
ancestor one level up, and the children are exactly the keys with that parent, each in its
own slot; and lying under another key is a partial order. -/
theorem TileKey.quadtree_address_algebra :
    (∀ k : TileKey, k.AddressLaws) ∧
      IsPartialOrder TileKey (fun k o => k.isDescendantOf o = true) := by
  refine ⟨fun k => ⟨?_, k.ancestorAt_self,
    fun hx hy l hl => TileKey.ancestorAt_of_coords_lt hx hy hl, k.parent_eq_ancestorAt, ?_,
    fun c h => TileKey.parent_eq_some_iff.mp h⟩, inferInstance⟩
  · intro l m hl hm
    obtain ⟨a, ha⟩ := TileKey.exists_ancestorAt hm
    exact ⟨a, ha, TileKey.ancestorAt_of_ancestorAt hl hm ha⟩
  · intro s c hc
    obtain ⟨hs, rfl⟩ := TileKey.eq_child_of_getElem?_children hc
    have hslot := k.childSlot_child s hs
    exact ⟨k.parent_child s, hslot, (TileKey.archive_childSlot _).trans hslot⟩

end PlanetTiles
