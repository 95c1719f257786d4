/-!
# The table of contents of a tree archive

A tree archive lists its nodes in one flat table. Native level 0 holds nothing; native
levels 1 to 3 each hold one whole-body tile at row 0, column 0; level 4 holds the two
hemisphere roots at row 0, columns 0 and 1. Every deeper tile is found from its level-4
ancestor by following child slots down, one level at a time: the tile at `(row, col)`
sits in slot `2 * (row mod 2) + col mod 2` of its parent.

A child index is only trusted when it names a node of the table, so a lookup never
returns an index outside it, whatever the children say: absent markers, indices past
the end, and cycles are all harmless.

Main statements:

* `Toc.indexOf_lt` — every index found is an index of the table.
* `Toc.descend_succ` — descending one more level is descending toward the parent and
  then taking the tile's own slot.
-/

namespace PlanetTiles.Archive

/-- The marker of an absent child or root: the largest 32-bit value, `2^32 - 1`. -/
def noNode : Nat := 4294967295

/-- The native level of the two hemisphere roots. -/
def rootLevel : Nat := 4

/-- The slot of the tile at `(row, col)` within its parent. -/
def childSlot (row col : Nat) : Nat :=
  2 * (row % 2) + col % 2

/-- One entry of the table of contents. -/
structure TocNode where
  /-- start of the node's compressed block, relative to the data section -/
  pos : Nat
  /-- inflated size of the node's payload; 0 means the node carries no data -/
  size : Nat
  /-- the raw child indices, one per slot -/
  child : List Nat
  deriving DecidableEq, Repr

/-- The root indices the header names. -/
structure Roots where
  /-- the whole-body tiles of native levels 1, 2 and 3 -/
  wholeBody : List (Option Nat)
  /-- the hemisphere roots of native level 4, columns 0 and 1 -/
  hemispheres : List (Option Nat)
  deriving DecidableEq, Repr

/-- An index as stored, of a root or a child: the marker means there is none. -/
def rootOfRaw (raw : Nat) : Option Nat :=
  if raw = noNode then none else some raw

/-- The four child slots of a node, each with the index it leads to, if any. -/
structure ChildSlots where
  /-- slot by slot, the child's index -/
  slots : List (Option Nat)
  deriving DecidableEq, Repr

namespace ChildSlots

/-- The child in a slot. -/
def get (c : ChildSlots) (slot : Nat) : Option Nat :=
  (c.slots[slot]?).join

/-- Some slot holds a child. -/
def any (c : ChildSlots) : Bool :=
  c.slots.any Option.isSome

end ChildSlots

/-- The table of contents: the roots and the nodes. -/
structure Toc where
  /-- the roots named by the header -/
  roots : Roots
  /-- the nodes, by index -/
  nodes : Array TocNode

namespace Toc

/-- A child index names a node of the table. -/
def trusted (toc : Toc) (raw : Nat) : Option Nat :=
  if raw < toc.nodes.size then some raw else none

/-- A child as stored: none for the marker, and otherwise the index when it names a node of
the table. -/
def childOfRaw (toc : Toc) (raw : Nat) : Option Nat :=
  (rootOfRaw raw).bind toc.trusted

/-- The child slots of a node, each keeping only a child that names a node of the table. -/
def childSlots (toc : Toc) (index : Nat) : Option ChildSlots :=
  (toc.nodes[index]?).map fun node => ⟨node.child.map toc.childOfRaw⟩

/-- The child of a node in one slot. -/
def childAt (toc : Toc) (index slot : Nat) : Option Nat :=
  (toc.childSlots index).bind (·.get slot)

/-- Follows child slots down `steps` levels from node `index` toward the tile at
`(row, col)`: at `k` levels above the target the slot is the one of the target's ancestor
there, `(row >>> k, col >>> k)`. -/
def descend (toc : Toc) (row col : Nat) : (steps index : Nat) → Option Nat
  | 0, index => some index
  | k + 1, index =>
    match toc.childAt index (childSlot (row >>> k) (col >>> k)) with
    | none => none
    | some child => toc.descend row col k child

/-- The node at the native address `(level, row, col)`, looked up from the roots. -/
def indexOf (toc : Toc) (level row col : Nat) : Option Nat :=
  let found :=
    if level = 0 then none
    else if level < rootLevel then
      if row = 0 ∧ col = 0 then (toc.roots.wholeBody[level - 1]?).join else none
    else if level = rootLevel then
      if row = 0 then (toc.roots.hemispheres[col]?).join else none
    else
      let depth := level - rootLevel
      (toc.indexOf rootLevel (row >>> depth) (col >>> depth)).bind
        (toc.descend row col depth)
  found.bind toc.trusted

theorem trusted_lt {toc : Toc} {raw i : Nat} (h : toc.trusted raw = some i) :
    i < toc.nodes.size := by
  unfold trusted at h
  split at h
  · cases h
    assumption
  · cases h

theorem childOfRaw_lt {toc : Toc} {raw i : Nat} (h : toc.childOfRaw raw = some i) :
    i < toc.nodes.size := by
  obtain ⟨_, _, htrusted⟩ := Option.bind_eq_some_iff.mp h
  exact trusted_lt htrusted

theorem indexOf_lt {toc : Toc} {level row col i : Nat}
    (h : toc.indexOf level row col = some i) : i < toc.nodes.size := by
  unfold indexOf at h
  obtain ⟨raw, _, hraw⟩ := Option.bind_eq_some_iff.mp h
  exact trusted_lt hraw

/-- Descending `k + 1` levels is descending `k` levels toward the parent of the target,
then taking the target's own slot. -/
theorem descend_succ (toc : Toc) (row col k index : Nat) :
    toc.descend row col (k + 1) index =
      (toc.descend (row >>> 1) (col >>> 1) k index).bind
        fun i => toc.childAt i (childSlot row col) := by
  induction k generalizing index with
  | zero =>
    simp only [descend, Nat.shiftRight_zero, Option.bind_some]
    cases toc.childAt index (childSlot row col) <;> rfl
  | succ k ih =>
    have hr : row >>> (k + 1) = (row >>> 1) >>> k := by
      rw [Nat.add_comm, Nat.shiftRight_add]
    have hc : col >>> (k + 1) = (col >>> 1) >>> k := by
      rw [Nat.add_comm, Nat.shiftRight_add]
    simp only [descend, hr, hc]
    cases toc.childAt index (childSlot ((row >>> 1) >>> k) ((col >>> 1) >>> k)) with
    | none => rfl
    | some child => exact ih child

end Toc

end PlanetTiles.Archive
