import PlanetTiles.Archive.Toc

/-!
# Looking tiles up one level at a time

`Toc.indexOf` does not recurse level by level: below the hemisphere roots it looks the
level-4 ancestor up once and then walks every child slot down from there, each slot
recomputed from the full address with a shift. This module shows that this is the same as
looking the parent up and taking one child slot:

* `Toc.indexOf_succ` — **one level deeper**: at every native level from the roots down,
  the node of `(row, col)` one level below is the child, in the tile's own slot, of the node
  of `(row / 2, col / 2)`.
* `Toc.indexOf_succ_eq_none` — a tile whose parent is missing is missing too, so from the
  roots down the present tiles of a line of ancestry form a prefix of it.

Child indices are only followed when they name a node, and `Toc.childAt_lt` records that
every child found does.

* `Toc.indexOf_lookupRules` — **the rules of a lookup**: what each native level holds, one
  level down from the roots, and that every index found names a node.
-/

namespace PlanetTiles.Archive

namespace Toc

variable {toc : Toc}

theorem childAt_lt {index slot i : Nat} (h : toc.childAt index slot = some i) :
    i < toc.nodes.size := by
  unfold childAt childSlots ChildSlots.get at h
  cases hn : toc.nodes[index]? with
  | none => simp [hn] at h
  | some node =>
    simp only [hn, Option.map_some, Option.bind_some, List.getElem?_map] at h
    cases hc : node.child[slot]? with
    | none => simp [hc] at h
    | some raw =>
      simp only [hc, Option.map_some, Option.join_some] at h
      exact childOfRaw_lt h

/-- A node outside the table has no children. -/
theorem childAt_of_size_le {index slot : Nat} (h : toc.nodes.size ≤ index) :
    toc.childAt index slot = none := by
  simp [childAt, childSlots, h]

/-- Filtering a parent against the table changes nothing about its children: a parent
outside the table has none. -/
theorem bind_trusted_bind_childAt (o : Option Nat) (slot : Nat) :
    (o.bind toc.trusted).bind (fun i => toc.childAt i slot) =
      o.bind fun i => toc.childAt i slot := by
  cases o with
  | none => rfl
  | some raw =>
    simp only [Option.bind_some, trusted]
    split
    · rfl
    · exact (childAt_of_size_le (by omega)).symm

/-- A child already names a node of the table, so filtering it again keeps it. -/
theorem bind_childAt_bind_trusted (o : Option Nat) (slot : Nat) :
    (o.bind fun i => toc.childAt i slot).bind toc.trusted =
      o.bind fun i => toc.childAt i slot := by
  cases o with
  | none => rfl
  | some p =>
    simp only [Option.bind_some]
    cases h : toc.childAt p slot with
    | none => rfl
    | some i => simp [trusted, childAt_lt h]

/-- Below the roots, a lookup is the level-4 ancestor's node followed down by `descend`. -/
theorem indexOf_of_rootLevel_lt {level : Nat} (row col : Nat) (h : rootLevel < level) :
    toc.indexOf level row col =
      ((toc.indexOf rootLevel (row >>> (level - rootLevel)) (col >>> (level - rootLevel))).bind
        (toc.descend row col (level - rootLevel))).bind toc.trusted := by
  rw [indexOf]
  simp only [rootLevel] at h ⊢
  have h0 : level ≠ 0 := by omega
  have h1 : ¬ level < 4 := by omega
  have h2 : level ≠ 4 := by omega
  simp only [h0, h1, h2, if_false]

/-- **One level deeper.** From the roots down, the node of a tile is the child, in the tile's
slot, of its parent's node. -/
theorem indexOf_succ {level : Nat} (row col : Nat) (h : rootLevel ≤ level) :
    toc.indexOf (level + 1) row col =
      (toc.indexOf level (row >>> 1) (col >>> 1)).bind
        fun i => toc.childAt i (childSlot row col) := by
  have hd : level + 1 - rootLevel = level - rootLevel + 1 := by omega
  have hshift : ∀ n : Nat, n >>> (level - rootLevel + 1) = (n >>> 1) >>> (level - rootLevel) := by
    intro n
    rw [Nat.add_comm, Nat.shiftRight_add]
  -- the walk down from the root, split at its last step
  have hstep : toc.descend row col (level - rootLevel + 1) =
      fun i => (toc.descend (row >>> 1) (col >>> 1) (level - rootLevel) i).bind
        fun j => toc.childAt j (childSlot row col) :=
    funext (descend_succ toc row col _)
  rw [indexOf_of_rootLevel_lt row col (by omega), hd, hshift, hshift, hstep, ← Option.bind_assoc,
    bind_childAt_bind_trusted]
  rcases Nat.eq_or_lt_of_le h with heq | hlt
  · -- the parent is a root: the walk to it is empty
    subst heq
    simp [descend]
  · rw [indexOf_of_rootLevel_lt (row >>> 1) (col >>> 1) hlt, bind_trusted_bind_childAt]

/-- From the roots down, a tile whose parent has no node has none either. -/
theorem indexOf_succ_eq_none {level row col : Nat} (h : rootLevel ≤ level)
    (hparent : toc.indexOf level (row >>> 1) (col >>> 1) = none) :
    toc.indexOf (level + 1) row col = none := by
  rw [indexOf_succ row col h, hparent, Option.bind_none]

/-! ## The rules of a lookup -/

/-- Trusting an index is keeping it only when it names a node of the table. -/
theorem bind_trusted (o : Option Nat) :
    o.bind toc.trusted = o.filter (· < toc.nodes.size) := by
  cases o with
  | none => rfl
  | some i => simp only [Option.bind_some, trusted, Option.filter_some, decide_eq_true_eq]

/-- How a table answers a native address `(level, row, col)`. -/
structure LookupRules (toc : Toc) : Prop where
  /-- native level 0 holds nothing -/
  level_zero : ∀ row col, toc.indexOf 0 row col = none
  /-- native levels 1 to 3 hold their whole-body root at row 0, column 0, if it names a node,
  and nothing else -/
  whole_body : ∀ level row col, 1 ≤ level → level ≤ 3 → toc.indexOf level row col =
    if row = 0 ∧ col = 0 then (toc.roots.wholeBody[level - 1]?).join.filter (· < toc.nodes.size)
    else none
  /-- native level 4 holds the hemisphere roots at row 0, columns 0 and 1, if they name nodes,
  and nothing else -/
  hemisphere : ∀ row col, toc.indexOf rootLevel row col =
    if row = 0 ∧ col ≤ 1 then (toc.roots.hemispheres[col]?).join.filter (· < toc.nodes.size)
    else none
  /-- below the roots a tile is found in its own slot of its parent's node -/
  child_of_parent : ∀ level row col, rootLevel < level → toc.indexOf level row col =
    ((toc.indexOf (level - 1) (row >>> 1) (col >>> 1)).bind toc.childSlots).bind
      (·.get (childSlot row col))
  /-- every index found names a node of the table -/
  indexOf_lt : ∀ level row col i, toc.indexOf level row col = some i → i < toc.nodes.size
  /-- and so does every child that a node's slots hold -/
  childSlots_lt : ∀ index slots slot i, toc.childSlots index = some slots →
    slots.get slot = some i → i < toc.nodes.size

theorem indexOf_zero (row col : Nat) : toc.indexOf 0 row col = none := by
  simp [indexOf]

theorem indexOf_wholeBody {level : Nat} (row col : Nat) (h1 : 1 ≤ level) (h3 : level ≤ 3) :
    toc.indexOf level row col =
      if row = 0 ∧ col = 0 then (toc.roots.wholeBody[level - 1]?).join.filter (· < toc.nodes.size)
      else none := by
  have h0 : level ≠ 0 := by omega
  have hlt : level < rootLevel := by simp only [rootLevel]; omega
  rw [indexOf]
  simp only [h0, hlt, if_false, if_true, bind_trusted]
  split <;> rfl

/-- A table of two hemisphere roots finds them at row 0, columns 0 and 1, and nothing else at
native level 4. -/
theorem indexOf_rootLevel (hroots : toc.roots.hemispheres.length ≤ 2) (row col : Nat) :
    toc.indexOf rootLevel row col =
      if row = 0 ∧ col ≤ 1 then (toc.roots.hemispheres[col]?).join.filter (· < toc.nodes.size)
      else none := by
  rw [indexOf]
  simp only [rootLevel, Nat.succ_ne_zero, Nat.lt_irrefl, if_false, if_true, bind_trusted]
  by_cases hrow : row = 0
  · by_cases hcol : col ≤ 1
    · simp [hrow, hcol]
    · -- a column past the two hemispheres finds no root
      have hnone : toc.roots.hemispheres[col]? = none := List.getElem?_eq_none (by omega)
      simp [hrow, hcol, hnone]
  · simp [hrow]

theorem childSlots_get_lt {index slot i : Nat} {slots : ChildSlots}
    (h : toc.childSlots index = some slots) (hget : slots.get slot = some i) :
    i < toc.nodes.size := by
  have hchild : toc.childAt index slot = some i := by simp [childAt, h, hget]
  exact childAt_lt hchild

/-- **The rules of a lookup.** For every table whose header names two hemisphere roots, and
whatever its children hold (absent markers, indices past the end, cycles): native level 0 holds
nothing, levels 1 to 3 their whole-body root and level 4 the hemisphere roots, each kept only
if it names a node; every deeper tile is the child, in its own slot, of its parent's node; and
every index found, or held by a node's slots, names a node of the table. -/
theorem indexOf_lookupRules (hroots : toc.roots.hemispheres.length ≤ 2) : toc.LookupRules where
  level_zero := indexOf_zero
  whole_body := fun _ row col h1 h3 => indexOf_wholeBody row col h1 h3
  hemisphere := indexOf_rootLevel hroots
  child_of_parent := by
    intro level row col h
    obtain ⟨n, rfl⟩ : ∃ n, level = n + 1 := ⟨level - 1, by omega⟩
    rw [indexOf_succ row col (by omega), Nat.add_sub_cancel, Option.bind_assoc]
    rfl
  indexOf_lt := fun _ _ _ _ h => Toc.indexOf_lt h
  childSlots_lt := fun _ _ _ _ h hget => childSlots_get_lt h hget

/-- The western hemisphere root, whose slot 3 holds a node whose slot 0 holds a third. -/
def sampleToc : Toc where
  roots := ⟨[none, none, none], [some 0, none]⟩
  nodes := #[⟨0, 1, [noNode, noNode, noNode, 1]⟩, ⟨0, 1, [2, noNode, noNode, noNode]⟩,
    ⟨0, 1, [noNode, noNode, noNode, noNode]⟩]

theorem indexOf_lookupRules_sample :
    sampleToc.roots.hemispheres.length ≤ 2 ∧ sampleToc.LookupRules :=
  ⟨by decide, indexOf_lookupRules (by decide)⟩

example : sampleToc.indexOf 6 2 2 = some 2 ∧ sampleToc.indexOf 6 2 3 = none ∧
    sampleToc.indexOf 40 0 0 = none := by cbv

end Toc

end PlanetTiles.Archive
