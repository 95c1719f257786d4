import PlanetTiles.Proofs.Ancestry
import PlanetTiles.Proofs.TreeOpen

/-!
# Asking a tile for its children

`TileSource.hasAnyChildren` looks a key's node up once and reads its four child slots;
a child of the key is otherwise found by a lookup of its own from the roots. From the
hemisphere roots down the two agree slot by slot: the child a key lists in slot `s`
(column `2x + s mod 2`, row `2y + s / 2`) sits in slot `s` of the key's node, because the
table numbers a tile's slot by the low bits of its row and column, and a lookup one level
down ends with exactly that slot of the parent's node.

Every node read from a file has four child slots, so "some slot holds a child" is "one of
the four children has a node".

* `Toc.indexOf_child` — **one level down, slot by slot**: the node of a key's child in slot
  `s` is the child in slot `s` of the key's node.
* `TileSource.hasAnyChildren_iff_child_present` — **a tile has children exactly when one
  of its children is present**, for every source opened from a tree file and every key at or
  below the roots.
-/

namespace PlanetTiles

open Archive

/-! ## Slots of a node -/

namespace Archive

theorem ChildSlots.any_eq_true_iff (c : ChildSlots) :
    c.any = true ↔ ∃ slot < c.slots.length, (c.get slot).isSome := by
  simp only [ChildSlots.any, List.any_eq_true, List.mem_iff_getElem, ChildSlots.get]
  constructor
  · rintro ⟨o, ⟨slot, hslot, rfl⟩, hsome⟩
    exact ⟨slot, hslot, by simpa [List.getElem?_eq_getElem hslot] using hsome⟩
  · rintro ⟨slot, hslot, hsome⟩
    exact ⟨_, ⟨slot, hslot, rfl⟩, by simpa [List.getElem?_eq_getElem hslot] using hsome⟩

namespace Toc

/-- Every node of the table has four child slots, one per quadrant. -/
def FourSlots (toc : Toc) : Prop :=
  ∀ (i : Nat) (node : TocNode), toc.nodes[i]? = some node → node.child.length = 4

variable {toc : Toc}

/-- A node of a table with four slots per node has a child in some slot exactly when one of
the four slots leads to a node. -/
theorem any_childSlots_iff (hfour : toc.FourSlots) {i : Nat} {slots : ChildSlots}
    (h : toc.childSlots i = some slots) :
    slots.any = true ↔ ∃ slot < 4, (toc.childAt i slot).isSome := by
  obtain ⟨node, hnode, rfl⟩ := Option.map_eq_some_iff.mp h
  rw [ChildSlots.any_eq_true_iff, List.length_map, hfour i node hnode]
  simp only [childAt, h, Option.bind_some]

/-- **One level down, slot by slot.** From the roots down, the node of a key's child in slot
`slot` is the child in slot `slot` of the key's node: the child's row and column halve to the
key's, and their low bits name the slot. -/
theorem indexOf_child (key : TileKey) {native : Nat} (h : rootLevel ≤ native) (slot : Nat) :
    toc.indexOf (native + 1) (key.child slot).y (key.child slot).x =
      (toc.indexOf native key.y key.x).bind fun i => toc.childAt i (slot % 4) := by
  have hy : (key.child slot).y >>> 1 = key.y := by
    simp only [TileKey.child, Nat.shiftRight_eq_div_pow]
    omega
  have hx : (key.child slot).x >>> 1 = key.x := by
    simp only [TileKey.child, Nat.shiftRight_eq_div_pow]
    omega
  have hslot : childSlot (key.child slot).y (key.child slot).x = slot % 4 := by
    simp only [childSlot, TileKey.child]
    omega
  rw [indexOf_succ _ _ h, hy, hx, hslot]

end Toc

/-- Every node read from a file has four child slots. -/
theorem TreeArchive.fourSlots_of_ofBytes {layer : Layer} {file : ByteArray} {a : TreeArchive}
    (h : TreeArchive.ofBytes layer file = .ok a) : a.toc.FourSlots := by
  intro i node hnode
  have hfrom := (TreeArchive.accepted_of_ofBytes h).2
  have hi : i < (TreeHeader.read file).nodeCount := by
    rw [← hfrom.size_nodes]
    exact (Array.getElem?_eq_some_iff.mp hnode).1
  rw [hfrom.getElem?_nodes i hi] at hnode
  cases hnode
  exact TocNode.length_child_read _ _

end Archive

/-! ## Children of a key -/

namespace TileKey

/-- The children are listed slot by slot. -/
theorem getElem?_children {key : TileKey} {slot : Nat} (h : slot < 4) :
    key.children[slot]? = some (key.child slot) := by
  match slot, h with
  | 0, _ => rfl
  | 1, _ => rfl
  | 2, _ => rfl
  | 3, _ => rfl

theorem eq_child_of_getElem?_children {key c : TileKey} {slot : Nat}
    (h : key.children[slot]? = some c) : slot < 4 ∧ c = key.child slot := by
  have h4 : slot < 4 := by
    have := (List.getElem?_eq_some_iff.mp h).1
    simpa [children] using this
  exact ⟨h4, Option.some.inj (h.symm.trans (getElem?_children h4))⟩

theorem mem_children {key c : TileKey} : c ∈ key.children ↔ ∃ slot < 4, c = key.child slot := by
  constructor
  · intro h
    obtain ⟨slot, hslot, rfl⟩ := List.getElem_of_mem h
    exact ⟨slot, eq_child_of_getElem?_children (List.getElem?_eq_getElem hslot)⟩
  · rintro ⟨slot, hslot, rfl⟩
    exact List.mem_of_getElem? (getElem?_children hslot)

end TileKey

/-! ## The child test of a source -/

namespace TileSource

variable {α : Type} {layer : Layer} {file : ByteArray} {a : TreeArchive}

/-- A source opened from a file reads the file's archive, unless the archive's table is empty
and the source unavailable. -/
theorem archive_ofFile_cases (hopen : TreeArchive.ofBytes layer file = .ok a) (offset : Nat)
    (decode : ByteArray → Except DecodeError α) :
    ((ofFile layer (some file) offset decode).archive = none ∧ a.toc.nodes.size = 0) ∨
      (ofFile layer (some file) offset decode).archive = some a := by
  have harch := archive_ofFile hopen offset decode
  by_cases hempty : a.nodeCount = 0
  · exact .inl ⟨by simp [harch, hempty], hempty⟩
  · exact .inr (by simp [harch, hempty])

/-- The finest-tile search of a source opened from a file answers the finest present
ancestor, also when the table is empty and the source unavailable. -/
theorem finestPresent_ofFile (hopen : TreeArchive.ofBytes layer file = .ok a) (offset : Nat)
    (decode : ByteArray → Except DecodeError α) (key : TileKey)
    (hkey : key.level + offset ≤ maxNativeLevel) :
    FinestPresent a.toc offset key (key.level + 1)
      ((ofFile layer (some file) offset decode).highestAvailableLevel key) := by
  rcases archive_ofFile_cases hopen offset decode with ⟨hnone, hempty⟩ | hsome
  · rw [highestAvailableLevel_unavailable _ (by simp [isAvailable, hnone])]
    exact FinestPresent.none_of_size_eq_zero hempty _
  · rw [highestAvailableLevel_of_archive _ hsome hkey]
    exact (searchAncestry_eq_iff _ _ _ _).mp rfl

/-- A key is its own finest present ancestor exactly when it has a node. -/
theorem highestAvailableLevel_eq_self_iff (hopen : TreeArchive.ofBytes layer file = .ok a)
    (offset : Nat) (decode : ByteArray → Except DecodeError α) (key : TileKey)
    (hkey : key.level + offset ≤ maxNativeLevel) :
    (ofFile layer (some file) offset decode).highestAvailableLevel key = some key ↔
      (a.toc.indexOf (key.level + offset) key.y key.x).isSome := by
  have hspec := finestPresent_ofFile hopen offset decode key hkey
  constructor
  · intro h
    rw [h] at hspec
    obtain ⟨-, -, hnode, -⟩ := hspec
    simpa [ancestorIndex_of_le (Nat.le_refl key.level)] using hnode
  · intro hnode
    refine hspec.unique (FinestPresent.found (TileKey.ancestorAt_self key) ?_)
    simpa [ancestorIndex, TileKey.ancestorAt_self] using hnode

/-- The child test of a source opened from a file reads the four slots of the key's node. -/
theorem hasAnyChildren_ofFile_iff (hopen : TreeArchive.ofBytes layer file = .ok a)
    (offset : Nat) (decode : ByteArray → Except DecodeError α) (key : TileKey)
    (hkey : key.level + offset ≤ maxNativeLevel) :
    (ofFile layer (some file) offset decode).hasAnyChildren key = true ↔
      ∃ slot < 4, ((a.toc.indexOf (key.level + offset) key.y key.x).bind
        fun i => a.toc.childAt i slot).isSome := by
  rcases archive_ofFile_cases hopen offset decode with ⟨hnone, hempty⟩ | hsome
  · -- an empty table leaves the source unavailable, and has no node to find either
    simp only [hasAnyChildren, hnone, Bool.false_eq_true, false_iff, not_exists, not_and]
    intro slot _ hfound
    obtain ⟨i, hi⟩ := Option.isSome_iff_exists.mp hfound
    obtain ⟨p, -, hchild⟩ := Option.bind_eq_some_iff.mp hi
    have := Toc.childAt_lt hchild
    omega
  · have hnative : (ofFile layer (some file) offset decode).nativeLevel key.level =
        some (key.level + offset) := by
      simp [nativeLevel, hkey, ofFile]
    simp only [hasAnyChildren, hsome, hnative]
    cases hi : a.toc.indexOf (key.level + offset) key.y key.x with
    | none => simp
    | some i =>
      -- the key's node is in the table, so it has its slots
      have hlt := Toc.indexOf_lt hi
      have hslots : a.toc.childSlots i = some ⟨a.toc.nodes[i].child.map a.toc.childOfRaw⟩ := by
        simp [Toc.childSlots, hlt]
      simp only [Option.bind_some, hslots]
      exact Toc.any_childSlots_iff (TreeArchive.fourSlots_of_ofBytes hopen) hslots

/-- What the child test of a source answers for `key`, over the table `toc`. -/
structure ChildAnswer (s : TileSource α) (toc : Toc) (key : TileKey) : Prop where
  /-- the child listed in slot `slot` is found, from the roots, at the node that the key's
  own node holds in slot `slot` -/
  slot_eq : ∀ slot c, key.children[slot]? = some c →
    toc.indexOf (c.level + s.levelOffset) c.y c.x =
      (toc.indexOf (key.level + s.levelOffset) key.y key.x).bind fun i => toc.childAt i slot
  /-- the key has children exactly when one of its children has a node -/
  iff_child_node : s.hasAnyChildren key = true ↔
    ∃ c ∈ key.children, (toc.indexOf (c.level + s.levelOffset) c.y c.x).isSome
  /-- that is, exactly when one of its children is its own finest present ancestor -/
  iff_child_finest : s.hasAnyChildren key = true ↔
    ∃ c ∈ key.children, s.highestAvailableLevel c = some c

/-- **A tile has children exactly when one of its children is present.** On a source opened
from any tree file, for every key at or below the hemisphere roots whose children have a
native level, testing the slots of the key's node agrees with looking each child up from the
roots, the child listed in slot `s` being the one in slot `s` of the node. -/
theorem hasAnyChildren_iff_child_present (hopen : TreeArchive.ofBytes layer file = .ok a)
    (offset : Nat) (decode : ByteArray → Except DecodeError α) (key : TileKey)
    (hroot : rootLevel ≤ key.level + offset) (hkey : key.level + 1 + offset ≤ maxNativeLevel) :
    (ofFile layer (some file) offset decode).ChildAnswer a.toc key := by
  -- the child in slot `slot` is looked up one level below the key
  have hslot : ∀ slot < 4, a.toc.indexOf ((key.child slot).level + offset)
      (key.child slot).y (key.child slot).x =
        (a.toc.indexOf (key.level + offset) key.y key.x).bind fun i => a.toc.childAt i slot := by
    intro slot h4
    have hlevel : (key.child slot).level + offset = key.level + offset + 1 := by
      simp only [TileKey.child]
      omega
    rw [hlevel, Toc.indexOf_child key hroot slot, Nat.mod_eq_of_lt h4]
  -- so the key has children exactly when one of the four children has a node
  have hnode : (ofFile layer (some file) offset decode).hasAnyChildren key = true ↔
      ∃ c ∈ key.children, (a.toc.indexOf (c.level + offset) c.y c.x).isSome := by
    rw [hasAnyChildren_ofFile_iff hopen offset decode key (by omega)]
    constructor
    · rintro ⟨slot, h4, hsome⟩
      exact ⟨key.child slot, TileKey.mem_children.mpr ⟨slot, h4, rfl⟩, by rw [hslot slot h4]; exact hsome⟩
    · rintro ⟨c, hc, hsome⟩
      obtain ⟨slot, h4, rfl⟩ := TileKey.mem_children.mp hc
      exact ⟨slot, h4, by rw [← hslot slot h4]; exact hsome⟩
  refine ⟨fun slot c hc => ?_, hnode, hnode.trans ?_⟩
  · obtain ⟨h4, rfl⟩ := TileKey.eq_child_of_getElem?_children hc
    exact hslot slot h4
  · -- a child has a node exactly when it is its own finest present ancestor
    refine exists_congr fun c => and_congr_right fun hc => ?_
    obtain ⟨slot, -, rfl⟩ := TileKey.mem_children.mp hc
    exact (highestAvailableLevel_eq_self_iff hopen offset decode _
      (by simp only [TileKey.child]; omega)).symm

/-- In the sample file the western hemisphere root has one child, in slot 3. -/
theorem hasAnyChildren_iff_child_present_sample :
    TreeArchive.ofBytes .surface TreeArchive.sampleTreeFile = .ok TreeArchive.sampleTreeArchive ∧
      rootLevel ≤ 4 + 0 ∧ 4 + 1 + 0 ≤ maxNativeLevel ∧
      (ofFile .surface (some TreeArchive.sampleTreeFile) 0
          (Except.ok : ByteArray → Except DecodeError ByteArray)).ChildAnswer
        TreeArchive.sampleTreeArchive.toc ⟨4, 0, 0⟩ :=
  ⟨TreeArchive.ofBytes_sampleTreeFile, by decide, by decide,
    hasAnyChildren_iff_child_present TreeArchive.ofBytes_sampleTreeFile 0 _ _ (by decide)
      (by decide)⟩

end TileSource

end PlanetTiles
