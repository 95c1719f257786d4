import PlanetTiles.Tile.Source
import PlanetTiles.Proofs.TocLookup
import PlanetTiles.Proofs.TileRead

/-!
# The finest tile present along a key's ancestry

`TileSource.highestAvailableLevel` walks the ancestry of a key from quadtree level 0 down.
It finds nodes in two ways: it looks a level up directly from the roots while it is above the
hemisphere roots (and at the first level it visits), and from the roots down it takes the
child slot of the node it found one level up. Above the roots it skips the levels that are
missing; from the roots down it stops at the first one.

The answer is nevertheless the declarative one, `FinestPresent`: the ancestor at the finest
level whose native address has a node, or nothing when no level has one. Two facts carry
this. A child slot taken from the parent's node is a fresh lookup of the child
(`Toc.indexOf_succ`), and from the roots down a missing tile hides its whole subtree, so
stopping loses nothing.

Main statements:

* `searchAncestry_finest` — the run lemma: the search ends at the finest present ancestor.
* `highestAvailableLevel_finest_present` — **the finest present ancestor**, for every key of
  a source opened from any tree file, with what follows from it.
-/

namespace PlanetTiles

open Archive

namespace TileKey

theorem ancestorAt_of_le {key : TileKey} {l : Nat} (hl : l ≤ key.level) :
    key.ancestorAt l = some ⟨l, key.x >>> (key.level - l), key.y >>> (key.level - l)⟩ := by
  simp [ancestorAt, Nat.not_lt.mpr hl]

theorem level_of_ancestorAt {key a : TileKey} {l : Nat} (h : key.ancestorAt l = some a) :
    a.level = l ∧ l ≤ key.level := by
  unfold ancestorAt at h
  split at h
  · cases h
  · cases h
    exact ⟨rfl, by omega⟩

end TileKey

/-- The node of the ancestor of `key` at quadtree level `l`, looked up from the roots at its
native level `l + offset`; none when `l` lies below the key. -/
def ancestorIndex (toc : Toc) (offset : Nat) (key : TileKey) (l : Nat) : Option Nat :=
  (key.ancestorAt l).bind fun a => toc.indexOf (l + offset) a.y a.x

/-- `found` is the finest ancestor of `key` among the levels below `n` whose node exists:
`some a` for the ancestor at the finest such level, `none` when no level has one. -/
def FinestPresent (toc : Toc) (offset : Nat) (key : TileKey) (n : Nat) : Option TileKey → Prop
  | none => ∀ l < n, ancestorIndex toc offset key l = none
  | some a => a.level < n ∧ key.ancestorAt a.level = some a ∧
      (ancestorIndex toc offset key a.level).isSome ∧
      ∀ l, a.level < l → l < n → ancestorIndex toc offset key l = none

section AncestorIndex

variable {toc : Toc} {offset : Nat} {key : TileKey}

theorem ancestorIndex_of_le {l : Nat} (hl : l ≤ key.level) :
    ancestorIndex toc offset key l =
      toc.indexOf (l + offset) (key.y >>> (key.level - l)) (key.x >>> (key.level - l)) := by
  simp [ancestorIndex, TileKey.ancestorAt_of_le hl]

/-- From the roots down, the node of the next finer ancestor is a child of this one's node,
in the finer ancestor's own slot. -/
theorem ancestorIndex_succ {l : Nat} (hl : l < key.level) (hroot : rootLevel ≤ l + offset) :
    ancestorIndex toc offset key (l + 1) =
      (ancestorIndex toc offset key l).bind fun i =>
        toc.childAt i (childSlot (key.y >>> (key.level - (l + 1)))
          (key.x >>> (key.level - (l + 1)))) := by
  have hshift : ∀ n : Nat, (n >>> (key.level - (l + 1))) >>> 1 = n >>> (key.level - l) := by
    intro n
    rw [← Nat.shiftRight_add]
    congr 1
    omega
  rw [ancestorIndex_of_le (by omega), ancestorIndex_of_le (by omega), Nat.add_right_comm,
    Toc.indexOf_succ _ _ hroot, hshift, hshift]

/-- From the roots down, once an ancestor is missing every finer one is missing too. -/
theorem ancestorIndex_eq_none_of_le {l : Nat} (hroot : rootLevel ≤ l + offset)
    (hl : ancestorIndex toc offset key l = none) :
    ∀ m, l ≤ m → m ≤ key.level → ancestorIndex toc offset key m = none := by
  intro m hm
  obtain ⟨d, rfl⟩ := Nat.exists_eq_add_of_le hm
  induction d with
  | zero => exact fun _ => hl
  | succ d ih =>
    intro hmk
    rw [← Nat.add_assoc, ancestorIndex_succ (by omega) (by omega), ih (by omega) (by omega),
      Option.bind_none]

end AncestorIndex

namespace FinestPresent

variable {toc : Toc} {offset : Nat} {key : TileKey}

theorem zero : FinestPresent toc offset key 0 none :=
  fun _ hl => absurd hl (Nat.not_lt_zero _)

/-- Over a table without nodes nothing is ever present. -/
theorem none_of_size_eq_zero (h : toc.nodes.size = 0) (n : Nat) :
    FinestPresent toc offset key n none := by
  intro l _
  cases hi : ancestorIndex toc offset key l with
  | none => rfl
  | some i =>
    obtain ⟨a, -, ha⟩ := Option.bind_eq_some_iff.mp hi
    have := Toc.indexOf_lt ha
    omega

/-- An ancestor with a node is the finest present one among the levels up to its own. -/
theorem found {l : Nat} {a : TileKey} (ha : key.ancestorAt l = some a)
    (hnode : (ancestorIndex toc offset key l).isSome) :
    FinestPresent toc offset key (l + 1) (some a) := by
  obtain ⟨rfl, -⟩ := TileKey.level_of_ancestorAt ha
  exact ⟨Nat.lt_succ_self _, ha, hnode, fun l h1 h2 => absurd h2 (by omega)⟩

/-- Levels without a node do not change the finest present ancestor. -/
theorem extend {n m : Nat} {r : Option TileKey} (h : FinestPresent toc offset key n r)
    (hnm : n ≤ m) (hnone : ∀ l, n ≤ l → l < m → ancestorIndex toc offset key l = none) :
    FinestPresent toc offset key m r := by
  cases r with
  | none =>
    intro l hl
    by_cases hln : l < n
    · exact h l hln
    · exact hnone l (by omega) hl
  | some a =>
    obtain ⟨hlt, ha, hnode, hfiner⟩ := h
    refine ⟨by omega, ha, hnode, fun l h1 h2 => ?_⟩
    by_cases hln : l < n
    · exact hfiner l h1 hln
    · exact hnone l (by omega) h2

theorem skip {n : Nat} {r : Option TileKey} (h : FinestPresent toc offset key n r)
    (hn : ancestorIndex toc offset key n = none) : FinestPresent toc offset key (n + 1) r :=
  h.extend (Nat.le_succ n) fun l h1 h2 => by
    obtain rfl : l = n := by omega
    exact hn

/-- There is one finest present ancestor. -/
theorem unique {n : Nat} {r r' : Option TileKey} (h : FinestPresent toc offset key n r)
    (h' : FinestPresent toc offset key n r') : r = r' := by
  cases r with
  | none =>
    cases r' with
    | none => rfl
    | some b =>
      obtain ⟨hb, -, hnode, -⟩ := h'
      simp [h b.level hb] at hnode
  | some a =>
    obtain ⟨ha, hanc, hnode, hfiner⟩ := h
    cases r' with
    | none => simp [h' a.level ha] at hnode
    | some b =>
      obtain ⟨hb, hanc', hnode', hfiner'⟩ := h'
      -- neither can be finer than the other, so both sit at one level
      have hlevel : a.level = b.level := by
        rcases Nat.lt_trichotomy a.level b.level with hab | hab | hab
        · simp [hfiner b.level hab hb] at hnode'
        · exact hab
        · simp [hfiner' a.level hab ha] at hnode
      rw [hlevel, hanc'] at hanc
      exact hanc.symm

end FinestPresent

/-- What the search knows on reaching quadtree level `level`. -/
structure SearchInv (toc : Toc) (offset : Nat) (key : TileKey) (level : Nat)
    (best : Option TileKey) (node : Option Nat) : Prop where
  /-- the best tile so far is the finest present one among the levels passed -/
  best_finest : FinestPresent toc offset key level best
  /-- no node is carried into the first level -/
  node_start : level = 0 → node = none
  /-- below the roots the node carried is the one of the level just passed -/
  node_parent : 0 < level → rootLevel < level + offset →
    node = ancestorIndex toc offset key (level - 1)

/-- The step lemma: whichever way the search finds the node of the current level, it finds
the one a lookup from the roots gives. -/
theorem ancestorNode_eq_ancestorIndex {toc : Toc} {offset : Nat} {key : TileKey}
    {level : Nat} {best : Option TileKey} {node : Option Nat}
    (inv : SearchInv toc offset key level best node) (hl : level ≤ key.level) :
    ancestorNode toc (level + offset)
        ⟨level, key.x >>> (key.level - level), key.y >>> (key.level - level)⟩ node =
      ancestorIndex toc offset key level := by
  cases node with
  | none => exact (ancestorIndex_of_le hl).symm
  | some p =>
    simp only [ancestorNode]
    by_cases hroot : rootLevel < level + offset
    · -- below the roots: the child slot of the parent's node
      have hpos : 0 < level := Nat.pos_of_ne_zero fun h0 => by simpa using inv.node_start h0
      have hp := inv.node_parent hpos hroot
      obtain ⟨l, rfl⟩ : ∃ l, level = l + 1 := ⟨level - 1, by omega⟩
      rw [if_pos hroot, ancestorIndex_succ (by omega) (by omega)]
      simp only [Nat.add_sub_cancel] at hp
      rw [← hp, Option.bind_some]
    · rw [if_neg hroot]
      exact (ancestorIndex_of_le hl).symm

/-- The run lemma: from any level where the invariant holds, the search ends at the finest
present ancestor of the whole line. -/
theorem searchAncestry_finest (toc : Toc) (offset : Nat) (key : TileKey) :
    ∀ remaining level best node, level + remaining = key.level + 1 →
      SearchInv toc offset key level best node →
      FinestPresent toc offset key (key.level + 1)
        (searchAncestry toc offset key level remaining best node) := by
  intro remaining
  induction remaining with
  | zero =>
    intro level best node hlen inv
    simp only [Nat.add_zero] at hlen
    subst hlen
    exact inv.best_finest
  | succ r ih =>
    intro level best node hlen inv
    have hl : level ≤ key.level := by omega
    simp only [searchAncestry]
    rw [ancestorNode_eq_ancestorIndex inv hl]
    cases hfound : ancestorIndex toc offset key level with
    | some f =>
      -- the ancestor is present: it becomes the best tile and its node is carried on
      refine ih (level + 1) _ _ (by omega) ⟨?_, fun h => absurd h (Nat.succ_ne_zero _), ?_⟩
      · exact FinestPresent.found (TileKey.ancestorAt_of_le hl) (by simp [hfound])
      · intro _ _
        simp [hfound]
    | none =>
      simp only
      split
      · -- above the roots a missing level is skipped
        refine ih (level + 1) best node (by omega)
          ⟨inv.best_finest.skip hfound, fun h => absurd h (Nat.succ_ne_zero _), ?_⟩
        intro _ h
        omega
      · -- from the roots down a missing level hides everything finer
        exact inv.best_finest.extend (by omega) fun l h1 h2 =>
          ancestorIndex_eq_none_of_le (by omega) hfound l h1 (by omega)

/-- The search started at level 0 with nothing found answers exactly the finest present
ancestor. -/
theorem searchAncestry_eq_iff (toc : Toc) (offset : Nat) (key : TileKey) (r : Option TileKey) :
    searchAncestry toc offset key 0 (key.level + 1) none none = r ↔
      FinestPresent toc offset key (key.level + 1) r := by
  have hrun := searchAncestry_finest toc offset key (key.level + 1) 0 none none (by omega)
    ⟨FinestPresent.zero, fun _ => rfl, fun h => absurd h (Nat.lt_irrefl 0)⟩
  exact ⟨fun h => h ▸ hrun, fun h => hrun.unique h⟩

namespace TileSource

variable {α : Type}

theorem highestAvailableLevel_of_archive (s : TileSource α) {a : TreeArchive}
    (ha : s.archive = some a) {key : TileKey} (hkey : key.level + s.levelOffset ≤ maxNativeLevel) :
    s.highestAvailableLevel key =
      searchAncestry a.toc s.levelOffset key 0 (key.level + 1) none none := by
  simp [highestAvailableLevel, ha, nativeLevel, hkey]

/-- A tile that reads and decodes has a node. -/
theorem indexOf_isSome_of_createImage (s : TileSource α) {a : TreeArchive}
    (ha : s.archive = some a) {key : TileKey} (h : (s.createImage key).isSome) :
    (a.toc.indexOf (key.level + s.levelOffset) key.y key.x).isSome := by
  cases hi : a.toc.indexOf (key.level + s.levelOffset) key.y key.x with
  | some i => rfl
  | none =>
    have hread : a.readRawTile (key.level + s.levelOffset) key.y key.x = .ok none := by
      simp [TreeArchive.readRawTile, TreeArchive.readRawTileWith, hi]
    unfold createImage nativeLevel at h
    rw [ha] at h
    split at h <;> simp_all

/-- A source opened from a file that opens has its archive, unless the table is empty. -/
theorem archive_ofFile {layer : Layer} {file : ByteArray} {a : TreeArchive}
    (hopen : TreeArchive.ofBytes layer file = .ok a) (offset : Nat)
    (decode : ByteArray → Except DecodeError α) :
    (ofFile layer (some file) offset decode).archive = if a.nodeCount = 0 then none else some a := by
  simp [ofFile, hopen]

/-- What the finest-tile search of a source answers for `key`, over the table `toc`. -/
structure FinestAnswer (s : TileSource α) (toc : Toc) (key : TileKey) : Prop where
  /-- the answer is exactly the finest present ancestor -/
  eq_iff : ∀ r, s.highestAvailableLevel key = r ↔
    FinestPresent toc s.levelOffset key (key.level + 1) r
  /-- so it is never finer than the key, and the key lies under it -/
  above : ∀ r, s.highestAvailableLevel key = some r →
    r.level ≤ key.level ∧ key.isDescendantOf r = true
  /-- a key with a node is its own answer -/
  self_of_node : (toc.indexOf (key.level + s.levelOffset) key.y key.x).isSome →
    s.highestAvailableLevel key = some key
  /-- in particular a key whose tile reads and decodes -/
  self_of_createImage : (s.createImage key).isSome → s.highestAvailableLevel key = some key

/-- **The finest present ancestor.** On a source opened from any tree file, for every key
whose native level exists, the search answers exactly the ancestor at the finest level whose
native address has a node, and nothing when none has, although it mixes lookups from the
roots with steps through child slots, skips missing levels above the roots and stops at the
first missing one below them. -/
theorem highestAvailableLevel_finest_present {layer : Layer} {file : ByteArray}
    {a : TreeArchive} (hopen : TreeArchive.ofBytes layer file = .ok a) (offset : Nat)
    (decode : ByteArray → Except DecodeError α) (key : TileKey)
    (hkey : key.level + offset ≤ maxNativeLevel) :
    (ofFile layer (some file) offset decode).FinestAnswer a.toc key := by
  have harch := archive_ofFile hopen offset decode
  have hoff : (ofFile layer (some file) offset decode).levelOffset = offset := rfl
  generalize ofFile layer (some file) offset decode = s at harch hoff ⊢
  subst hoff
  -- the answer is the finest present ancestor, also when the table is empty
  have hspec :
      FinestPresent a.toc s.levelOffset key (key.level + 1) (s.highestAvailableLevel key) := by
    by_cases hempty : a.nodeCount = 0
    · rw [highestAvailableLevel_unavailable s (by simp [isAvailable, harch, hempty])]
      exact FinestPresent.none_of_size_eq_zero hempty _
    · have hsome : s.archive = some a := by simp [harch, hempty]
      rw [highestAvailableLevel_of_archive s hsome hkey]
      exact (searchAncestry_eq_iff _ _ _ _).mp rfl
  -- a key with a node is its own finest present ancestor
  have hself : (a.toc.indexOf (key.level + s.levelOffset) key.y key.x).isSome →
      s.highestAvailableLevel key = some key := by
    intro hnode
    refine hspec.unique (FinestPresent.found (TileKey.ancestorAt_self key) ?_)
    simpa [ancestorIndex, TileKey.ancestorAt_self] using hnode
  refine ⟨fun r => ⟨fun h => h ▸ hspec, hspec.unique⟩, fun r hr => ?_, hself, fun h => hself ?_⟩
  · rw [hr] at hspec
    obtain ⟨hlt, hanc, -, -⟩ := hspec
    exact ⟨by omega, by simp [TileKey.isDescendantOf, hanc]⟩
  · -- a tile that reads comes from the archive, which is then the source's
    by_cases hempty : a.nodeCount = 0
    · rw [createImage_unavailable s (by simp [isAvailable, harch, hempty])] at h
      cases h
    · have hsome : s.archive = some a := by simp [harch, hempty]
      exact indexOf_isSome_of_createImage s hsome h

theorem highestAvailableLevel_finest_present_sample :
    TreeArchive.ofBytes .surface TreeArchive.sampleTreeFile = .ok TreeArchive.sampleTreeArchive ∧
      6 + 0 ≤ maxNativeLevel ∧
      (ofFile .surface (some TreeArchive.sampleTreeFile) 0
          (Except.ok : ByteArray → Except DecodeError ByteArray)).FinestAnswer
        TreeArchive.sampleTreeArchive.toc ⟨6, 3, 2⟩ :=
  ⟨TreeArchive.ofBytes_sampleTreeFile, by decide,
    highestAvailableLevel_finest_present TreeArchive.ofBytes_sampleTreeFile 0 _ _ (by decide)⟩

end TileSource

end PlanetTiles
