import PlanetTiles.Archive.Tree
import PlanetTiles.Tile.Key
import PlanetTiles.Tile.DecodeError

/-!
# Tile sources

A tile source answers questions about quadtree keys from one archive layer: it finds a
key's node, reads and decodes its payload, asks whether it has children, and finds the
finest tile present along its ancestry. Quadtree level 0 sits at a configured native level
of the archive, so key `(l, x, y)` is the native address `(l + offset, row y, column x)`;
a native level beyond 32 bits does not exist.

An archive that is missing, cannot be opened, or has an empty table of contents makes the
source unavailable, and then every question answers "absent".

The search for the finest tile walks the ancestry from level 0 down. Above the hemisphere
roots it looks each level up directly and skips the levels that are missing; from the
roots down it follows child slots from the node found one level up, and stops at the first
level that has none.

Main statements:

* `TileSource.createImage_unavailable` and `TileSource.highestAvailableLevel_unavailable` —
  an unavailable source has no tiles.
-/

namespace PlanetTiles

open Archive

/-- The largest native level, the largest 32-bit value `2^32 - 1`. -/
def maxNativeLevel : Nat := 4294967295

/-- Keys resolved against one archive layer, with payloads decoded to `α`. -/
structure TileSource (α : Type) where
  /-- the layer the source reads -/
  layer : Layer
  /-- the archive, when it opened with at least one node -/
  archive : Option TreeArchive
  /-- the native level of quadtree level 0 -/
  levelOffset : Nat
  /-- how a payload becomes a raster -/
  decode : ByteArray → Except DecodeError α

namespace TileSource

variable {α : Type}

/-- A source over the file at the layer's path, if there is one: a missing file, one that
does not open, or an empty table of contents gives an unavailable source. -/
def ofFile (layer : Layer) (file : Option ByteArray) (levelOffset : Nat)
    (decode : ByteArray → Except DecodeError α) : TileSource α :=
  let archive := match file with
    | none => none
    | some bytes =>
      match TreeArchive.ofBytes layer bytes with
      | .ok a => if a.nodeCount = 0 then none else some a
      | .error _ => none
  ⟨layer, archive, levelOffset, decode⟩

/-- The source has an archive to read. -/
def isAvailable (s : TileSource α) : Bool :=
  s.archive.isSome

/-- The native level of a quadtree level, none beyond 32 bits. -/
def nativeLevel (s : TileSource α) (level : Nat) : Option Nat :=
  if level + s.levelOffset ≤ maxNativeLevel then some (level + s.levelOffset) else none

/-- Reads and decodes the tile at a key; none when the tile is absent, has no data, cannot
be read or does not decode. -/
def createImage (s : TileSource α) (key : TileKey) : Option α :=
  match s.archive, s.nativeLevel key.level with
  | some a, some native =>
    match a.readRawTile native key.y key.x with
    | .ok (some raw) => if raw.size = 0 then none else (s.decode raw).toOption
    | _ => none
  | _, _ => none

/-- The tile at a key exists and has a child in some slot. -/
def hasAnyChildren (s : TileSource α) (key : TileKey) : Bool :=
  match s.archive, s.nativeLevel key.level with
  | some a, some native =>
    match (a.toc.indexOf native key.y key.x).bind a.toc.childSlots with
    | some slots => slots.any
    | none => false
  | _, _ => false

end TileSource

/-- The node of ancestor `step` at native level `native`: through the child slots of the
node one level up once below the roots, else looked up directly. -/
def ancestorNode (toc : Toc) (native : Nat) (step : TileKey) (parent : Option Nat) : Option Nat :=
  match parent with
  | some p => if rootLevel < native then toc.childAt p (childSlot step.y step.x)
      else toc.indexOf native step.y step.x
  | none => toc.indexOf native step.y step.x

/-- Walks the ancestry of `key` from quadtree level `level` down, `remaining` levels in
all, with the finest tile found so far and its node. -/
def searchAncestry (toc : Toc) (offset : Nat) (key : TileKey) :
    (level remaining : Nat) → (best : Option TileKey) → (node : Option Nat) → Option TileKey
  | _, 0, best, _ => best
  | level, remaining + 1, best, node =>
    let step : TileKey := ⟨level, key.x >>> (key.level - level), key.y >>> (key.level - level)⟩
    let native := level + offset
    match ancestorNode toc native step node with
    | some found => searchAncestry toc offset key (level + 1) remaining (some step) (some found)
    | none =>
      if native < rootLevel then searchAncestry toc offset key (level + 1) remaining best node
      else best

namespace TileSource

variable {α : Type}

/-- The finest tile present along the ancestry of a key, the key included. -/
def highestAvailableLevel (s : TileSource α) (key : TileKey) : Option TileKey :=
  match s.archive, s.nativeLevel key.level with
  | some a, some _ => searchAncestry a.toc s.levelOffset key 0 (key.level + 1) none none
  | _, _ => none

theorem createImage_unavailable (s : TileSource α) (h : s.isAvailable = false) (key : TileKey) :
    s.createImage key = none := by
  unfold isAvailable at h
  unfold createImage
  cases ha : s.archive with
  | none => rfl
  | some a => simp [ha] at h

theorem highestAvailableLevel_unavailable (s : TileSource α) (h : s.isAvailable = false)
    (key : TileKey) : s.highestAvailableLevel key = none := by
  unfold isAvailable at h
  unfold highestAvailableLevel
  cases ha : s.archive with
  | none => rfl
  | some a => simp [ha] at h

end TileSource

end PlanetTiles
