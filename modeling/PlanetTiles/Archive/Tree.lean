import PlanetTiles.Bytes.LittleEndian
import PlanetTiles.Deflate.Inflate
import PlanetTiles.Archive.Layer
import PlanetTiles.Archive.Toc
import PlanetTiles.Archive.Error

/-!
# Tree archives

A tree file is a 48-byte header, a table of contents of 28-byte nodes starting at the
header's end, and a data section of zlib-compressed node payloads. All fields are
little-endian.

| offset | size | field |
|---|---|---|
| 0 | 4 | magic `54 58 01 00` |
| 4 | 4 | header size, where the table of contents starts |
| 8 | 4 | flags |
| 12 | 4 | offset of the data section |
| 16 | 8 | length of the data section |
| 24 | 4 | number of nodes |
| 28 | 3 × 4 | whole-body roots of native levels 1 to 3 |
| 40 | 2 × 4 | hemisphere roots of native level 4 |

A node is its block's start relative to the data section (8 bytes), its inflated size
(4 bytes) and four child indices (4 bytes each). A node's block runs from its start to the
next larger start of any node, or to the end of the data section. An opened file finds these
ends for all nodes at once, by sorting the starts and searching them, and keeps them in a
table beside the nodes (`blockEnds`); a read takes its node's end from that table.

Opening checks, in this order: the file holds a header, the magic, the header size, that
the data section does not start inside the table of contents, that the file holds the
table, and that it holds the data section. Reading a node checks its block against the
file and inflates it, asking for one byte more than the node's size so that a longer
stream is told apart from an exact one. The zlib reader is a parameter of the read
(`readNodeWith`): all the read needs of it is that it never gives more bytes than it was
asked for. `readRawTile` reads a tile with this library's own reader, `inflatePrefix`.

Main statement:

* `readNodeWith_ok_size` — a node read without error has exactly its declared size.
-/

namespace PlanetTiles.Archive

open Bytes Deflate

/-- The magic number that opens a tree file. -/
def treeMagic : List UInt8 := [0x54, 0x58, 0x01, 0x00]

/-- The size of the fixed header. -/
def headerBytes : Nat := 48

/-- The size of one node of the table of contents. -/
def nodeBytes : Nat := 28

/-- The decoded header of a tree file. -/
structure TreeHeader where
  /-- header size: where the table of contents starts -/
  headerSize : Nat
  /-- unused bit flags -/
  flags : Nat
  /-- offset of the data section -/
  dataOffset : Nat
  /-- length of the data section -/
  dataLength : Nat
  /-- number of nodes -/
  nodeCount : Nat
  /-- the root indices -/
  roots : Roots
  deriving DecidableEq, Repr

namespace TreeHeader

/-- Where the table of contents ends. -/
def tocEnd (h : TreeHeader) : Nat :=
  h.headerSize + h.nodeCount * nodeBytes

/-- Reads the header fields of a file, without checking them. -/
def read (file : ByteArray) : TreeHeader where
  headerSize := readLE file 4 4
  flags := readLE file 8 4
  dataOffset := readLE file 12 4
  dataLength := readLE file 16 8
  nodeCount := readLE file 24 4
  roots :=
    { wholeBody := [28, 32, 36].map fun off => rootOfRaw (readLE file off 4)
      hemispheres := [40, 44].map fun off => rootOfRaw (readLE file off 4) }

end TreeHeader

/-- Reads the node stored at `offset`. -/
def TocNode.read (file : ByteArray) (offset : Nat) : TocNode where
  pos := readLE file offset 8
  size := readLE file (offset + 8) 4
  child := [12, 16, 20, 24].map fun off => readLE file (offset + off) 4

/-- The end of the block that starts at `pos`: the smallest start of any node beyond it,
or the end of the data section when no node starts later. -/
def blockEnd (starts : List Nat) (dataLength pos : Nat) : Nat :=
  ((starts.filter (pos < ·)).min?).getD dataLength

/-- The binary search behind `partitionPoint`: a window of `size ≥ 1` elements from `base` is
halved until one element is left, moving up to the middle when `p` holds there; the last
element then says whether the point is at it or just after it. -/
def partitionPointFrom {α : Type} (p : α → Bool) (xs : Array α) (base size : Nat)
    (hsize : 0 < size) (hend : base + size ≤ xs.size) : Nat :=
  if size = 1 then
    if p xs[base] then base + 1 else base
  else
    let mid := base + size / 2
    partitionPointFrom p xs (if p xs[mid] then mid else base) (size - size / 2) (by omega)
      (by split <;> omega)
termination_by size
decreasing_by omega

/-- The index of the first element of `xs` at which `p` fails, for an array whose elements
satisfying `p` all come first. -/
def partitionPoint {α : Type} (p : α → Bool) (xs : Array α) : Nat :=
  if h : xs.size = 0 then 0 else partitionPointFrom p xs 0 xs.size (by omega) (by omega)

/-- The ends of all blocks, one per node, as an opened file computes them once: the starts
sorted with repeats removed, then for each node the first of them beyond its own start, found
by binary search, or the end of the data section when there is none. -/
def blockEnds (nodes : List TocNode) (dataLength : Nat) : List Nat :=
  let starts := (nodes.map (·.pos)).mergeSort.eraseReps.toArray
  nodes.map fun node => (starts[partitionPoint (· ≤ node.pos) starts]?).getD dataLength

/-- An opened tree file: its layer, its bytes, its header, its table of contents, and the end
of every node's block. -/
structure TreeArchive where
  /-- the layer the file belongs to -/
  layer : Layer
  /-- the whole file -/
  file : ByteArray
  /-- the decoded header -/
  header : TreeHeader
  /-- the table of contents -/
  toc : Toc
  /-- the end of each node's block, relative to the data section, found once on opening -/
  blockEnds : List Nat
  /-- one end per node -/
  length_blockEnds : blockEnds.length = toc.nodes.size

namespace TreeArchive

/-- Opens a tree file held in memory. -/
def ofBytes (layer : Layer) (file : ByteArray) : Except ArchiveError TreeArchive :=
  if file.size < headerBytes then .error (.truncated 0 headerBytes)
  else
    let magic := (file.extract 0 4).toList
    if magic ≠ treeMagic then .error (.badMagic magic)
    else
      let h := TreeHeader.read file
      if h.headerSize < headerBytes then .error (.invalidHeader (.headerTooSmall h.headerSize))
      else if h.dataOffset < h.tocEnd then
        .error (.invalidHeader (.dataOverlapsToc h.dataOffset h.tocEnd))
      else if file.size < h.tocEnd then
        .error (.truncated h.headerSize (h.nodeCount * nodeBytes))
      else if file.size < h.dataOffset + h.dataLength then
        .error (.truncated h.dataOffset h.dataLength)
      else
        let nodes := (List.range h.nodeCount).map fun i =>
          TocNode.read file (h.headerSize + i * nodeBytes)
        .ok { layer, file, header := h, toc := { roots := h.roots, nodes := nodes.toArray },
              blockEnds := Archive.blockEnds nodes h.dataLength,
              length_blockEnds := by simp [Archive.blockEnds] }

/-- The number of nodes. -/
def nodeCount (a : TreeArchive) : Nat :=
  a.toc.nodes.size

end TreeArchive

/-- The largest offset a file can have, `2^64 - 1`; offsets beyond it are held at it. -/
def maxOffset : Nat := 18446744073709551615

namespace TreeArchive

/-- Reads node `index`, which is `node` and whose block ends at `stop`, with the zlib reader
`inflate`, which is given the block and the most bytes to give: nothing for a node without
data, else exactly `size` bytes, or the reason why not. -/
def readBlockWith (inflate : ByteArray → Nat → Option ByteArray) (a : TreeArchive)
    (index : Nat) (node : TocNode) (stop : Nat) : Except ArchiveError (Option ByteArray) :=
  if node.size = 0 then .ok none
  else if stop < node.pos then
    .error (.invalidHeader (.nodeBeyondData index node.pos a.header.dataLength))
  else
    let len := stop - node.pos
    let offset := min (a.header.dataOffset + node.pos) maxOffset
    if a.file.size < offset + len then .error (.truncated offset len)
    else
      match inflate (a.file.extract offset (offset + len)) (node.size + 1) with
      | none => .error (.inflate index)
      | some out =>
        if out.size = node.size then .ok (some out)
        else .error (.sizeMismatch index node.size out.size)

/-- Reads and inflates the payload of node `index` with the zlib reader `inflate`, its block
ending where the table of block ends says: nothing for an index outside the table. -/
def readNodeWith (inflate : ByteArray → Nat → Option ByteArray) (a : TreeArchive)
    (index : Nat) : Except ArchiveError (Option ByteArray) :=
  if h : index < a.toc.nodes.size then
    have : index < a.blockEnds.length := Nat.lt_of_lt_of_eq h a.length_blockEnds.symm
    a.readBlockWith inflate index a.toc.nodes[index] a.blockEnds[index]
  else .ok none

/-- Reads the tile at a native address with the zlib reader `inflate`: the node `indexOf`
finds, if any. -/
def readRawTileWith (inflate : ByteArray → Nat → Option ByteArray) (a : TreeArchive)
    (level row col : Nat) : Except ArchiveError (Option ByteArray) :=
  match a.toc.indexOf level row col with
  | none => .ok none
  | some index => a.readNodeWith inflate index

/-- Reads the tile at a native address with this library's zlib reader. -/
def readRawTile (a : TreeArchive) (level row col : Nat) : Except ArchiveError (Option ByteArray) :=
  a.readRawTileWith inflatePrefix level row col

section Read

variable {inflate : ByteArray → Nat → Option ByteArray} {a : TreeArchive} {index : Nat}
  {node : TocNode}

/-- Every node has an entry in the table of block ends. -/
theorem exists_blockEnd (hnode : a.toc.nodes[index]? = some node) :
    ∃ stop, a.blockEnds[index]? = some stop := by
  have h := (Array.getElem?_eq_some_iff.mp hnode).1
  exact ⟨_, List.getElem?_eq_getElem (Nat.lt_of_lt_of_eq h a.length_blockEnds.symm)⟩

theorem readNodeWith_eq_readBlockWith {stop : Nat} (hnode : a.toc.nodes[index]? = some node)
    (hstop : a.blockEnds[index]? = some stop) :
    a.readNodeWith inflate index = a.readBlockWith inflate index node stop := by
  obtain ⟨h, rfl⟩ := Array.getElem?_eq_some_iff.mp hnode
  obtain ⟨_, rfl⟩ := List.getElem?_eq_some_iff.mp hstop
  rw [readNodeWith, dif_pos h]

theorem readNodeWith_of_size_le (h : a.toc.nodes.size ≤ index) :
    a.readNodeWith inflate index = .ok none := by
  rw [readNodeWith, dif_neg (Nat.not_lt.mpr h)]

theorem readRawTileWith_of_indexOf {level row col : Nat}
    (hi : a.toc.indexOf level row col = some index) :
    a.readRawTileWith inflate level row col = a.readNodeWith inflate index := by
  simp only [readRawTileWith, hi]

/-- A read of a block that does not fail gives nothing for a node without data, and else a
tile of the node's size. -/
theorem readBlockWith_eq_ok {stop : Nat} {tile : Option ByteArray}
    (h : a.readBlockWith inflate index node stop = .ok tile) :
    (node.size = 0 ∧ tile = none) ∨
      (node.size ≠ 0 ∧ ∃ out, tile = some out ∧ out.size = node.size) := by
  unfold readBlockWith at h
  split at h
  · cases h
    exact .inl ⟨‹_›, rfl⟩
  split at h
  · cases h
  dsimp only at h
  -- past the checks, only an inflated block of the node's size gets through
  split at h
  · cases h
  split at h
  · cases h
  split at h
  · cases h
    exact .inr ⟨‹_›, _, rfl, ‹_›⟩
  · cases h

theorem readBlockWith_ok_size {stop : Nat} {out : ByteArray}
    (h : a.readBlockWith inflate index node stop = .ok (some out)) : out.size = node.size := by
  rcases readBlockWith_eq_ok h with ⟨-, hnone⟩ | ⟨-, out', hout, hsize⟩
  · cases hnone
  · cases hout
    exact hsize

/-- A node read without error has exactly its declared size. -/
theorem readNodeWith_ok_size {out : ByteArray} (hnode : a.toc.nodes[index]? = some node)
    (h : a.readNodeWith inflate index = .ok (some out)) : out.size = node.size := by
  obtain ⟨stop, hstop⟩ := exists_blockEnd hnode
  rw [readNodeWith_eq_readBlockWith hnode hstop] at h
  exact readBlockWith_ok_size h

end Read

end TreeArchive

end PlanetTiles.Archive
