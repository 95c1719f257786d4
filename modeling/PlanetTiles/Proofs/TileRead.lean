import Mathlib
import PlanetTiles.Archive.Tree
import PlanetTiles.Proofs.Bytes
import PlanetTiles.Proofs.BlockRanges
import PlanetTiles.Proofs.TreeOpen

/-!
# Reading a tile reads its own block

A tile is read in four steps: its native address is looked up in the table of contents,
the node found gives the block's start, the table of block ends found on opening gives its
end, and the block's bytes go through a zlib reader that asks for one byte more than the
node's size.

The zlib reader is a parameter here. All that is assumed of it is that it never gives more
bytes than it is asked for, which `inflatePrefix`, this library's reader, meets
(`inflatePrefix_size_le`). This module shows that the read fails or succeeds exactly as these
steps say, for every such reader, every file that opens and every address:

* a tile without a node, or whose node carries no data, reads as absent;
* a block that ends before it starts, or runs past the end of the file, is an error that
  names the node or the bytes it needed;
* otherwise the reader is given exactly the bytes of the block, taken from the file, and
  the tile is what it inflates to, when that is the node's size.

Main statement:

* `readRawTile_reads_block` — **a tile is its own block, inflated**.
-/

namespace PlanetTiles.Archive

open Bytes Deflate

namespace TreeArchive

section ReadBlock

variable (inflate : ByteArray → Nat → Option ByteArray) (a : TreeArchive) {index : Nat}
  {node : TocNode} {stop : Nat}

/-- Where a node's block starts in the file: the data section's offset plus the block's
start, held at the largest file offset. -/
abbrev blockOffset (node : TocNode) : Nat :=
  min (a.header.dataOffset + node.pos) maxOffset

theorem readBlockWith_of_size_eq_zero (hsize : node.size = 0) :
    a.readBlockWith inflate index node stop = .ok none := by
  simp [readBlockWith, hsize]

theorem readBlockWith_of_stop_lt (hsize : node.size ≠ 0) (hstop : stop < node.pos) :
    a.readBlockWith inflate index node stop =
      .error (.invalidHeader (.nodeBeyondData index node.pos a.header.dataLength)) := by
  simp [readBlockWith, hsize, hstop]

theorem readBlockWith_of_past_end (hsize : node.size ≠ 0) (hstop : node.pos ≤ stop)
    (hend : a.file.size < a.blockOffset node + (stop - node.pos)) :
    a.readBlockWith inflate index node stop =
      .error (.truncated (a.blockOffset node) (stop - node.pos)) := by
  simp [readBlockWith, hsize, Nat.not_lt.mpr hstop, hend]

theorem readBlockWith_of_inflate_none (hsize : node.size ≠ 0) (hstop : node.pos ≤ stop)
    (hend : a.blockOffset node + (stop - node.pos) ≤ a.file.size)
    (hinflate : inflate (a.file.extract (a.blockOffset node)
      (a.blockOffset node + (stop - node.pos))) (node.size + 1) = none) :
    a.readBlockWith inflate index node stop = .error (.inflate index) := by
  simp only [readBlockWith, hsize, Nat.not_lt.mpr hstop, Nat.not_lt.mpr hend, if_false, hinflate]

theorem readBlockWith_of_inflate_some {out : ByteArray} (hsize : node.size ≠ 0)
    (hstop : node.pos ≤ stop) (hend : a.blockOffset node + (stop - node.pos) ≤ a.file.size)
    (hinflate : inflate (a.file.extract (a.blockOffset node)
      (a.blockOffset node + (stop - node.pos))) (node.size + 1) = some out) :
    a.readBlockWith inflate index node stop =
      if out.size = node.size then .ok (some out)
      else .error (.sizeMismatch index node.size out.size) := by
  simp only [readBlockWith, hsize, Nat.not_lt.mpr hstop, Nat.not_lt.mpr hend, if_false, hinflate]

/-- A node with data is never read as absent: past the size check every branch fails or
gives a tile. -/
theorem size_eq_zero_of_readBlockWith (h : a.readBlockWith inflate index node stop = .ok none) :
    node.size = 0 := by
  rcases readBlockWith_eq_ok h with ⟨hsize, -⟩ | ⟨-, out, hout, -⟩
  · exact hsize
  · cases hout

end ReadBlock

section ReadTile

variable {inflate : ByteArray → Nat → Option ByteArray} {a : TreeArchive} {level row col : Nat}

/-- A tile is absent exactly when its address has no node or its node has no data. -/
theorem readRawTileWith_eq_ok_none_iff :
    a.readRawTileWith inflate level row col = .ok none ↔
      a.toc.indexOf level row col = none ∨
        ∃ i node, a.toc.indexOf level row col = some i ∧ a.toc.nodes[i]? = some node ∧
          node.size = 0 := by
  cases hi : a.toc.indexOf level row col with
  | none => simp [readRawTileWith, hi]
  | some i =>
    -- the index found names a node, and the table has its block's end
    obtain ⟨node, hn⟩ : ∃ node, a.toc.nodes[i]? = some node :=
      ⟨_, Array.getElem?_eq_getElem (Toc.indexOf_lt hi)⟩
    obtain ⟨stop, he⟩ := exists_blockEnd hn
    rw [readRawTileWith_of_indexOf hi, readNodeWith_eq_readBlockWith hn he]
    constructor
    · exact fun h => .inr ⟨i, node, rfl, hn, size_eq_zero_of_readBlockWith inflate a h⟩
    · rintro (h | ⟨j, node', hj, hn', hs⟩)
      · cases h
      · cases hj
        rw [hn] at hn'
        cases hn'
        exact readBlockWith_of_size_eq_zero inflate a hs

/-- A tile that reads comes from a node with data, and has the node's size. -/
theorem size_of_readRawTileWith {t : ByteArray}
    (h : a.readRawTileWith inflate level row col = .ok (some t)) :
    ∃ i node, a.toc.indexOf level row col = some i ∧ a.toc.nodes[i]? = some node ∧
      node.size ≠ 0 ∧ t.size = node.size := by
  cases hi : a.toc.indexOf level row col with
  | none => simp [readRawTileWith, hi] at h
  | some i =>
    obtain ⟨node, hn⟩ : ∃ node, a.toc.nodes[i]? = some node :=
      ⟨_, Array.getElem?_eq_getElem (Toc.indexOf_lt hi)⟩
    rw [readRawTileWith_of_indexOf hi] at h
    refine ⟨i, node, rfl, hn, fun hs => ?_, readNodeWith_ok_size hn h⟩
    obtain ⟨stop, he⟩ := exists_blockEnd hn
    rw [readNodeWith_eq_readBlockWith hn he, readBlockWith_of_size_eq_zero inflate a hs] at h
    cases h

end ReadTile

/-- What reading the tile at a native address with the zlib reader `inflate` does, step by
step, for an archive opened from `file`. A node `i` found at the address, with data, starts
its block at `pos` and ends it at the entry `e` of the table of block ends. -/
structure ReadsOwnBlock (inflate : ByteArray → Nat → Option ByteArray) (a : TreeArchive)
    (file : ByteArray) (level row col : Nat) : Prop where
  /-- the table of block ends is the one found on opening, one end per node -/
  ends_eq : a.blockEnds = Archive.blockEnds a.toc.nodes.toList a.header.dataLength
  /-- the tile is absent exactly when the address has no node or its node has no data -/
  absent_iff : a.readRawTileWith inflate level row col = .ok none ↔
    a.toc.indexOf level row col = none ∨
      ∃ i node, a.toc.indexOf level row col = some i ∧ a.toc.nodes[i]? = some node ∧
        node.size = 0
  /-- a block that ends before it starts is a fault of the header -/
  stop_lt : ∀ i node e, a.toc.indexOf level row col = some i → a.toc.nodes[i]? = some node →
    a.blockEnds[i]? = some e → node.size ≠ 0 → e < node.pos →
    a.readRawTileWith inflate level row col =
      .error (.invalidHeader (.nodeBeyondData i node.pos a.header.dataLength))
  /-- a block that runs past the end of the file is cut short -/
  past_end : ∀ i node e, a.toc.indexOf level row col = some i → a.toc.nodes[i]? = some node →
    a.blockEnds[i]? = some e → node.size ≠ 0 → node.pos ≤ e →
    file.size < a.blockOffset node + (e - node.pos) →
    a.readRawTileWith inflate level row col =
      .error (.truncated (a.blockOffset node) (e - node.pos))
  /-- otherwise the zlib reader is given the block's bytes of the file, all of them and no
  others -/
  block_eq : ∀ i node e, a.toc.indexOf level row col = some i → a.toc.nodes[i]? = some node →
    a.blockEnds[i]? = some e → node.pos ≤ e → a.blockOffset node + (e - node.pos) ≤ file.size →
    (file.extract (a.blockOffset node) (a.blockOffset node + (e - node.pos))).data.toList =
      (file.data.toList.drop (a.blockOffset node)).take (e - node.pos) ∧
    (file.extract (a.blockOffset node) (a.blockOffset node + (e - node.pos))).size =
      e - node.pos
  /-- a block the reader fails on is an inflate error naming the node -/
  inflate_none : ∀ i node e, a.toc.indexOf level row col = some i →
    a.toc.nodes[i]? = some node → a.blockEnds[i]? = some e → node.size ≠ 0 → node.pos ≤ e →
    a.blockOffset node + (e - node.pos) ≤ file.size →
    inflate (file.extract (a.blockOffset node) (a.blockOffset node + (e - node.pos)))
      (node.size + 1) = none →
    a.readRawTileWith inflate level row col = .error (.inflate i)
  /-- and a block it inflates, asked for one byte more than the node's size, gives at most that
  many bytes: the tile when it has the node's size, else a mismatch naming both sizes -/
  inflate_some : ∀ i node e out, a.toc.indexOf level row col = some i →
    a.toc.nodes[i]? = some node → a.blockEnds[i]? = some e → node.size ≠ 0 → node.pos ≤ e →
    a.blockOffset node + (e - node.pos) ≤ file.size →
    inflate (file.extract (a.blockOffset node) (a.blockOffset node + (e - node.pos)))
      (node.size + 1) = some out →
    out.size ≤ node.size + 1 ∧
      a.readRawTileWith inflate level row col =
        if out.size = node.size then .ok (some out)
        else .error (.sizeMismatch i node.size out.size)
  /-- so a tile that reads has its node's size, which is not zero -/
  tile_size : ∀ t, a.readRawTileWith inflate level row col = .ok (some t) →
    ∃ i node, a.toc.indexOf level row col = some i ∧ a.toc.nodes[i]? = some node ∧
      node.size ≠ 0 ∧ t.size = node.size

/-- **A tile is its own block, inflated.** For every zlib reader that never gives more bytes
than it is asked for, every file that opens and every native address, reading the tile does
what its steps say: it is absent exactly when the address has no node or its node has no data;
otherwise, with the node's block ending at its entry of the table found on opening, it fails
when the block ends before it starts, fails naming the block's place in the file and its
length when the file ends inside the block, and else hands the reader exactly the block's
bytes, asking for one byte more than the node's size, and fails when the reader fails or gives
another size. A tile that reads has its node's non-zero size. -/
theorem readRawTile_reads_block (inflate : ByteArray → Nat → Option ByteArray)
    (hcap : ∀ block limit out, inflate block limit = some out → out.size ≤ limit)
    {layer : Layer} {file : ByteArray} {a : TreeArchive} (hopen : ofBytes layer file = .ok a)
    (level row col : Nat) : a.ReadsOwnBlock inflate file level row col := by
  obtain ⟨-, hopened⟩ := accepted_of_ofBytes hopen
  have hfile := hopened.file_eq
  subst hfile
  -- every branch past the lookup is a read of the node's block with its end from the table
  have hread : ∀ i node e, a.toc.indexOf level row col = some i → a.toc.nodes[i]? = some node →
      a.blockEnds[i]? = some e →
      a.readRawTileWith inflate level row col = a.readBlockWith inflate i node e :=
    fun i node e hi hn he => by rw [readRawTileWith_of_indexOf hi, readNodeWith_eq_readBlockWith hn he]
  refine ⟨hopened.header_eq ▸ hopened.blockEnds_eq, readRawTileWith_eq_ok_none_iff,
    fun i node e hi hn he hs hstop => ?_, fun i node e hi hn he hs hstop hend => ?_,
    fun i node e hi hn he hstop hend => ⟨?_, ?_⟩, fun i node e hi hn he hs hstop hend hout => ?_,
    fun i node e out hi hn he hs hstop hend hout => ⟨hcap _ _ _ hout, ?_⟩,
    fun t ht => size_of_readRawTileWith ht⟩
  · rw [hread i node e hi hn he, readBlockWith_of_stop_lt inflate a hs hstop]
  · rw [hread i node e hi hn he, readBlockWith_of_past_end inflate a hs hstop hend]
  · simp only [ByteArray.data_extract, Array.toList_extract, List.extract_eq_take_drop]
    congr 1
    omega
  · -- the block lies inside the file, so the slice has all its bytes
    simp only [ByteArray.size_extract]
    omega
  · rw [hread i node e hi hn he, readBlockWith_of_inflate_none inflate a hs hstop hend hout]
  · rw [hread i node e hi hn he, readBlockWith_of_inflate_some inflate a hs hstop hend hout]

/-- A tree file of three nodes without data: the whole-body tile of native level 1, the
western hemisphere root, and the root's child in slot 3 at native level 5. -/
def sampleTreeFile : ByteArray :=
  (treeMagic ++ encodeLE 4 48 ++ encodeLE 4 0 ++ encodeLE 4 132 ++ encodeLE 8 0 ++
    encodeLE 4 3 ++ [0, noNode, noNode, 1, noNode].flatMap (encodeLE 4) ++
    encodeLE 8 0 ++ encodeLE 4 0 ++ [noNode, noNode, noNode, noNode].flatMap (encodeLE 4) ++
    encodeLE 8 0 ++ encodeLE 4 0 ++ [noNode, noNode, noNode, 2].flatMap (encodeLE 4) ++
    encodeLE 8 0 ++ encodeLE 4 0 ++ [noNode, noNode, noNode, noNode].flatMap (encodeLE 4)).toByteArray

/-- The archive `sampleTreeFile` opens to. -/
def sampleTreeArchive : TreeArchive where
  layer := .surface
  file := sampleTreeFile
  header := ⟨48, 0, 132, 0, 3, ⟨[some 0, none, none], [some 1, none]⟩⟩
  toc := ⟨⟨[some 0, none, none], [some 1, none]⟩,
    #[⟨0, 0, [noNode, noNode, noNode, noNode]⟩, ⟨0, 0, [noNode, noNode, noNode, 2]⟩,
      ⟨0, 0, [noNode, noNode, noNode, noNode]⟩]⟩
  blockEnds := [0, 0, 0]
  length_blockEnds := rfl

theorem ofBytes_sampleTreeFile :
    ofBytes .surface sampleTreeFile = .ok sampleTreeArchive := by
  have hsize : sampleTreeFile.size = 132 := by decide +kernel
  have hmagic : (sampleTreeFile.extract 0 4).toList = treeMagic := by decide +kernel
  have hheader : TreeHeader.read sampleTreeFile =
      ⟨48, 0, 132, 0, 3, ⟨[some 0, none, none], [some 1, none]⟩⟩ := by decide +kernel
  have hnodes : ((List.range 3).map fun i => TocNode.read sampleTreeFile (48 + i * nodeBytes)) =
      [⟨0, 0, [noNode, noNode, noNode, noNode]⟩, ⟨0, 0, [noNode, noNode, noNode, 2]⟩,
        ⟨0, 0, [noNode, noNode, noNode, noNode]⟩] := by decide +kernel
  -- the table of ends is computed by its search, which the kernel does not run: read it as
  -- the least later start of each node instead
  have hends : Archive.blockEnds [⟨0, 0, [noNode, noNode, noNode, noNode]⟩,
      ⟨0, 0, [noNode, noNode, noNode, 2]⟩, ⟨0, 0, [noNode, noNode, noNode, noNode]⟩] 0 =
      [0, 0, 0] := by
    rw [blockEnds_eq_map_blockEnd]
    decide
  simp only [ofBytes, hsize, hmagic, hheader, hnodes, hends]
  rfl

/-- The record of a node in the table of contents. -/
def nodeRecord (node : TocNode) : List UInt8 :=
  encodeLE 8 node.pos ++ encodeLE 4 node.size ++ node.child.flatMap (encodeLE 4)

/-- The nodes of `sampleDataFile`. Nodes 0 and 1 share the block of the stored zlib stream of
`A`, 12 bytes; node 2's block is the two bytes after it, which are not a zlib stream; node 3
starts at the end of the data section and its block runs on to node 4's start, past the end of
the file; node 4 has no data, and node 5 starts after the data section. Node 3, the western
hemisphere root, leads in slot 0 to node 5 and in slot 1 to an index past the table. -/
def sampleDataNodes : List TocNode :=
  [⟨0, 1, [noNode, noNode, noNode, noNode]⟩, ⟨0, 2, [noNode, noNode, noNode, noNode]⟩,
    ⟨12, 1, [noNode, noNode, noNode, noNode]⟩, ⟨14, 1, [5, 7, noNode, noNode]⟩,
    ⟨1000, 0, [noNode, noNode, noNode, noNode]⟩, ⟨2000, 1, [noNode, noNode, noNode, noNode]⟩]

/-- A tree file with data: nodes 0 to 2 are the whole-body tiles of native levels 1 to 3,
nodes 3 and 4 the hemisphere roots, and the data section is the 14 bytes after the table. -/
def sampleDataFile : ByteArray :=
  (treeMagic ++ encodeLE 4 48 ++ encodeLE 4 0 ++ encodeLE 4 216 ++ encodeLE 8 14 ++
    encodeLE 4 6 ++ [0, 1, 2, 3, 4].flatMap (encodeLE 4) ++ sampleDataNodes.flatMap nodeRecord ++
    [0x78, 0x01, 0x01, 0x01, 0x00, 0xfe, 0xff, 0x41, 0x00, 0x42, 0x00, 0x42, 0x00, 0x00]).toByteArray

/-- The archive `sampleDataFile` opens to. -/
def sampleDataArchive : TreeArchive where
  layer := .surface
  file := sampleDataFile
  header := ⟨48, 0, 216, 14, 6, ⟨[some 0, some 1, some 2], [some 3, some 4]⟩⟩
  toc := ⟨⟨[some 0, some 1, some 2], [some 3, some 4]⟩, sampleDataNodes.toArray⟩
  blockEnds := [12, 12, 14, 1000, 2000, 14]
  length_blockEnds := rfl

theorem ofBytes_sampleDataFile :
    ofBytes .surface sampleDataFile = .ok sampleDataArchive := by
  have hsize : sampleDataFile.size = 230 := by decide +kernel
  have hmagic : (sampleDataFile.extract 0 4).toList = treeMagic := by decide +kernel
  have hheader : TreeHeader.read sampleDataFile =
      ⟨48, 0, 216, 14, 6, ⟨[some 0, some 1, some 2], [some 3, some 4]⟩⟩ := by decide +kernel
  have hnodes : ((List.range 6).map fun i => TocNode.read sampleDataFile (48 + i * nodeBytes)) =
      sampleDataNodes := by decide +kernel
  have hends : Archive.blockEnds sampleDataNodes 14 = [12, 12, 14, 1000, 2000, 14] := by
    rw [blockEnds_eq_map_blockEnd]
    decide
  simp only [ofBytes, hsize, hmagic, hheader, hnodes, hends]
  rfl

/-- The whole-body tile of native level 1 in `sampleDataFile`: its block is the stored stream
of `A`, which this library's zlib reader inflates to the one byte the node declares. -/
theorem readRawTile_reads_block_sample :
    ofBytes .surface sampleDataFile = .ok sampleDataArchive ∧
      sampleDataArchive.ReadsOwnBlock inflatePrefix sampleDataFile 1 0 0 ∧
      sampleDataArchive.readRawTile 1 0 0 = .ok (some ⟨#[0x41]⟩) :=
  ⟨ofBytes_sampleDataFile,
    readRawTile_reads_block inflatePrefix inflatePrefix_size_le ofBytes_sampleDataFile 1 0 0,
    by decide +kernel⟩

end TreeArchive

end PlanetTiles.Archive
