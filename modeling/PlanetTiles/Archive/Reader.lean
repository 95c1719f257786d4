import PlanetTiles.Archive.Tree

/-!
# Reading an archive through one reader

An open archive keeps the reader over its file and reads every block through it, so the
reader's position is state that every read changes: seeking moves it, and reading moves it
past the bytes read. Opening leaves it at the end of the table of contents, the last thing
opening reads.

Reading a node checks its block, seeks to the block's start in the file and reads the block
from there, then inflates it. A read that fails before it gets to the block leaves the
reader where it was; one that reads the block and then fails to inflate it, or inflates it
to the wrong size, leaves it after the block. `TreeArchive.readNodeWith` is the same read
with the file in hand and no reader.
-/

namespace PlanetTiles.Archive

open Deflate

/-- An archive open on a reader over its file, and where that reader stands. -/
structure ArchiveReader where
  /-- the archive: its file, header and table of contents -/
  archive : TreeArchive
  /-- the reader's position in the file -/
  position : Nat

namespace ArchiveReader

/-- Opens a tree file on a reader, leaving the reader at the end of the table of contents. -/
def openFile (layer : Layer) (file : ByteArray) : Except ArchiveError ArchiveReader :=
  (TreeArchive.ofBytes layer file).map fun a => ⟨a, a.header.tocEnd⟩

/-- Moves the reader to `offset` from the start of the file. -/
def seek (r : ArchiveReader) (offset : Nat) : ArchiveReader :=
  { r with position := offset }

/-- Reads `len` bytes from where the reader stands, and moves it past them. The callers
check first that the file holds them. -/
def readExact (r : ArchiveReader) (len : Nat) : ByteArray × ArchiveReader :=
  (r.archive.file.extract r.position (r.position + len), r.seek (r.position + len))

/-- Reads the `len` bytes at `offset`: checks that the file holds them, seeks there and
reads them. -/
def readAt (r : ArchiveReader) (offset len : Nat) : Except ArchiveError (ByteArray × ArchiveReader) :=
  if r.archive.file.size < offset + len then .error (.truncated offset len)
  else .ok ((r.seek offset).readExact len)

/-- Reads node `index`, which is `node` and whose block ends at `stop`, through the reader,
with the zlib reader `inflate`; gives the reader after the read. -/
def readBlockWith (inflate : ByteArray → Nat → Option ByteArray) (r : ArchiveReader)
    (index : Nat) (node : TocNode) (stop : Nat) :
    Except ArchiveError (Option ByteArray) × ArchiveReader :=
  if node.size = 0 then (.ok none, r)
  else if stop < node.pos then
    (.error (.invalidHeader (.nodeBeyondData index node.pos r.archive.header.dataLength)), r)
  else
    let len := stop - node.pos
    let offset := min (r.archive.header.dataOffset + node.pos) maxOffset
    if r.archive.file.size < offset + len then (.error (.truncated offset len), r)
    else
      match r.readAt offset len with
      | .error e => (.error e, r)
      | .ok (block, r') =>
        match inflate block (node.size + 1) with
        | none => (.error (.inflate index), r')
        | some out =>
          if out.size = node.size then (.ok (some out), r')
          else (.error (.sizeMismatch index node.size out.size), r')

/-- Reads and inflates the payload of node `index` through the reader, its block ending where
the archive's table of block ends says; gives the reader after the read. -/
def readNodeWith (inflate : ByteArray → Nat → Option ByteArray) (r : ArchiveReader)
    (index : Nat) : Except ArchiveError (Option ByteArray) × ArchiveReader :=
  if h : index < r.archive.toc.nodes.size then
    have : index < r.archive.blockEnds.length :=
      Nat.lt_of_lt_of_eq h r.archive.length_blockEnds.symm
    r.readBlockWith inflate index r.archive.toc.nodes[index] r.archive.blockEnds[index]
  else (.ok none, r)

/-- Reads the tile at a native address through the reader: the node `indexOf` finds, if
any. -/
def readRawTileWith (inflate : ByteArray → Nat → Option ByteArray) (r : ArchiveReader)
    (level row col : Nat) : Except ArchiveError (Option ByteArray) × ArchiveReader :=
  match r.archive.toc.indexOf level row col with
  | none => (.ok none, r)
  | some index => r.readNodeWith inflate index

/-- Reads the tiles at native addresses `(level, row, col)` one after another through one
reader: each read's result, in order, and the reader after the last. -/
def readRawTilesWith (inflate : ByteArray → Nat → Option ByteArray) (r : ArchiveReader) :
    List (Nat × Nat × Nat) → List (Except ArchiveError (Option ByteArray)) × ArchiveReader
  | [] => ([], r)
  | address :: rest =>
    let first := r.readRawTileWith inflate address.1 address.2.1 address.2.2
    let later := first.2.readRawTilesWith inflate rest
    (first.1 :: later.1, later.2)

end ArchiveReader

end PlanetTiles.Archive
