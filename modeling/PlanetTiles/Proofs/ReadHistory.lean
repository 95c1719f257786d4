import Mathlib
import PlanetTiles.Archive.Reader
import PlanetTiles.Proofs.TileRead

/-!
# Reads that do not depend on the reads before them

An open archive reads through one reader, and every read moves it: a read that fails
before it gets to its block leaves it where it was, and one that reads its block leaves it
after the block, whether the block then inflates or not. The result of a read still never
depends on where the reader stood, because every read seeks to its block's absolute place
in the file before it reads. Nor does a read change anything but the reader's position.

So a read through the reader answers what `TreeArchive.readRawTileWith` answers on the
archive, whatever the zlib reader, and a run of reads answers, read by read, what each read
answers first thing on a freshly opened archive.

* `ArchiveReader.readAt_eq_ok` — reading at an offset reads the bytes at that offset,
  wherever the reader stood.
* `ArchiveReader.readRawTileWith_spec` — the step lemma: one read answers what the archive
  answers, and keeps the archive.
* `ArchiveReader.readRawTilesWith_spec` — the run lemma, by induction over the addresses read.
* `ArchiveReader.readRawTiles_history_free` — **reads do not depend on the reads before
  them**.
-/

namespace PlanetTiles.Archive

open Deflate

namespace ArchiveReader

variable (inflate : ByteArray → Nat → Option ByteArray) (r : ArchiveReader)

@[simp] theorem seek_archive (offset : Nat) : (r.seek offset).archive = r.archive := rfl

@[simp] theorem seek_position (offset : Nat) : (r.seek offset).position = offset := rfl

/-- **Reading at an offset reads the bytes there, wherever the reader stood**, and leaves the
reader after them. -/
theorem readAt_eq_ok {offset len : Nat} (h : offset + len ≤ r.archive.file.size) :
    r.readAt offset len = .ok (r.archive.file.extract offset (offset + len), r.seek (offset + len)) := by
  simp only [readAt, Nat.not_lt.mpr h, if_false, readExact, seek_position, seek_archive]
  rfl

/-- Reading a found node through the reader answers what the archive answers for it, and
changes only the reader's position. -/
theorem readBlockWith_spec (index : Nat) (node : TocNode) (stop : Nat) :
    (r.readBlockWith inflate index node stop).1 =
        r.archive.readBlockWith inflate index node stop ∧
      (r.readBlockWith inflate index node stop).2.archive = r.archive := by
  unfold readBlockWith TreeArchive.readBlockWith
  by_cases hsize : node.size = 0
  · simp [hsize]
  simp only [hsize, if_false]
  by_cases hstop : stop < node.pos
  · simp [hstop]
  simp only [hstop, if_false]
  generalize min (r.archive.header.dataOffset + node.pos) maxOffset = offset
  by_cases hend : r.archive.file.size < offset + (stop - node.pos)
  · simp [hend]
  -- the block is in the file: the reader seeks to it and reads exactly its bytes
  simp only [hend, if_false, readAt_eq_ok r (Nat.not_lt.mp hend)]
  cases inflate (r.archive.file.extract offset (offset + (stop - node.pos))) (node.size + 1) with
  | none => exact ⟨rfl, rfl⟩
  | some out => by_cases hout : out.size = node.size <;> simp [hout]

/-- Reading a node through the reader answers what the archive answers for the node, and
changes only the reader's position. -/
theorem readNodeWith_spec (index : Nat) :
    (r.readNodeWith inflate index).1 = r.archive.readNodeWith inflate index ∧
      (r.readNodeWith inflate index).2.archive = r.archive := by
  unfold readNodeWith TreeArchive.readNodeWith
  split
  · exact r.readBlockWith_spec inflate index _ _
  · exact ⟨rfl, rfl⟩

/-- The step lemma: reading a tile through the reader answers what the archive answers for
the tile, and changes only the reader's position. -/
theorem readRawTileWith_spec (level row col : Nat) :
    (r.readRawTileWith inflate level row col).1 = r.archive.readRawTileWith inflate level row col ∧
      (r.readRawTileWith inflate level row col).2.archive = r.archive := by
  unfold readRawTileWith TreeArchive.readRawTileWith
  cases r.archive.toc.indexOf level row col with
  | none => exact ⟨rfl, rfl⟩
  | some index => exact r.readNodeWith_spec inflate index

/-- The run lemma: reading tiles one after another through a reader, from wherever it stands,
answers read by read what the archive answers, and leaves the archive as it was. -/
theorem readRawTilesWith_spec (addresses : List (Nat × Nat × Nat)) :
    ∀ r : ArchiveReader,
      (r.readRawTilesWith inflate addresses).1 =
          addresses.map (fun x => r.archive.readRawTileWith inflate x.1 x.2.1 x.2.2) ∧
        (r.readRawTilesWith inflate addresses).2.archive = r.archive := by
  induction addresses with
  | nil => intro r; exact ⟨rfl, rfl⟩
  | cons x rest ih =>
    intro r
    -- the first read keeps the archive, so the later reads see the same one
    obtain ⟨hfirst, hkeep⟩ := r.readRawTileWith_spec inflate x.1 x.2.1 x.2.2
    obtain ⟨hrest, hkeep'⟩ := ih (r.readRawTileWith inflate x.1 x.2.1 x.2.2).2
    rw [hkeep] at hrest hkeep'
    simp only [readRawTilesWith, List.map_cons, hfirst, hrest, hkeep', and_self]

/-- A reader opened on a file reads the archive the file opens to. -/
theorem archive_of_openFile {layer : Layer} {file : ByteArray} {a : TreeArchive}
    (hopen : openFile layer file = .ok r) (ha : TreeArchive.ofBytes layer file = .ok a) :
    r.archive = a := by
  rw [openFile, ha] at hopen
  cases hopen
  rfl

/-- What reading tiles one after another through the reader `r`, opened on `file`, gives. -/
structure ReadsIndependently (layer : Layer) (file : ByteArray) (addresses : List (Nat × Nat × Nat)) :
    Prop where
  /-- read by read, what the archive the file opens to answers for the address -/
  results_eq : ∀ a, TreeArchive.ofBytes layer file = .ok a →
    (r.readRawTilesWith inflate addresses).1 =
      addresses.map fun x => a.readRawTileWith inflate x.1 x.2.1 x.2.2
  /-- which is what the same read answers first thing on the freshly opened reader -/
  fresh_eq : (r.readRawTilesWith inflate addresses).1 =
    addresses.map fun x => (r.readRawTileWith inflate x.1 x.2.1 x.2.2).1
  /-- whatever reads came before, and whatever they answered -/
  after_eq : ∀ earlier, ((r.readRawTilesWith inflate earlier).2.readRawTilesWith inflate addresses).1 =
    (r.readRawTilesWith inflate addresses).1
  /-- and the reads leave the archive as it was: its file, header, table of contents and
  table of block ends, hence its node count, lookups and child slots -/
  archive_eq : (r.readRawTilesWith inflate addresses).2.archive = r.archive

/-- **Reads do not depend on the reads before them.** For every zlib reader, on a reader opened
on any file, reading the tiles at any native addresses one after another answers, for each,
what the archive the file opens to answers for it, which is what reading it first thing on the
freshly opened reader answers, whatever the reads before it answered, errors included; and no
read changes the header, the table of contents or the table of block ends. -/
theorem readRawTiles_history_free (inflate : ByteArray → Nat → Option ByteArray)
    {layer : Layer} {file : ByteArray} {r : ArchiveReader} (hopen : openFile layer file = .ok r)
    (addresses : List (Nat × Nat × Nat)) : r.ReadsIndependently inflate layer file addresses := by
  obtain ⟨hresults, harchive⟩ := readRawTilesWith_spec inflate addresses r
  refine ⟨fun a ha => ?_, ?_, fun earlier => ?_, harchive⟩
  · rw [hresults, r.archive_of_openFile hopen ha]
  · rw [hresults]
    exact List.map_congr_left fun x _ => (r.readRawTileWith_spec inflate x.1 x.2.1 x.2.2).1.symm
  · -- the earlier reads leave the archive, and every later read answers what the archive does
    obtain ⟨_, hkeep⟩ := readRawTilesWith_spec inflate earlier r
    rw [(readRawTilesWith_spec inflate addresses _).1, hkeep, hresults]

theorem openFile_sampleDataFile :
    openFile .surface TreeArchive.sampleDataFile = .ok ⟨TreeArchive.sampleDataArchive, 216⟩ := by
  simp only [openFile, TreeArchive.ofBytes_sampleDataFile]
  rfl

/-- Reading `sampleDataFile`'s tiles at native levels 1 (a tile), 4 (a block past the end of
the file), 3 (a block that is no zlib stream, read before it fails), 2 (a stream of the wrong
size, read before it fails), 5 (a block past the data section) and 1 again, then an address
with no node: each read answers what it answers on a fresh reader, and the reader ends after
the block of the level-2 tile. -/
theorem readRawTiles_history_free_sample :
    openFile .surface TreeArchive.sampleDataFile = .ok ⟨TreeArchive.sampleDataArchive, 216⟩ ∧
      ArchiveReader.ReadsIndependently inflatePrefix ⟨TreeArchive.sampleDataArchive, 216⟩
        .surface TreeArchive.sampleDataFile
        [(1, 0, 0), (4, 0, 0), (3, 0, 0), (2, 0, 0), (5, 0, 0), (1, 0, 0), (9, 9, 9)] ∧
      (ArchiveReader.readRawTilesWith inflatePrefix ⟨TreeArchive.sampleDataArchive, 216⟩
        [(1, 0, 0), (4, 0, 0), (3, 0, 0), (2, 0, 0), (5, 0, 0), (1, 0, 0), (9, 9, 9)]).1 =
        [.ok (some ⟨#[0x41]⟩), .error (.truncated 230 986), .error (.inflate 2),
          .error (.sizeMismatch 1 2 1), .error (.invalidHeader (.nodeBeyondData 5 2000 14)),
          .ok (some ⟨#[0x41]⟩), .ok none] ∧
      (ArchiveReader.readRawTilesWith inflatePrefix ⟨TreeArchive.sampleDataArchive, 216⟩
        [(1, 0, 0), (4, 0, 0), (3, 0, 0), (2, 0, 0), (5, 0, 0), (1, 0, 0), (9, 9, 9)]).2.position =
        228 :=
  ⟨openFile_sampleDataFile, readRawTiles_history_free inflatePrefix openFile_sampleDataFile _,
    by decide +kernel, by decide +kernel⟩

end ArchiveReader

end PlanetTiles.Archive
