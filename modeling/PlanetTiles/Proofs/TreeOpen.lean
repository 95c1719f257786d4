import PlanetTiles.Archive.Tree
import PlanetTiles.Proofs.Bytes

/-!
# Opening a tree file

`TreeArchive.ofBytes` makes six checks, in this order, and fails with the first that does
not hold: the file holds a header, the header starts with the magic, the header size covers
the fixed header, the data section does not start inside the table of contents, and the file
holds the table and then the data section. The sums it compares are taken exactly, so a
field near the top of its range is rejected rather than wrapped around.

A file that passes every check opens to the header as stored and to its table of contents
cut into 28-byte records, node `i` being the record at `headerSize + 28 * i`.

* `TreeArchive.ofBytes_eq_ok_iff` — the inversion lemma: a file opens exactly when it passes
  every check, and then to the archive read from it.
* `TreeArchive.ofBytes_checks` — **opening checks in order**: each check that fails gives
  its own error, with the offsets and lengths it names, once every check before it passed.
-/

namespace PlanetTiles.Archive

open Bytes

/-! ## Fields cut out of a record -/

/-- A field read inside a slice is the field of the whole at the slice's start plus its
offset. -/
theorem readLE_extract (bs : ByteArray) {start stop offset width : Nat}
    (h : offset + width ≤ stop - start) :
    readLE (bs.extract start stop) offset width = readLE bs (start + offset) width := by
  simp only [readLE_eq, ByteArray.data_extract, Array.toList_extract, List.extract_eq_take_drop,
    List.drop_take, List.take_take, List.drop_drop]
  congr 2
  omega

/-- A node read from its own 28-byte record is the node read in place. -/
theorem TocNode.read_extract (file : ByteArray) (offset : Nat) :
    TocNode.read (file.extract offset (offset + nodeBytes)) 0 = TocNode.read file offset := by
  have hfield : ∀ off width, off + width ≤ nodeBytes →
      readLE (file.extract offset (offset + nodeBytes)) off width = readLE file (offset + off) width :=
    fun off width h => readLE_extract file (by omega)
  simp only [TocNode.read, Nat.zero_add, List.map_cons, List.map_nil]
  rw [hfield 0 8 (by decide), hfield 8 4 (by decide), hfield 12 4 (by decide),
    hfield 16 4 (by decide), hfield 20 4 (by decide), hfield 24 4 (by decide), Nat.add_zero]

@[simp] theorem TocNode.length_child_read (file : ByteArray) (offset : Nat) :
    (TocNode.read file offset).child.length = 4 := rfl

/-- A field of `width` bytes is below `256 ^ width`. -/
theorem readLE_lt (bs : ByteArray) (offset width : Nat) :
    readLE bs offset width < Nat.pow 256 width := by
  rw [readLE_eq]
  calc decodeLE ((bs.data.toList.drop offset).take width)
      < Nat.pow 256 ((bs.data.toList.drop offset).take width).length := decodeLE_lt _
    _ ≤ Nat.pow 256 width := Nat.pow_le_pow_right (by decide) (List.length_take_le _ _)

/-- The table of contents ends within 64 bits: its end is a 32-bit size plus 28 times a
32-bit count, so the sum never wraps. -/
theorem TreeHeader.tocEnd_le (file : ByteArray) : (TreeHeader.read file).tocEnd ≤ maxOffset := by
  have hs := readLE_lt file 4 4
  have hn := readLE_lt file 24 4
  have h4 : Nat.pow 256 4 = 4294967296 := rfl
  simp only [TreeHeader.tocEnd, TreeHeader.read, nodeBytes, maxOffset]
  omega

/-! ## The checks -/

namespace TreeArchive

/-- The file holds a header, and the header starts with the magic. -/
structure HeaderRead (file : ByteArray) : Prop where
  /-- the file holds the fixed header -/
  holds_header : headerBytes ≤ file.size
  /-- it starts with the magic -/
  magic : (file.extract 0 4).toList = treeMagic

/-- The header is read and its fields fit together. -/
structure HeaderValid (file : ByteArray) : Prop extends HeaderRead file where
  /-- the header size covers the fixed header -/
  header_size : headerBytes ≤ (TreeHeader.read file).headerSize
  /-- the data section starts after the table of contents -/
  data_after_toc : (TreeHeader.read file).tocEnd ≤ (TreeHeader.read file).dataOffset

/-- The file passes every check of opening: its header is valid, and it holds the table of
contents and the data section. -/
structure Accepted (file : ByteArray) : Prop extends HeaderValid file where
  /-- the file holds the table of contents -/
  holds_toc : (TreeHeader.read file).tocEnd ≤ file.size
  /-- the file holds the data section -/
  holds_data : (TreeHeader.read file).dataOffset + (TreeHeader.read file).dataLength ≤ file.size

/-- What an archive opened from `file` holds: the file, the header as stored, the table of
contents with node `i` read at `headerSize + 28 * i`, and the ends of the nodes' blocks. -/
structure OpenedFrom (a : TreeArchive) (layer : Layer) (file : ByteArray) : Prop where
  /-- the layer it was opened for -/
  layer_eq : a.layer = layer
  /-- the whole file -/
  file_eq : a.file = file
  /-- the header as stored -/
  header_eq : a.header = TreeHeader.read file
  /-- the roots the header names -/
  roots_eq : a.toc.roots = (TreeHeader.read file).roots
  /-- as many nodes as the header counts -/
  size_nodes : a.toc.nodes.size = (TreeHeader.read file).nodeCount
  /-- node `i` read at `headerSize + 28 * i` -/
  getElem?_nodes : ∀ i < (TreeHeader.read file).nodeCount,
    a.toc.nodes[i]? = some (TocNode.read file ((TreeHeader.read file).headerSize + i * nodeBytes))
  /-- the ends of the nodes' blocks, found once -/
  blockEnds_eq : a.blockEnds = Archive.blockEnds a.toc.nodes.toList (TreeHeader.read file).dataLength

variable {layer : Layer} {file : ByteArray} {a : TreeArchive}

/-- The archive opened from a file is determined by the file: its table has as many nodes as
the header counts, each read at its place. -/
theorem OpenedFrom.unique {b : TreeArchive} (ha : a.OpenedFrom layer file)
    (hb : b.OpenedFrom layer file) : a = b := by
  -- the nodes agree below the count, and neither table has any beyond it
  have hnodes : a.toc.nodes = b.toc.nodes := Array.ext_getElem? fun i => by
    by_cases hi : i < (TreeHeader.read file).nodeCount
    · rw [ha.getElem?_nodes i hi, hb.getElem?_nodes i hi]
    · rw [Array.getElem?_eq_none (by have := ha.size_nodes; omega),
        Array.getElem?_eq_none (by have := hb.size_nodes; omega)]
  have hends : a.blockEnds = b.blockEnds := by rw [ha.blockEnds_eq, hb.blockEnds_eq, hnodes]
  obtain ⟨la, fa, hda, ⟨ra, na⟩, ea, _⟩ := a
  obtain ⟨lb, fb, hdb, ⟨rb, nb⟩, eb, _⟩ := b
  simp only [TreeArchive.mk.injEq, Toc.mk.injEq]
  exact ⟨ha.layer_eq.trans hb.layer_eq.symm, ha.file_eq.trans hb.file_eq.symm,
    ha.header_eq.trans hb.header_eq.symm, ⟨ha.roots_eq.trans hb.roots_eq.symm, hnodes⟩, hends⟩

/-- A file that passes every check opens. -/
theorem exists_ofBytes_of_accepted (h : Accepted file) (layer : Layer) :
    ∃ a, ofBytes layer file = .ok a := by
  have h1 : ¬ file.size < headerBytes := Nat.not_lt.mpr h.holds_header
  have h2 : ¬ (TreeHeader.read file).headerSize < headerBytes := Nat.not_lt.mpr h.header_size
  have h3 : ¬ (TreeHeader.read file).dataOffset < (TreeHeader.read file).tocEnd :=
    Nat.not_lt.mpr h.data_after_toc
  have h4 : ¬ file.size < (TreeHeader.read file).tocEnd := Nat.not_lt.mpr h.holds_toc
  have h5 : ¬ file.size < (TreeHeader.read file).dataOffset + (TreeHeader.read file).dataLength :=
    Nat.not_lt.mpr h.holds_data
  simp only [ofBytes, h1, h.magic, ne_eq, not_true_eq_false, h2, h3, h4, h5, if_false]
  exact ⟨_, rfl⟩

/-- A file that opens passed every check, and opened to the archive read from it. -/
theorem accepted_of_ofBytes (h : ofBytes layer file = .ok a) :
    Accepted file ∧ a.OpenedFrom layer file := by
  dsimp only [ofBytes] at h
  -- each check that fails ends the opening with an error
  split at h
  · cases h
  next hsize =>
  split at h
  · cases h
  next hmagic =>
  split at h
  · cases h
  next hheader =>
  split at h
  · cases h
  next hoverlap =>
  split at h
  · cases h
  next htoc =>
  split at h
  · cases h
  next hdata =>
  cases h
  refine ⟨⟨⟨⟨by omega, by simpa using hmagic⟩, by omega, by omega⟩, by omega, by omega⟩,
    rfl, rfl, rfl, rfl, by simp, fun i hi => ?_, by simp⟩
  simp [hi]

/-- **The inversion lemma of opening.** A file opens exactly when it passes every check, and
then to the archive read from it. -/
theorem ofBytes_eq_ok_iff : ofBytes layer file = .ok a ↔ Accepted file ∧ a.OpenedFrom layer file := by
  refine ⟨accepted_of_ofBytes, fun ⟨hacc, hopen⟩ => ?_⟩
  obtain ⟨b, hb⟩ := exists_ofBytes_of_accepted hacc layer
  rw [hb, hopen.unique (accepted_of_ofBytes hb).2]

/-! ## Each check's error

Each lemma takes the checks before its own as passed. -/

theorem ofBytes_of_size_lt (h : file.size < headerBytes) :
    ofBytes layer file = .error (.truncated 0 headerBytes) := by
  simp [ofBytes, h]

theorem ofBytes_of_magic_ne (hsize : headerBytes ≤ file.size)
    (hmagic : (file.extract 0 4).toList ≠ treeMagic) :
    ofBytes layer file = .error (.badMagic (file.extract 0 4).toList) := by
  simp [ofBytes, Nat.not_lt.mpr hsize, hmagic]

theorem ofBytes_of_headerSize_lt (hr : HeaderRead file)
    (h : (TreeHeader.read file).headerSize < headerBytes) :
    ofBytes layer file =
      .error (.invalidHeader (.headerTooSmall (TreeHeader.read file).headerSize)) := by
  simp [ofBytes, Nat.not_lt.mpr hr.holds_header, hr.magic, h]

theorem ofBytes_of_dataOffset_lt (hr : HeaderRead file)
    (hheader : headerBytes ≤ (TreeHeader.read file).headerSize)
    (h : (TreeHeader.read file).dataOffset < (TreeHeader.read file).tocEnd) :
    ofBytes layer file = .error (.invalidHeader
      (.dataOverlapsToc (TreeHeader.read file).dataOffset (TreeHeader.read file).tocEnd)) := by
  simp [ofBytes, Nat.not_lt.mpr hr.holds_header, hr.magic, Nat.not_lt.mpr hheader, h]

theorem ofBytes_of_size_lt_tocEnd (hv : HeaderValid file)
    (h : file.size < (TreeHeader.read file).tocEnd) :
    ofBytes layer file = .error (.truncated (TreeHeader.read file).headerSize
      ((TreeHeader.read file).nodeCount * nodeBytes)) := by
  simp [ofBytes, Nat.not_lt.mpr hv.holds_header, hv.magic, Nat.not_lt.mpr hv.header_size,
    Nat.not_lt.mpr hv.data_after_toc, h]

theorem ofBytes_of_size_lt_dataEnd (hv : HeaderValid file)
    (htoc : (TreeHeader.read file).tocEnd ≤ file.size)
    (h : file.size < (TreeHeader.read file).dataOffset + (TreeHeader.read file).dataLength) :
    ofBytes layer file = .error (.truncated (TreeHeader.read file).dataOffset
      (TreeHeader.read file).dataLength) := by
  simp [ofBytes, Nat.not_lt.mpr hv.holds_header, hv.magic, Nat.not_lt.mpr hv.header_size,
    Nat.not_lt.mpr hv.data_after_toc, Nat.not_lt.mpr htoc, h]

/-! ## Opening, check by check -/

/-- What opening `file` answers: the error of the first check that fails, with the offsets
and lengths it names, or the archive with the header as stored and node `i` decoded from its
own 28-byte record. -/
structure OpenAnswer (layer : Layer) (file : ByteArray) : Prop where
  /-- a file shorter than the fixed header is cut short at its start -/
  short : file.size < headerBytes → ofBytes layer file = .error (.truncated 0 headerBytes)
  /-- then the magic is checked, and the four bytes found instead are named -/
  bad_magic : headerBytes ≤ file.size → (file.extract 0 4).toList ≠ treeMagic →
    ofBytes layer file = .error (.badMagic (file.extract 0 4).toList)
  /-- then the header size -/
  header_too_small : HeaderRead file → (TreeHeader.read file).headerSize < headerBytes →
    ofBytes layer file =
      .error (.invalidHeader (.headerTooSmall (TreeHeader.read file).headerSize))
  /-- then that the data section does not start inside the table, whose end is taken
  exactly -/
  data_overlaps_toc : HeaderRead file → headerBytes ≤ (TreeHeader.read file).headerSize →
    (TreeHeader.read file).dataOffset <
      (TreeHeader.read file).headerSize + (TreeHeader.read file).nodeCount * nodeBytes →
    ofBytes layer file = .error (.invalidHeader
      (.dataOverlapsToc (TreeHeader.read file).dataOffset (TreeHeader.read file).tocEnd))
  /-- that end fits in 64 bits, so computing it there never wraps -/
  tocEnd_le : (TreeHeader.read file).tocEnd ≤ maxOffset
  /-- then that the file holds the table -/
  toc_truncated : HeaderValid file → file.size < (TreeHeader.read file).tocEnd →
    ofBytes layer file = .error (.truncated (TreeHeader.read file).headerSize
      ((TreeHeader.read file).nodeCount * nodeBytes))
  /-- and last that it holds the data section, whose end is again taken exactly: a length near
  `2^64` is rejected, never wrapped around -/
  data_truncated : HeaderValid file → (TreeHeader.read file).tocEnd ≤ file.size →
    file.size < (TreeHeader.read file).dataOffset + (TreeHeader.read file).dataLength →
    ofBytes layer file = .error (.truncated (TreeHeader.read file).dataOffset
      (TreeHeader.read file).dataLength)
  /-- a file that passes every check opens, with the header as stored, as many nodes as it
  counts, and node `i` decoded from the record at `headerSize + 28 * i` -/
  opened : Accepted file → ∃ a, ofBytes layer file = .ok a ∧
    a.header = TreeHeader.read file ∧ a.toc.roots = a.header.roots ∧
    a.nodeCount = (TreeHeader.read file).nodeCount ∧
    ∀ i < (TreeHeader.read file).nodeCount, a.toc.nodes[i]? = some (TocNode.read
      (file.extract ((TreeHeader.read file).headerSize + nodeBytes * i)
        ((TreeHeader.read file).headerSize + nodeBytes * (i + 1))) 0)
  /-- and no other file opens -/
  accepted : ∀ a, ofBytes layer file = .ok a → Accepted file

/-- **Opening checks in order.** For every file, opening fails with the error of the first
check that fails, in the order: the fixed header is there, the magic, the header size, the
data section after the table, the table in the file, the data section in the file; with the
sums taken exactly. A file that passes them all opens to its header as stored and to its
table cut into 28-byte records. -/
theorem ofBytes_checks (layer : Layer) (file : ByteArray) : OpenAnswer layer file where
  short := ofBytes_of_size_lt
  bad_magic := ofBytes_of_magic_ne
  header_too_small := ofBytes_of_headerSize_lt
  data_overlaps_toc := ofBytes_of_dataOffset_lt
  tocEnd_le := TreeHeader.tocEnd_le file
  toc_truncated := ofBytes_of_size_lt_tocEnd
  data_truncated := ofBytes_of_size_lt_dataEnd
  opened := fun hacc => by
    obtain ⟨a, ha⟩ := exists_ofBytes_of_accepted hacc layer
    have hfrom := (accepted_of_ofBytes ha).2
    refine ⟨a, ha, hfrom.header_eq, by rw [hfrom.roots_eq, hfrom.header_eq],
      hfrom.size_nodes, fun i hi => ?_⟩
    -- the record of node `i` is the 28 bytes that start where it is read
    have hstart : (TreeHeader.read file).headerSize + nodeBytes * i =
        (TreeHeader.read file).headerSize + i * nodeBytes := by rw [Nat.mul_comm]
    have hstop : (TreeHeader.read file).headerSize + nodeBytes * (i + 1) =
        (TreeHeader.read file).headerSize + i * nodeBytes + nodeBytes := by
      rw [Nat.mul_succ, Nat.mul_comm, Nat.add_assoc]
    rw [hfrom.getElem?_nodes i hi, hstart, hstop, TocNode.read_extract]
  accepted := fun _ h => (accepted_of_ofBytes h).1

end TreeArchive

end PlanetTiles.Archive
