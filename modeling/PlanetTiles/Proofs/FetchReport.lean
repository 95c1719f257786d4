import PlanetTiles.Cli.Run
import PlanetTiles.Proofs.ChildLookup

/-!
# Why a tile cannot be fetched

The `tile` command fetches the tile at a key. When it cannot, it does not look at the table of
contents itself: it asks the finest-tile search, and reports the tile as present but
undecodable when the search answers the key itself, and as not found, with the search's
answer as its finest ancestor, otherwise. The `ancestor` command prints that answer, how many
levels it lies above the key, and whether it has children.

This file shows that the reports say what they mean, on every source opened from a tree file
with at least one node, whatever the layer's decoder and level offset:

* `TileSource.highestAvailableLevel_ofFile_eq_self_iff` — the search answers the key itself
  exactly when the key's native level exists and its node is in the table;
* `TileSource.level_lt_of_highestAvailableLevel` — any other answer lies strictly above the key;
* `Cli.fetch_eq_undecodable_iff` — a fetch reports a tile undecodable exactly when it does not
  read and decode and the search answers the key itself;
* `Cli.ancestor_of_highestAvailableLevel` — what `ancestor` prints once the search has found a
  tile, for every layer with tiles;
* `Cli.fetch_reports` — **a tile is undecodable exactly when its node exists and yet it does
  not read and decode; every other missing tile is not found, with the finest ancestor**, and
  the `ancestor` command prints a difference of levels that never goes below zero.
-/

namespace PlanetTiles

open Archive

namespace TileSource

variable {α β : Type} {layer : Layer} {file : ByteArray} {a : TreeArchive}

/-- A file whose table has nodes gives a source over its archive. -/
theorem archive_ofFile_of_nodes (hopen : TreeArchive.ofBytes layer file = .ok a)
    (hnodes : a.nodeCount ≠ 0) (offset : Nat) (decode : ByteArray → Except DecodeError α) :
    (ofFile layer (some file) offset decode).archive = some a := by
  rw [archive_ofFile hopen, if_neg hnodes]

/-- The finest-tile search reads the table, never the decoder. -/
theorem highestAvailableLevel_ofFile_decode (offset : Nat)
    (decode : ByteArray → Except DecodeError α) (decode' : ByteArray → Except DecodeError β)
    (key : TileKey) :
    (ofFile layer (some file) offset decode).highestAvailableLevel key =
      (ofFile layer (some file) offset decode').highestAvailableLevel key := rfl

/-- The child test reads the table, never the decoder. -/
theorem hasAnyChildren_ofFile_decode (offset : Nat) (decode : ByteArray → Except DecodeError α)
    (decode' : ByteArray → Except DecodeError β) (key : TileKey) :
    (ofFile layer (some file) offset decode).hasAnyChildren key =
      (ofFile layer (some file) offset decode').hasAnyChildren key := rfl

/-- A key whose native level does not exist has no tile along its ancestry. -/
theorem highestAvailableLevel_of_native_gt (s : TileSource α) {key : TileKey}
    (hkey : maxNativeLevel < key.level + s.levelOffset) : s.highestAvailableLevel key = none := by
  have hnative : s.nativeLevel key.level = none := by
    simp [nativeLevel, Nat.not_le.mpr hkey]
  unfold highestAvailableLevel
  rw [hnative]
  cases s.archive <;> rfl

/-- The search answers the key itself exactly when the key's native level exists and its node
is in the table. -/
theorem highestAvailableLevel_ofFile_eq_self_iff (hopen : TreeArchive.ofBytes layer file = .ok a)
    (offset : Nat) (decode : ByteArray → Except DecodeError α) (key : TileKey) :
    (ofFile layer (some file) offset decode).highestAvailableLevel key = some key ↔
      key.level + offset ≤ maxNativeLevel ∧
        (a.toc.indexOf (key.level + offset) key.y key.x).isSome := by
  by_cases hkey : key.level + offset ≤ maxNativeLevel
  · rw [highestAvailableLevel_eq_self_iff hopen offset decode key hkey]
    exact ⟨fun h => ⟨hkey, h⟩, fun h => h.2⟩
  · rw [highestAvailableLevel_of_native_gt _ (Nat.lt_of_not_le hkey)]
    simp [hkey]

/-- Any answer of the search other than the key lies strictly above it. -/
theorem level_lt_of_highestAvailableLevel (hopen : TreeArchive.ofBytes layer file = .ok a)
    (offset : Nat) (decode : ByteArray → Except DecodeError α) {key best : TileKey}
    (h : (ofFile layer (some file) offset decode).highestAvailableLevel key = some best)
    (hne : best ≠ key) : best.level < key.level := by
  have hkey : key.level + offset ≤ maxNativeLevel := by
    refine Nat.le_of_not_lt fun hgt => ?_
    rw [highestAvailableLevel_of_native_gt _ hgt] at h
    cases h
  have hspec := finestPresent_ofFile hopen offset decode key hkey
  rw [h] at hspec
  obtain ⟨hlt, hanc, -, -⟩ := hspec
  -- at the key's own level the only ancestor is the key
  refine Nat.lt_of_le_of_ne (Nat.le_of_lt_succ hlt) fun hlevel => hne ?_
  rw [hlevel, TileKey.ancestorAt_self] at hanc
  exact (Option.some.inj hanc).symm

end TileSource

namespace Cli

variable {α : Type}

theorem fetch_of_createImage {s : TileSource α} (havail : s.isAvailable = true) {key : TileKey}
    {r : α} (himage : s.createImage key = some r) : fetch s key = .ok r := by
  simp [fetch, havail, himage]

/-- A tile that does not read and decode is reported from the finest-tile search: undecodable
when the search answers the key itself, else not found with the search's answer. -/
theorem fetch_of_createImage_none {s : TileSource α} (havail : s.isAvailable = true)
    {key : TileKey} (himage : s.createImage key = none) :
    fetch s key = if s.highestAvailableLevel key = some key then .error (.undecodable key)
      else .error (.tileNotFound key (s.highestAvailableLevel key)) := by
  simp only [fetch, havail, himage, Bool.not_true, Bool.false_eq_true, if_false]
  cases s.highestAvailableLevel key with
  | none => simp
  | some best => by_cases hb : best = key <;> simp [hb]

/-- A fetch from an available source reports the tile undecodable exactly when it does not
read and decode and the search answers the key itself. -/
theorem fetch_eq_undecodable_iff {s : TileSource α} (havail : s.isAvailable = true)
    {key : TileKey} :
    fetch s key = .error (.undecodable key) ↔
      s.createImage key = none ∧ s.highestAvailableLevel key = some key := by
  cases himage : s.createImage key with
  | some r => simp [fetch_of_createImage havail himage]
  | none =>
    rw [fetch_of_createImage_none havail himage]
    by_cases hself : s.highestAvailableLevel key = some key <;> simp [hself]

theorem search_of_available {s : TileSource α} (havail : s.isAvailable = true) (key : TileKey) :
    search s key =
      .ok ((s.highestAvailableLevel key).map fun best => (best, s.hasAnyChildren best)) := by
  simp [search, havail]

/-- The layers whose tiles the commands decode. -/
def HasTiles (layer : Layer) : Prop :=
  layer = .elevation ∨ layer = .surface ∨ layer = .landMask

section OpenedFile

variable {layer : Layer} {file : ByteArray} {a : TreeArchive}

theorem isAvailable_ofFile (hopen : TreeArchive.ofBytes layer file = .ok a)
    (hnodes : a.nodeCount ≠ 0) (offset : Nat) (decode : ByteArray → Except DecodeError α) :
    (TileSource.ofFile layer (some file) offset decode).isAvailable = true := by
  simp [TileSource.isAvailable, TileSource.archive_ofFile_of_nodes hopen hnodes]

/-- The finest tile along a key's ancestry is never finer than the key. -/
theorem level_le_of_highestAvailableLevel (hopen : TreeArchive.ofBytes layer file = .ok a)
    (offset : Nat) (decode : ByteArray → Except DecodeError α) {key best : TileKey}
    (h : (TileSource.ofFile layer (some file) offset decode).highestAvailableLevel key =
      some best) :
    best.level ≤ key.level := by
  by_cases hb : best = key
  · exact Nat.le_of_eq (congrArg TileKey.level hb)
  · exact Nat.le_of_lt (TileSource.level_lt_of_highestAvailableLevel hopen offset decode h hb)

/-- What `ancestor` prints for a layer with tiles whose file has nodes, once the search has found
`best`: the key, `best`, the levels between them and the child test of `best`. -/
theorem ancestor_of_highestAvailableLevel (hopen : TreeArchive.ofBytes layer file = .ok a)
    (hnodes : a.nodeCount ≠ 0) (hlayer : HasTiles layer) {files : FileView} {config : Config}
    {dir : String} (hfile : files (layer.treePath dir) = .ok file)
    (decode : ByteArray → Except DecodeError α) {key best : TileKey}
    (hbest : (TileSource.ofFile layer (some file) config.levelOffset decode).highestAvailableLevel
      key = some best) :
    ancestor files config dir key layer =
      ("Requested:      " ++ key.display ++ "\n" ++ "Best available: " ++ best.display ++ "\n" ++
        "Levels missing: " ++ toString (key.level - best.level) ++ "\n" ++ "Has children:   " ++
        yesNo
          ((TileSource.ofFile layer (some file) config.levelOffset decode).hasAnyChildren best) ++
        "\n", .ok ()) := by
  -- the search finds `best` whatever decoder the layer's source has
  have hsearch : ∀ {β : Type} (decode' : ByteArray → Except DecodeError β),
      search (TileSource.ofFile layer (some file) config.levelOffset decode') key =
        .ok (some (best, (TileSource.ofFile layer (some file) config.levelOffset
          decode).hasAnyChildren best)) := by
    intro β decode'
    rw [search_of_available (isAvailable_ofFile hopen hnodes _ decode'),
      TileSource.highestAvailableLevel_ofFile_decode _ decode', hbest, Option.map_some,
      TileSource.hasAnyChildren_ofFile_decode _ decode' decode]
  have hread : (files (layer.treePath dir)).toOption = some file := by
    rw [hfile]
    rfl
  -- the printed lines differ from the stated ones only in how they are grouped
  rcases hlayer with rfl | rfl | rfl <;>
    simp only [ancestor, hread, hsearch, String.append_assoc] <;> rfl

end OpenedFile

/-- What fetching the tile at `key` from a source reports, the table of its archive being
`toc`. -/
structure FetchReport (s : TileSource α) (toc : Toc) (key : TileKey) : Prop where
  /-- a tile that reads and decodes is fetched -/
  ok_of_image : ∀ r, s.createImage key = some r → fetch s key = .ok r
  /-- the fetch reports the tile undecodable exactly when it does not read and decode while its
  native level exists and its node is in the table -/
  undecodable_iff : fetch s key = .error (.undecodable key) ↔
    s.createImage key = none ∧ key.level + s.levelOffset ≤ maxNativeLevel ∧
      (toc.indexOf (key.level + s.levelOffset) key.y key.x).isSome
  /-- every other tile that does not read and decode is not found, with the finest tile along
  its ancestry, which then lies strictly above the key -/
  tileNotFound : s.createImage key = none →
    ¬ (key.level + s.levelOffset ≤ maxNativeLevel ∧
      (toc.indexOf (key.level + s.levelOffset) key.y key.x).isSome) →
    fetch s key = .error (.tileNotFound key (s.highestAvailableLevel key)) ∧
      ∀ best, s.highestAvailableLevel key = some best → best.level < key.level

/-- **How a tile fails to be fetched, and what `ancestor` prints.** On a source opened from any
tree file with at least one node, for every decoder, level offset and key: the fetch fails as
undecodable exactly when the tile does not read and decode although its native level exists
and its node is in the table, and as not found, naming the finest tile along its ancestry, in
every other case where the tile does not read and decode. And the `ancestor` command, run on
the same file for a layer with tiles, prints the finest tile, a count of missing levels that
is the exact difference of the two levels, and the child test of that tile. -/
theorem fetch_reports {layer : Layer} {file : ByteArray} {a : TreeArchive}
    (hopen : TreeArchive.ofBytes layer file = .ok a) (hnodes : a.nodeCount ≠ 0) (offset : Nat)
    (decode : ByteArray → Except DecodeError α) (key : TileKey) :
    FetchReport (TileSource.ofFile layer (some file) offset decode) a.toc key ∧
      ∀ (files : FileView) (config : Config) (dir : String), HasTiles layer →
        files (layer.treePath dir) = .ok file → config.levelOffset = offset →
        ∀ best, (TileSource.ofFile layer (some file) offset decode).highestAvailableLevel key =
            some best →
          ancestor files config dir key layer =
            ("Requested:      " ++ key.display ++ "\n" ++ "Best available: " ++ best.display ++
              "\n" ++ "Levels missing: " ++ toString (key.level - best.level) ++ "\n" ++
              "Has children:   " ++
              yesNo ((TileSource.ofFile layer (some file) offset decode).hasAnyChildren best) ++
              "\n", .ok ()) ∧
          best.level + (key.level - best.level) = key.level := by
  have havail := isAvailable_ofFile hopen hnodes offset decode
  -- the search answers the key itself exactly when the key's node is in the table
  have hself := TileSource.highestAvailableLevel_ofFile_eq_self_iff hopen offset decode key
  refine ⟨⟨fun r h => fetch_of_createImage havail h,
    (fetch_eq_undecodable_iff havail).trans (and_congr_right fun _ => hself),
    fun himage hnode => ?_⟩, ?_⟩
  · have hne : (TileSource.ofFile layer (some file) offset decode).highestAvailableLevel key ≠
        some key := fun h => hnode (hself.mp h)
    refine ⟨by rw [fetch_of_createImage_none havail himage, if_neg hne], fun best h => ?_⟩
    refine TileSource.level_lt_of_highestAvailableLevel hopen offset decode h ?_
    rintro rfl
    exact hne h
  · intro files config dir hlayer hfile hoffset best hbest
    subst hoffset
    exact ⟨ancestor_of_highestAvailableLevel hopen hnodes hlayer hfile decode hbest,
      Nat.add_sub_cancel' (level_le_of_highestAvailableLevel hopen _ decode hbest)⟩

/-- The data-bearing sample file has nodes, and its whole-body tile of native level 1 reads
to the one byte `A`, which is no surface: the tile is in the table and yet does not decode. -/
theorem fetch_reports_sample :
    TreeArchive.ofBytes .surface TreeArchive.sampleDataFile = .ok TreeArchive.sampleDataArchive ∧
      TreeArchive.sampleDataArchive.nodeCount ≠ 0 ∧
      TreeArchive.sampleDataArchive.readRawTile 1 0 0 = .ok (some ⟨#[0x41]⟩) ∧
      (TileSource.ofFile .surface (some TreeArchive.sampleDataFile) 0
          (Image.decode .surface)).createImage ⟨1, 0, 0⟩ = none ∧
      (FetchReport (TileSource.ofFile .surface (some TreeArchive.sampleDataFile) 0
          (Image.decode .surface)) TreeArchive.sampleDataArchive.toc ⟨1, 0, 0⟩ ∧
        ∀ (files : FileView) (config : Config) (dir : String), HasTiles .surface →
          files (Layer.surface.treePath dir) = .ok TreeArchive.sampleDataFile →
          config.levelOffset = 0 →
          ∀ best, (TileSource.ofFile .surface (some TreeArchive.sampleDataFile) 0
              (Image.decode .surface)).highestAvailableLevel ⟨1, 0, 0⟩ = some best →
            ancestor files config dir ⟨1, 0, 0⟩ .surface =
              ("Requested:      " ++ TileKey.display ⟨1, 0, 0⟩ ++ "\n" ++ "Best available: " ++
                best.display ++ "\n" ++ "Levels missing: " ++ toString (1 - best.level) ++ "\n" ++
                "Has children:   " ++
                yesNo ((TileSource.ofFile .surface (some TreeArchive.sampleDataFile) 0
                  (Image.decode .surface)).hasAnyChildren best) ++ "\n", .ok ()) ∧
            best.level + (1 - best.level) = 1) :=
  ⟨TreeArchive.ofBytes_sampleDataFile, by decide, by decide +kernel,
    by
      -- the kernel does not run the search that fills the table of ends: open the archive first
      unfold TileSource.createImage
      rw [TileSource.archive_ofFile_of_nodes TreeArchive.ofBytes_sampleDataFile (by decide)]
      decide +kernel,
    fetch_reports TreeArchive.ofBytes_sampleDataFile (by decide) 0 _ _⟩

end Cli

end PlanetTiles
