import Mathlib
import PlanetTiles.Elevation.Raster
import PlanetTiles.Proofs.Bytes
import PlanetTiles.Proofs.HeaderRoundTrip

/-!
# Decoding elevation tiles

Decoding a payload makes five checks, in this order, and fails with the first that does not
hold: the 100-byte header is there, the grid is 259 × 259, the header size is not negative, the
sample type is flat, 8-bit or 16-bit, and for stored samples the payload holds the whole padded
grid of `259 * 259 = 67081` samples from the header size on. That size may lie inside the header,
so the grid may overlap it, and a flat tile never looks at it.

A payload that passes gives its own header and 256 × 256 samples, row by row: the stored grid
without its one-sample border, each elevation shifted by the sea level and held within 16 bits,
the sums saturating. Every sample is read from inside the payload, so bytes after it are never
read.

* `decode_eq_ok` — the inversion lemma: a payload decodes only when it passes every check, and
  then to its header with the flat or the stored samples.
* `decode_reads_grid` — **a decoded raster is read from the grid**, sample by sample, with its
  range and whatever follows the payload.
* `decode_checks_in_order` — **decoding checks in order**: each check that fails gives its own
  error, once every check before it passed, and a payload that passes them all decodes.
-/

namespace PlanetTiles.Elevation

open Bytes

/-- A header read from a payload is the header of the payload with anything after it. -/
theorem Header.read_append (bytes rest : ByteArray) (h : headerLength ≤ bytes.size) :
    Header.read (bytes ++ rest) = Header.read bytes := by
  unfold headerLength at h
  -- every field lies inside the first 100 bytes, which the appended bytes leave alone
  have hint : ∀ o, o + 4 ≤ 100 → Header.int32At (bytes ++ rest) o = Header.int32At bytes o := by
    intro o ho
    rw [Header.int32At, Header.int32At, readLE_append_of_le bytes rest (by omega)]
  have hreal : ∀ o, o + 8 ≤ 100 →
      Header.binary64At (bytes ++ rest) o = Header.binary64At bytes o := by
    intro o ho
    rw [Header.binary64At, Header.binary64At, readLE_append_of_le bytes rest (by omega)]
  have hid : (Vector.ofFn fun i : Fin 4 => ((bytes ++ rest)[i.val]?).getD 0) =
      Vector.ofFn fun i : Fin 4 => (bytes[i.val]?).getD 0 := by
    congr 1
    funext i
    rw [ByteArray.getElem?_append_of_lt bytes rest (by omega)]
  simp only [Header.read, hid, hint 4 (by decide), hint 8 (by decide), hint 12 (by decide),
    hint 16 (by decide), hint 20 (by decide), hint 24 (by decide), hreal 28 (by decide),
    hreal 36 (by decide), hreal 44 (by decide), hreal 52 (by decide), hreal 60 (by decide),
    hreal 68 (by decide), hreal 76 (by decide), hreal 84 (by decide), hreal 92 (by decide)]

/-! ## Sample values -/

/-- A raster sample is the sum with the sea level held within `0 … 65535`, never wrapped. -/
theorem toInt_sampleOf (seaLevel : Nat) (elevation : Int) :
    ((sampleOf seaLevel elevation).toNat : Int) =
      max 0 (min 65535 (Signed64.addSat seaLevel elevation)) := by
  have hlt : (max 0 (min 65535 (Signed64.addSat seaLevel elevation))).toNat < 65536 := by omega
  rw [sampleOf, Nat.toUInt16, UInt16.toNat_ofNat', Nat.mod_eq_of_lt hlt]
  omega

namespace DataType

theorem ofCode_eq_some_iff {code : Int} {t : DataType} : ofCode code = some t ↔ code = t.code := by
  cases t <;> unfold ofCode DataType.code <;> split_ifs <;> simp_all

theorem ofCode_eq_none_iff {code : Int} :
    ofCode code = none ↔ code ≠ 0 ∧ code ≠ 8 ∧ code ≠ -16 := by
  unfold ofCode
  split_ifs <;> simp_all

/-- The sample type a code names is the one it is the code of. -/
theorem eq_of_ofCode {code : Int} {t t' : DataType} (ht : ofCode code = some t)
    (hcode : code = t'.code) : t = t' := by
  rw [ofCode_eq_some_iff.mpr hcode] at ht
  exact (Option.some.inj ht).symm

end DataType

theorem cellOf_eq (x y : Nat) : cellOf x y = 259 * (y + 1) + (x + 1) := by
  unfold cellOf paddedGrid
  omega

/-- The cells under the raster are cells of the stored grid. -/
theorem cellOf_lt {x y : Nat} (hx : x < tileSize) (hy : y < tileSize) :
    cellOf x y < gridSamples := by
  unfold cellOf gridSamples paddedGrid tileSize at *
  omega

/-! ## The range of a raster -/

/-- Folding the running minimum and maximum over samples ends at a sample or at the start,
below or above every sample. -/
theorem foldl_minMax (l : List UInt16) (lo hi : UInt16) :
    let m := l.foldl (fun acc s => (min acc.1 s, max acc.2 s)) (lo, hi)
    (m.1 = lo ∨ m.1 ∈ l) ∧ m.1 ≤ lo ∧ (∀ s ∈ l, m.1 ≤ s) ∧
      (m.2 = hi ∨ m.2 ∈ l) ∧ hi ≤ m.2 ∧ (∀ s ∈ l, s ≤ m.2) := by
  induction l generalizing lo hi with
  | nil => simp
  | cons s l ih =>
    obtain ⟨hlo, hlole, hlobound, hhi, hhile, hhibound⟩ := ih (min lo s) (max hi s)
    simp only [List.foldl_cons, List.mem_cons, forall_eq_or_imp] at *
    simp only [UInt16.le_iff_toNat_le, UInt16.toNat_min, UInt16.toNat_max] at *
    refine ⟨?_, by omega, ⟨by omega, hlobound⟩, ?_, by omega, ⟨by omega, hhibound⟩⟩
    · -- the running minimum is the start, the new sample or one of the rest
      rcases hlo with h | h
      · rw [h, UInt16.min_def]
        split_ifs <;> simp
      · exact .inr (.inr h)
    · rcases hhi with h | h
      · rw [h, UInt16.max_def]
        split_ifs <;> simp
      · exact .inr (.inr h)

/-- A sample at or above the top of the 16-bit range is that top. -/
theorem eq_of_top_le {a b : UInt16} (ha : a = 65535) (h : a ≤ b) : b = a := by
  have hb := b.toNat_lt
  rw [UInt16.le_iff_toNat_le, ha] at h
  rw [ha]
  apply UInt16.toNat_inj.mp
  simp only [UInt16.reduceToNat] at h ⊢
  omega

/-- A sample at or below the bottom of the 16-bit range is that bottom. -/
theorem eq_of_le_bottom {a b : UInt16} (ha : a = 0) (h : b ≤ a) : b = a := by
  rw [UInt16.le_iff_toNat_le, ha] at h
  rw [ha]
  apply UInt16.toNat_inj.mp
  simp only [UInt16.reduceToNat] at h ⊢
  omega

/-- **The range of a raster with samples** is its smallest and its largest sample. -/
theorem Raster.range_spec (r : Raster) (hpos : 0 < r.samples.size) :
    r.range.1 ∈ r.samples ∧ r.range.2 ∈ r.samples ∧
      ∀ s ∈ r.samples, r.range.1 ≤ s ∧ s ≤ r.range.2 := by
  obtain ⟨hlo, -, hlobound, hhi, -, hhibound⟩ :
      (r.range.1 = 65535 ∨ r.range.1 ∈ r.samples) ∧ r.range.1 ≤ 65535 ∧
        (∀ s ∈ r.samples, r.range.1 ≤ s) ∧ (r.range.2 = 0 ∨ r.range.2 ∈ r.samples) ∧
        0 ≤ r.range.2 ∧ (∀ s ∈ r.samples, s ≤ r.range.2) := by
    have h := foldl_minMax r.samples.toList 65535 0
    simp only [Array.foldl_toList, Array.mem_toList_iff] at h
    exact h
  -- a bound still at its start is met by every sample, so by the first one
  have hfirst : r.samples[0] ∈ r.samples := Array.getElem_mem hpos
  refine ⟨?_, ?_, fun t ht => ⟨hlobound t ht, hhibound t ht⟩⟩
  · rcases hlo with h | h
    · rw [← eq_of_top_le h (hlobound _ hfirst)]
      exact hfirst
    · exact h
  · rcases hhi with h | h
    · rw [← eq_of_le_bottom h (hhibound _ hfirst)]
      exact hfirst
    · exact h

theorem Raster.sample_of_lt (r : Raster) {x y : Nat} (hx : x < tileSize) (hy : y < tileSize) :
    r.sample x y = r.samples[y * tileSize + x]? := by
  simp [Raster.sample, hx, hy]

theorem Raster.sample_of_le (r : Raster) {x y : Nat} (h : tileSize ≤ x ∨ tileSize ≤ y) :
    r.sample x y = none := by
  unfold Raster.sample
  rw [if_neg (by omega)]

/-! ## Stored samples -/

theorem size_storedSamples (seaLevel : Nat) (t : DataType) (bytes : ByteArray) (start : Nat)
    (offset : Int) : (storedSamples seaLevel t bytes start offset).size = tileSize * tileSize := by
  unfold storedSamples
  exact Array.size_ofFn

/-- Each sample of a stored tile is read from the cell below it. -/
theorem sample_storedSamples (seaLevel : Nat) (t : DataType) (bytes : ByteArray) (start : Nat)
    (offset : Int) (header : Header) {x y : Nat} (hx : x < tileSize) (hy : y < tileSize) :
    (Raster.mk header (storedSamples seaLevel t bytes start offset)).sample x y =
      some (sampleOf seaLevel (Signed64.addSat (storedValue t bytes start (cellOf x y)) offset)) := by
  rw [Raster.sample_of_lt _ hx hy]
  dsimp only
  exact storedSamples_get seaLevel t bytes start offset hx hy

/-- A stored value inside the payload reads the same whatever follows the payload. -/
theorem storedValue_append (t : DataType) (bytes rest : ByteArray) {start cell : Nat}
    (hcell : cell < gridSamples) (hsize : start + gridSamples * t.sampleSize ≤ bytes.size) :
    storedValue t (bytes ++ rest) start cell = storedValue t bytes start cell := by
  cases t with
  | flat => rfl
  | u8 =>
    simp only [DataType.sampleSize] at hsize
    rw [storedValue, storedValue, readLE_append_of_le bytes rest (by omega)]
  | i16 =>
    simp only [DataType.sampleSize] at hsize
    rw [storedValue, storedValue, readLE_append_of_le bytes rest (by omega)]

theorem storedSamples_append (seaLevel : Nat) (t : DataType) (bytes rest : ByteArray)
    {start : Nat} (offset : Int) (hsize : start + gridSamples * t.sampleSize ≤ bytes.size) :
    storedSamples seaLevel t (bytes ++ rest) start offset =
      storedSamples seaLevel t bytes start offset := by
  unfold storedSamples
  refine congrArg Array.ofFn (funext fun i => ?_)
  have hi := i.isLt
  have hcell : cellOf (i.val % tileSize) (i.val / tileSize) < gridSamples :=
    cellOf_lt (Nat.mod_lt _ (by decide)) (by unfold tileSize at hi ⊢; omega)
  rw [storedValue_append t bytes rest hcell hsize]

/-! ## Decoding, check by check

Each lemma takes the checks before its own as passed. -/

/-- The payload holds a header, and its grid is the padded grid: the checks before the header
size. -/
structure GridRead (bytes : ByteArray) : Prop where
  /-- the payload holds the header -/
  holds_header : headerLength ≤ bytes.size
  /-- the grid is as wide as the padded grid -/
  gridWidth_eq : (Header.read bytes).gridWidth.toInt = paddedGrid
  /-- and as high -/
  gridHeight_eq : (Header.read bytes).gridHeight.toInt = paddedGrid

theorem GridRead.append {bytes : ByteArray} (hg : GridRead bytes) (rest : ByteArray) :
    GridRead (bytes ++ rest) := by
  have hread := Header.read_append bytes rest hg.holds_header
  refine ⟨?_, ?_, ?_⟩
  · rw [ByteArray.size_append]
    exact Nat.le_add_right_of_le hg.holds_header
  · rw [hread]
    exact hg.gridWidth_eq
  · rw [hread]
    exact hg.gridHeight_eq

variable {seaLevel : Nat} {bytes : ByteArray}

theorem decode_of_size_lt (h : bytes.size < headerLength) :
    decode seaLevel bytes = .error (.bufferTooShort headerLength bytes.size) := by
  simp [decode, Header.parse, h, bind, Except.bind]

theorem decode_of_grid_ne (hsize : headerLength ≤ bytes.size)
    (h : (Header.read bytes).gridWidth.toInt ≠ paddedGrid ∨
      (Header.read bytes).gridHeight.toInt ≠ paddedGrid) :
    decode seaLevel bytes = .error (.gridMismatch (Header.read bytes).gridWidth.toInt
      (Header.read bytes).gridHeight.toInt paddedGrid) := by
  simp [decode, Header.parse_of_size hsize, h, bind, Except.bind, throw, throwThe,
    MonadExceptOf.throw]

theorem decode_of_headerSize_neg (hg : GridRead bytes)
    (h : (Header.read bytes).headerSize.toInt < 0) :
    decode seaLevel bytes = .error (.negativeHeaderSize (Header.read bytes).headerSize.toInt) := by
  simp [decode, Header.parse_of_size hg.holds_header, hg.gridWidth_eq, hg.gridHeight_eq, h, bind,
    Except.bind, throw, throwThe, MonadExceptOf.throw]

theorem decode_of_ofCode_none (hg : GridRead bytes)
    (hs : 0 ≤ (Header.read bytes).headerSize.toInt)
    (h : DataType.ofCode (Header.read bytes).dataType.toInt = none) :
    decode seaLevel bytes = .error (.unsupportedDataType (Header.read bytes).dataType.toInt) := by
  simp [decode, Header.parse_of_size hg.holds_header, hg.gridWidth_eq, hg.gridHeight_eq,
    Int.not_lt.mpr hs, h, bind, Except.bind, throw, throwThe, MonadExceptOf.throw]

/-- A flat tile decodes to its truncated mean everywhere, wherever its header size points. -/
theorem decode_flat (hg : GridRead bytes) (hs : 0 ≤ (Header.read bytes).headerSize.toInt)
    (h : DataType.ofCode (Header.read bytes).dataType.toInt = some .flat) :
    decode seaLevel bytes = .ok ⟨Header.read bytes, Array.replicate (tileSize * tileSize)
      (sampleOf seaLevel (Header.read bytes).elevMean.truncate)⟩ := by
  simp [decode, Header.parse_of_size hg.holds_header, hg.gridWidth_eq, hg.gridHeight_eq,
    Int.not_lt.mpr hs, h, bind, Except.bind, pure, Except.pure]

theorem decode_of_size_lt_needed (hg : GridRead bytes)
    (hs : 0 ≤ (Header.read bytes).headerSize.toInt) {t : DataType}
    (ht : DataType.ofCode (Header.read bytes).dataType.toInt = some t) (hflat : t ≠ .flat)
    (h : bytes.size < (Header.read bytes).headerSize.toInt.toNat + gridSamples * t.sampleSize) :
    decode seaLevel bytes = .error (.bufferTooShort
      ((Header.read bytes).headerSize.toInt.toNat + gridSamples * t.sampleSize) bytes.size) := by
  cases t with
  | flat => exact absurd rfl hflat
  | u8 | i16 =>
    -- kept from rewriting the header size's `toInt.toNat` to `toNatClampNeg`, so that `h` applies
    simp [decode, Header.parse_of_size hg.holds_header, hg.gridWidth_eq, hg.gridHeight_eq,
      Int.not_lt.mpr hs, ht, h, bind, Except.bind, throw, throwThe, MonadExceptOf.throw,
      -Int32.toNat_toInt]

/-- A stored tile that holds its grid decodes to the samples stored from the header size on. -/
theorem decode_stored (hg : GridRead bytes) (hs : 0 ≤ (Header.read bytes).headerSize.toInt)
    {t : DataType} (ht : DataType.ofCode (Header.read bytes).dataType.toInt = some t)
    (hflat : t ≠ .flat)
    (h : (Header.read bytes).headerSize.toInt.toNat + gridSamples * t.sampleSize ≤ bytes.size) :
    decode seaLevel bytes = .ok ⟨Header.read bytes, storedSamples seaLevel t bytes
      (Header.read bytes).headerSize.toInt.toNat (Header.read bytes).offset.truncate⟩ := by
  cases t with
  | flat => exact absurd rfl hflat
  | u8 | i16 =>
    simp [decode, Header.parse_of_size hg.holds_header, hg.gridWidth_eq, hg.gridHeight_eq,
      Int.not_lt.mpr hs, ht, Nat.not_lt.mpr h, bind, Except.bind, pure, Except.pure,
      -Int32.toNat_toInt]

/-- **The inversion lemma of decoding.** A payload decodes only when it passes every check,
and then to its own header with either the flat samples or the samples stored from the header
size on. -/
theorem decode_eq_ok {r : Raster} (h : decode seaLevel bytes = .ok r) :
    GridRead bytes ∧ 0 ≤ (Header.read bytes).headerSize.toInt ∧
      (DataType.ofCode (Header.read bytes).dataType.toInt = some .flat ∧
        r = ⟨Header.read bytes, Array.replicate (tileSize * tileSize)
          (sampleOf seaLevel (Header.read bytes).elevMean.truncate)⟩ ∨
      ∃ t, t ≠ .flat ∧ DataType.ofCode (Header.read bytes).dataType.toInt = some t ∧
        (Header.read bytes).headerSize.toInt.toNat + gridSamples * t.sampleSize ≤ bytes.size ∧
        r = ⟨Header.read bytes, storedSamples seaLevel t bytes
          (Header.read bytes).headerSize.toInt.toNat (Header.read bytes).offset.truncate⟩) := by
  -- each check that fails ends the decoding with an error
  have hsize : headerLength ≤ bytes.size := Nat.le_of_not_lt fun hlt => by
    rw [decode_of_size_lt hlt] at h
    cases h
  have hg : GridRead bytes := by
    by_cases hne : (Header.read bytes).gridWidth.toInt ≠ paddedGrid ∨
        (Header.read bytes).gridHeight.toInt ≠ paddedGrid
    · rw [decode_of_grid_ne hsize hne] at h
      cases h
    · simp only [ne_eq, not_or, not_not] at hne
      exact ⟨hsize, hne.1, hne.2⟩
  have hs : 0 ≤ (Header.read bytes).headerSize.toInt := Int.not_lt.mp fun hneg => by
    rw [decode_of_headerSize_neg hg hneg] at h
    cases h
  refine ⟨hg, hs, ?_⟩
  cases ht : DataType.ofCode (Header.read bytes).dataType.toInt with
  | none =>
    rw [decode_of_ofCode_none hg hs ht] at h
    cases h
  | some t =>
    by_cases hflat : t = .flat
    · subst hflat
      rw [decode_flat hg hs ht] at h
      cases h
      exact .inl ⟨rfl, rfl⟩
    · -- a stored tile: the sample block is checked last
      by_cases hlt : bytes.size <
          (Header.read bytes).headerSize.toInt.toNat + gridSamples * t.sampleSize
      · rw [decode_of_size_lt_needed hg hs ht hflat hlt] at h
        cases h
      · rw [decode_stored hg hs ht hflat (Nat.le_of_not_lt hlt)] at h
        cases h
        exact .inr ⟨t, hflat, rfl, Nat.le_of_not_lt hlt, rfl⟩

/-- A tile that decodes with a sample type other than flat decodes to the samples stored for
that type, and the payload holds their whole grid. -/
theorem decode_eq_ok_stored {r : Raster} (h : decode seaLevel bytes = .ok r) {t : DataType}
    (hcode : (Header.read bytes).dataType.toInt = t.code) (hflat : t ≠ .flat) :
    (Header.read bytes).headerSize.toInt.toNat + gridSamples * t.sampleSize ≤ bytes.size ∧
      r = ⟨Header.read bytes, storedSamples seaLevel t bytes
        (Header.read bytes).headerSize.toInt.toNat (Header.read bytes).offset.truncate⟩ := by
  obtain ⟨-, -, ⟨hft, -⟩ | ⟨t', -, ht', hsize, rfl⟩⟩ := decode_eq_ok h
  · exact absurd (DataType.eq_of_ofCode hft hcode).symm hflat
  · obtain rfl := DataType.eq_of_ofCode ht' hcode
    exact ⟨hsize, rfl⟩

theorem size_samples_of_decode {r : Raster} (h : decode seaLevel bytes = .ok r) :
    r.samples.size = tileSize * tileSize := by
  obtain ⟨-, -, ⟨-, rfl⟩ | ⟨t, -, -, -, rfl⟩⟩ := decode_eq_ok h
  · dsimp only
    exact Array.size_replicate
  · dsimp only
    exact size_storedSamples _ _ _ _ _

/-! ## The samples of a decoded raster -/

theorem decode_sample_flat {r : Raster} (h : decode seaLevel bytes = .ok r)
    (hcode : (Header.read bytes).dataType.toInt = 0) {x y : Nat} (hx : x < 256) (hy : y < 256) :
    (r.sample x y).map (fun s => (s.toNat : Int)) =
      some (max 0 (min 65535 (Signed64.addSat seaLevel (Header.read bytes).elevMean.truncate))) := by
  obtain ⟨-, -, ⟨-, rfl⟩ | ⟨t, hflat, ht, -, -⟩⟩ := decode_eq_ok h
  · have hi : y * tileSize + x < tileSize * tileSize := by
      unfold tileSize
      omega
    rw [Raster.sample_of_lt _ hx hy, Array.getElem?_replicate, if_pos hi, Option.map_some,
      toInt_sampleOf]
  · have hflatCode : (Header.read bytes).dataType.toInt = DataType.flat.code := hcode
    exact absurd (DataType.eq_of_ofCode ht hflatCode) hflat

theorem decode_sample_u8 {r : Raster} (h : decode seaLevel bytes = .ok r)
    (hcode : (Header.read bytes).dataType.toInt = 8) {x y : Nat} (hx : x < 256) (hy : y < 256) :
    ∃ v : UInt8,
      bytes[(Header.read bytes).headerSize.toInt.toNat + (259 * (y + 1) + (x + 1))]? = some v ∧
      (r.sample x y).map (fun s => (s.toNat : Int)) = some (max 0 (min 65535
        (Signed64.addSat seaLevel (Signed64.addSat v.toNat (Header.read bytes).offset.truncate)))) := by
  obtain ⟨hsize, rfl⟩ := decode_eq_ok_stored h (t := .u8) hcode (by decide)
  have hcell := cellOf_lt hx hy
  -- the byte below the sample lies inside the payload
  have hi : (Header.read bytes).headerSize.toInt.toNat + cellOf x y < bytes.size := by
    simp only [DataType.sampleSize] at hsize
    omega
  have hv : bytes[(Header.read bytes).headerSize.toInt.toNat + cellOf x y]? =
      some bytes[(Header.read bytes).headerSize.toInt.toNat + cellOf x y] := getElem?_pos bytes _ hi
  refine ⟨_, by rw [← cellOf_eq]; exact hv, ?_⟩
  rw [sample_storedSamples _ _ _ _ _ _ hx hy, Option.map_some, toInt_sampleOf, storedValue,
    readLE_one hv]

theorem decode_sample_i16 {r : Raster} (h : decode seaLevel bytes = .ok r)
    (hcode : (Header.read bytes).dataType.toInt = -16) {x y : Nat} (hx : x < 256) (hy : y < 256) :
    ∃ lo hi : UInt8,
      bytes[(Header.read bytes).headerSize.toInt.toNat + 2 * (259 * (y + 1) + (x + 1))]? = some lo ∧
      bytes[(Header.read bytes).headerSize.toInt.toNat + 2 * (259 * (y + 1) + (x + 1)) + 1]? =
        some hi ∧
      (r.sample x y).map (fun s => (s.toNat : Int)) = some (max 0 (min 65535
        (Signed64.addSat seaLevel (Signed64.addSat (hi.toBitVec ++ lo.toBitVec).toInt
          (Header.read bytes).offset.truncate)))) := by
  obtain ⟨hsize, rfl⟩ := decode_eq_ok_stored h (t := .i16) hcode (by decide)
  have hcell := cellOf_lt hx hy
  -- both bytes below the sample lie inside the payload
  have hi : (Header.read bytes).headerSize.toInt.toNat + 2 * cellOf x y + 1 < bytes.size := by
    simp only [DataType.sampleSize] at hsize
    omega
  have hi' := Nat.lt_of_succ_lt hi
  have hlo : bytes[(Header.read bytes).headerSize.toInt.toNat + 2 * cellOf x y]? =
      some bytes[(Header.read bytes).headerSize.toInt.toNat + 2 * cellOf x y] :=
    getElem?_pos bytes _ hi'
  have hhi : bytes[(Header.read bytes).headerSize.toInt.toNat + 2 * cellOf x y + 1]? =
      some bytes[(Header.read bytes).headerSize.toInt.toNat + 2 * cellOf x y + 1] :=
    getElem?_pos bytes _ hi
  refine ⟨_, _, by rw [← cellOf_eq]; exact hlo, by rw [← cellOf_eq]; exact hhi, ?_⟩
  rw [sample_storedSamples _ _ _ _ _ _ hx hy, Option.map_some, toInt_sampleOf, storedValue,
    readLE_two hlo hhi, ofTwosComplement_two_bytes]

/-- **Bytes after a payload are never read**: a payload that decodes decodes to the same raster
with anything appended. -/
theorem decode_append {r : Raster} (h : decode seaLevel bytes = .ok r) (rest : ByteArray) :
    decode seaLevel (bytes ++ rest) = .ok r := by
  have hread := Header.read_append bytes rest (decode_eq_ok h).1.holds_header
  obtain ⟨hg, hs, ⟨ht, rfl⟩ | ⟨t, hflat, ht, hsize, rfl⟩⟩ := decode_eq_ok h
  · rw [← hread] at hs ht ⊢
    rw [decode_flat (hg.append rest) hs ht]
  · -- the appended payload still holds the grid, and its samples read the same bytes
    have hsize' : (Header.read (bytes ++ rest)).headerSize.toInt.toNat +
        gridSamples * t.sampleSize ≤ (bytes ++ rest).size := by
      rw [hread, ByteArray.size_append]
      omega
    rw [← hread] at hs ht
    rw [decode_stored (hg.append rest) hs ht hflat hsize', hread,
      storedSamples_append seaLevel t bytes rest _ hsize]

/-! ## What a decoded raster holds -/

/-- What a raster decoded from `bytes` around a sea level holds. Its header is the header at the
start of the payload. Sample `(x, y)` of the 256 × 256 raster is an elevation shifted by the sea
level and held within `0 … 65535`, the sums saturating at the signed 64-bit bounds; the
elevation is the truncated mean for a flat tile, and for a stored tile the value stored one row
and one column past the border, counted from the header size, plus the truncated offset. The
scale takes no part. -/
structure ReadsGrid (seaLevel : Nat) (bytes : ByteArray) (r : Raster) : Prop where
  /-- the header is the one at the start of the payload -/
  header_eq : Header.parse bytes = .ok r.header
  /-- a flat tile is at its mean elevation everywhere -/
  sample_flat : (Header.read bytes).dataType.toInt = 0 → ∀ x < 256, ∀ y < 256,
    (r.sample x y).map (fun s => (s.toNat : Int)) =
      some (max 0 (min 65535 (Signed64.addSat seaLevel (Header.read bytes).elevMean.truncate)))
  /-- an 8-bit sample is the byte below it plus the offset -/
  sample_u8 : (Header.read bytes).dataType.toInt = 8 → ∀ x < 256, ∀ y < 256, ∃ v : UInt8,
    bytes[(Header.read bytes).headerSize.toInt.toNat + (259 * (y + 1) + (x + 1))]? = some v ∧
    (r.sample x y).map (fun s => (s.toNat : Int)) = some (max 0 (min 65535
      (Signed64.addSat seaLevel (Signed64.addSat v.toNat (Header.read bytes).offset.truncate))))
  /-- a 16-bit sample is the signed little-endian pair below it plus the offset -/
  sample_i16 : (Header.read bytes).dataType.toInt = -16 → ∀ x < 256, ∀ y < 256, ∃ lo hi : UInt8,
    bytes[(Header.read bytes).headerSize.toInt.toNat + 2 * (259 * (y + 1) + (x + 1))]? = some lo ∧
    bytes[(Header.read bytes).headerSize.toInt.toNat + 2 * (259 * (y + 1) + (x + 1)) + 1]? =
      some hi ∧
    (r.sample x y).map (fun s => (s.toNat : Int)) = some (max 0 (min 65535
      (Signed64.addSat seaLevel (Signed64.addSat (hi.toBitVec ++ lo.toBitVec).toInt
        (Header.read bytes).offset.truncate))))
  /-- there is no sample outside the raster -/
  sample_outside : ∀ x y, 256 ≤ x ∨ 256 ≤ y → r.sample x y = none
  /-- the samples are these 65536, row by row -/
  samples_rowMajor : r.samples.size = 65536 ∧
    ∀ x < 256, ∀ y < 256, r.samples[y * 256 + x]? = r.sample x y
  /-- the range is the smallest and the largest of them -/
  range_eq : r.range.1 ∈ r.samples ∧ r.range.2 ∈ r.samples ∧
    ∀ s ∈ r.samples, r.range.1 ≤ s ∧ s ≤ r.range.2
  /-- bytes after the payload change nothing -/
  append : ∀ rest, decode seaLevel (bytes ++ rest) = .ok r

/-- **A decoded raster is read from the grid.** Every payload that decodes gives its own header
and, at each of the 256 × 256 places, the elevation stored one row and one column past the
border (or the mean of a flat tile), shifted by the sea level and held within 16 bits; the
samples run row by row, the range is their minimum and maximum, and bytes after the payload
are never read. -/
theorem decode_reads_grid {r : Raster} (h : decode seaLevel bytes = .ok r) :
    ReadsGrid seaLevel bytes r where
  header_eq := by
    obtain ⟨hg, -, ⟨-, rfl⟩ | ⟨t, -, -, -, rfl⟩⟩ := decode_eq_ok h <;>
      exact Header.parse_of_size hg.holds_header
  sample_flat := fun hcode _ hx _ hy => decode_sample_flat h hcode hx hy
  sample_u8 := fun hcode _ hx _ hy => decode_sample_u8 h hcode hx hy
  sample_i16 := fun hcode _ hx _ hy => decode_sample_i16 h hcode hx hy
  sample_outside := fun _ _ hout => r.sample_of_le hout
  samples_rowMajor := ⟨size_samples_of_decode h, fun _ hx _ hy => (r.sample_of_lt hx hy).symm⟩
  range_eq := r.range_spec (by rw [size_samples_of_decode h]; decide)
  append := decode_append h

/-- `n` bytes counting up from 0, wrapping at 256: a grid in which neighbouring samples
differ, so that reading one row or one column off shows. -/
def rampBytes (n : Nat) : ByteArray :=
  ⟨Array.ofFn fun c : Fin n => UInt8.ofNat c.val⟩

theorem size_rampBytes (n : Nat) : (rampBytes n).size = n := by
  simp [rampBytes, ByteArray.size]

/-- A packed header followed by a ramp has the ramp's byte `c` at `100 + c`. -/
theorem getElem?_toBytes_append_rampBytes (h : Header) {n c : Nat} (hc : c < n) :
    (h.toBytes ++ rampBytes n)[headerLength + c]? = some (UInt8.ofNat c) := by
  rw [ByteArray.getElem?_append_of_le _ _ (by rw [Header.size_toBytes]; omega),
    Header.size_toBytes, Nat.add_sub_cancel_left]
  simp [rampBytes, hc]

/-- A packed header followed by any bytes reads back as that header. -/
theorem Header.read_toBytes_append (h : Header) (rest : ByteArray) :
    Header.read (h.toBytes ++ rest) = h := by
  rw [Header.read_append _ _ (Header.size_toBytes h).ge, Header.read_toBytes]

/-- The standard header with samples of type `code`. -/
def rampHeader (code : Int32) : Header := { Header.standard with dataType := code }

/-- A tile of 8-bit samples: its grid is the ramp, stored right after the header. -/
def u8RampTile : ByteArray := (rampHeader 8).toBytes ++ rampBytes gridSamples

/-- A tile of 16-bit samples: its grid is the ramp read two bytes at a time. -/
def i16RampTile : ByteArray := (rampHeader (-16)).toBytes ++ rampBytes (2 * gridSamples)

/-- The raster of a ramp tile at the sea level 1000, as `decode_stored` gives it. -/
def rampRaster (t : DataType) (tile : ByteArray) : Raster :=
  ⟨rampHeader t.code.toInt32, storedSamples 1000 t tile headerLength Binary64.zero.truncate⟩

/-- A ramp tile whose header is read back and whose grid is all there decodes to its stored
samples from byte 100 on. -/
theorem decode_rampTile {t : DataType} {tile : ByteArray} (hflat : t ≠ .flat)
    (hread : Header.read tile = rampHeader t.code.toInt32)
    (hsize : tile.size = headerLength + gridSamples * t.sampleSize) :
    decode 1000 tile = .ok (rampRaster t tile) := by
  have hg : GridRead tile := ⟨by rw [hsize]; omega, by rw [hread]; rfl, by rw [hread]; rfl⟩
  have hstart : (Header.read tile).headerSize.toInt.toNat = headerLength := by
    rw [hread]
    rfl
  have hs : 0 ≤ (Header.read tile).headerSize.toInt := by
    rw [hread]
    exact (by decide : 0 ≤ Header.standard.headerSize.toInt)
  have ht : DataType.ofCode (Header.read tile).dataType.toInt = some t := by
    rw [hread]
    cases t <;> first | exact absurd rfl hflat | rfl
  rw [decode_stored hg hs ht hflat (by rw [hstart, hsize]), hstart, hread]
  rfl

theorem decode_u8RampTile : decode 1000 u8RampTile = .ok (rampRaster .u8 u8RampTile) :=
  decode_rampTile (by decide) (Header.read_toBytes_append _ _)
    (by rw [u8RampTile, ByteArray.size_append, Header.size_toBytes, size_rampBytes]; rfl)

theorem decode_i16RampTile : decode 1000 i16RampTile = .ok (rampRaster .i16 i16RampTile) :=
  decode_rampTile (by decide) (Header.read_toBytes_append _ _)
    (by rw [i16RampTile, ByteArray.size_append, Header.size_toBytes, size_rampBytes]; rfl)

/-- The two ramp tiles decode, their rasters read the grid, and the sample at `(2, 1)` is the
sea level plus the value stored at grid cell `259 * 2 + 3 = 521`: the byte `521 mod 256 = 9`
for the 8-bit tile, and the pair of bytes `18, 19`, the word `19 * 256 + 18 = 4882`, for the
16-bit one. -/
theorem decode_reads_grid_rampTiles :
    decode 1000 u8RampTile = .ok (rampRaster .u8 u8RampTile) ∧
      ReadsGrid 1000 u8RampTile (rampRaster .u8 u8RampTile) ∧
      ((rampRaster .u8 u8RampTile).sample 2 1).map (fun s => (s.toNat : Int)) = some 1009 ∧
    decode 1000 i16RampTile = .ok (rampRaster .i16 i16RampTile) ∧
      ReadsGrid 1000 i16RampTile (rampRaster .i16 i16RampTile) ∧
      ((rampRaster .i16 i16RampTile).sample 2 1).map (fun s => (s.toNat : Int)) = some 5882 := by
  have hu := decode_reads_grid decode_u8RampTile
  have hi := decode_reads_grid decode_i16RampTile
  have hreadu : Header.read u8RampTile = rampHeader 8 := Header.read_toBytes_append _ _
  have hreadi : Header.read i16RampTile = rampHeader (-16) := Header.read_toBytes_append _ _
  refine ⟨decode_u8RampTile, hu, ?_, decode_i16RampTile, hi, ?_⟩
  · obtain ⟨v, hv, hsample⟩ := hu.sample_u8 (by rw [hreadu]; rfl) 2 (by decide) 1 (by decide)
    rw [hreadu] at hv hsample
    rw [show (rampHeader 8).headerSize.toInt.toNat + (259 * (1 + 1) + (2 + 1)) = headerLength + 521
      from rfl, u8RampTile, getElem?_toBytes_append_rampBytes _ (by decide)] at hv
    cases hv
    rw [hsample]
    decide
  · obtain ⟨lo, hi', hlo, hhi, hsample⟩ :=
      hi.sample_i16 (by rw [hreadi]; rfl) 2 (by decide) 1 (by decide)
    rw [hreadi] at hlo hhi hsample
    rw [show (rampHeader (-16)).headerSize.toInt.toNat + 2 * (259 * (1 + 1) + (2 + 1)) =
      headerLength + 1042 from rfl, i16RampTile,
      getElem?_toBytes_append_rampBytes _ (by decide)] at hlo
    rw [show (rampHeader (-16)).headerSize.toInt.toNat + 2 * (259 * (1 + 1) + (2 + 1)) + 1 =
      headerLength + 1043 from rfl, i16RampTile,
      getElem?_toBytes_append_rampBytes _ (by decide)] at hhi
    cases hlo
    cases hhi
    rw [hsample]
    decide

/-! ## The checks of decoding, in order -/

/-- A code of stored samples names a type other than flat, whose samples take `k` bytes. -/
theorem exists_ofCode_of_stored {code : Int} {k : Nat}
    (hk : code = 8 ∧ k = 1 ∨ code = -16 ∧ k = 2) :
    ∃ t, DataType.ofCode code = some t ∧ t ≠ .flat ∧ t.sampleSize = k := by
  rcases hk with ⟨rfl, rfl⟩ | ⟨rfl, rfl⟩
  · exact ⟨.u8, rfl, by decide, rfl⟩
  · exact ⟨.i16, rfl, by decide, rfl⟩

/-- What decoding `bytes` answers: the error of the first check that fails, in the order the
header, the grid, the header size, the sample type and the sample block, or a raster whose
samples are all read from inside the payload. -/
structure DecodeAnswer (seaLevel : Nat) (bytes : ByteArray) : Prop where
  /-- a payload shorter than the header is too short for it -/
  short : bytes.size < 100 → decode seaLevel bytes = .error (.bufferTooShort 100 bytes.size)
  /-- then the grid, with both its sides named -/
  grid_mismatch : 100 ≤ bytes.size →
    ((Header.read bytes).gridWidth.toInt ≠ 259 ∨ (Header.read bytes).gridHeight.toInt ≠ 259) →
    decode seaLevel bytes = .error (.gridMismatch (Header.read bytes).gridWidth.toInt
      (Header.read bytes).gridHeight.toInt 259)
  /-- then the header size -/
  negative_header_size : GridRead bytes → (Header.read bytes).headerSize.toInt < 0 →
    decode seaLevel bytes = .error (.negativeHeaderSize (Header.read bytes).headerSize.toInt)
  /-- then the sample type -/
  unsupported_type : GridRead bytes → 0 ≤ (Header.read bytes).headerSize.toInt →
    (Header.read bytes).dataType.toInt ≠ 0 → (Header.read bytes).dataType.toInt ≠ 8 →
    (Header.read bytes).dataType.toInt ≠ -16 →
    decode seaLevel bytes = .error (.unsupportedDataType (Header.read bytes).dataType.toInt)
  /-- and last, for samples of `k` bytes, that the grid is there from the header size on -/
  truncated : GridRead bytes → 0 ≤ (Header.read bytes).headerSize.toInt → ∀ k : Nat,
    ((Header.read bytes).dataType.toInt = 8 ∧ k = 1 ∨
      (Header.read bytes).dataType.toInt = -16 ∧ k = 2) →
    bytes.size < (Header.read bytes).headerSize.toInt.toNat + 67081 * k →
    decode seaLevel bytes = .error
      (.bufferTooShort ((Header.read bytes).headerSize.toInt.toNat + 67081 * k) bytes.size)
  /-- a flat tile decodes, wherever its header size points -/
  flat : GridRead bytes → 0 ≤ (Header.read bytes).headerSize.toInt →
    (Header.read bytes).dataType.toInt = 0 → ∃ r, decode seaLevel bytes = .ok r
  /-- a stored tile whose grid is there decodes, and the `k` bytes of each sample lie inside
  the payload, also when the grid starts inside the header -/
  stored : GridRead bytes → 0 ≤ (Header.read bytes).headerSize.toInt → ∀ k : Nat,
    ((Header.read bytes).dataType.toInt = 8 ∧ k = 1 ∨
      (Header.read bytes).dataType.toInt = -16 ∧ k = 2) →
    (Header.read bytes).headerSize.toInt.toNat + 67081 * k ≤ bytes.size →
    (∃ r, decode seaLevel bytes = .ok r) ∧ ∀ x < 256, ∀ y < 256,
      (Header.read bytes).headerSize.toInt.toNat + k * cellOf x y + k ≤ bytes.size

/-- **Decoding checks in order.** For every sea level and every payload, decoding fails with the
error of the first check that fails: the header is there, the grid is 259 × 259, the header size
is not negative, the sample type is flat, 8-bit or 16-bit, and a stored grid of 67081 samples is
there from the header size on. Otherwise it decodes, and every sample is read from inside the
payload. -/
theorem decode_checks_in_order (seaLevel : Nat) (bytes : ByteArray) :
    DecodeAnswer seaLevel bytes where
  short := decode_of_size_lt
  grid_mismatch := decode_of_grid_ne
  negative_header_size := decode_of_headerSize_neg
  unsupported_type := fun hg hs h0 h8 h16 =>
    decode_of_ofCode_none hg hs (DataType.ofCode_eq_none_iff.mpr ⟨h0, h8, h16⟩)
  truncated := fun hg hs k hk hlt => by
    obtain ⟨t, ht, hflat, rfl⟩ := exists_ofCode_of_stored hk
    exact decode_of_size_lt_needed hg hs ht hflat hlt
  flat := fun hg hs hcode =>
    ⟨_, decode_flat hg hs (DataType.ofCode_eq_some_iff.mpr hcode)⟩
  stored := fun hg hs k hk hsize => by
    obtain ⟨t, ht, hflat, rfl⟩ := exists_ofCode_of_stored hk
    refine ⟨⟨_, decode_stored hg hs ht hflat hsize⟩, fun x hx y hy => ?_⟩
    -- the last cell read is inside the grid
    have hcell : cellOf x y + 1 ≤ 67081 := cellOf_lt hx hy
    rw [Nat.mul_comm 67081] at hsize
    calc (Header.read bytes).headerSize.toInt.toNat + t.sampleSize * cellOf x y + t.sampleSize
        = (Header.read bytes).headerSize.toInt.toNat + t.sampleSize * (cellOf x y + 1) := by
          rw [Nat.mul_succ, Nat.add_assoc]
      _ ≤ (Header.read bytes).headerSize.toInt.toNat + t.sampleSize * 67081 :=
          Nat.add_le_add_left (Nat.mul_le_mul_left _ hcell) _
      _ ≤ bytes.size := hsize

/-- A header of 8-bit samples with no sample block after it. -/
def bareU8Header : ByteArray := { Header.standard with dataType := 8 }.toBytes

/-- The 100-byte header of 8-bit samples at header size 100 needs `100 + 259 * 259` bytes, and
the error says so: the grid is the whole padded grid of 67081 samples, not 66881. -/
theorem decode_bareU8Header_needs_whole_grid :
    decode 32767 bareU8Header = .error (.bufferTooShort (100 + 67081) 100) ∧
      decode 32767 bareU8Header ≠ .error (.bufferTooShort (100 + 66881) 100) := by
  have hread : Header.read bareU8Header = { Header.standard with dataType := 8 } := by
    decide +kernel
  have hsize : bareU8Header.size = 100 := by decide +kernel
  have hg : GridRead bareU8Header :=
    ⟨by rw [hsize]; decide, by rw [hread]; rfl, by rw [hread]; rfl⟩
  have hs : 0 ≤ (Header.read bareU8Header).headerSize.toInt := by rw [hread]; decide
  have ht : DataType.ofCode (Header.read bareU8Header).dataType.toInt = some .u8 := by
    rw [hread]
    rfl
  have hneeded : (Header.read bareU8Header).headerSize.toInt.toNat +
      gridSamples * DataType.u8.sampleSize = 100 + 67081 := by
    rw [hread]
    rfl
  have hdecode : decode 32767 bareU8Header = _ :=
    decode_of_size_lt_needed hg hs ht (by decide) (by rw [hneeded, hsize]; decide)
  rw [hneeded, hsize] at hdecode
  refine ⟨hdecode, ?_⟩
  rw [hdecode]
  intro heq
  -- the lengths the two errors name differ
  injection heq with heq
  injection heq with hlength
  exact absurd hlength (by decide)

end PlanetTiles.Elevation
