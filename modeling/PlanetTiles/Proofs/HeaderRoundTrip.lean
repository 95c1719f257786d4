import Mathlib
import PlanetTiles.Elevation.Header
import PlanetTiles.Proofs.Bytes

/-!
# Packed elevation headers read back

An elevation header packs into 100 bytes: the four id bytes, then six signed 32-bit words at
`4 + 4 i`, then nine binary64 words at `28 + 8 i`, all little-endian. Reading takes each field
back from the place packing put it, so the two are inverse, for every header and every
100 bytes: integers come back equal and reals come back as the same word, NaN payloads and
negative zero included.

* `map_range_eq` — a list is read back place by place.
* `take_drop_flatMap` — in a run of fields of one width `w`, field `i` is the `w` elements at
  `w * i`; `flatMap_range_take_drop` — and the fields at `o + w * i`, for `i < n`, one after
  another, are the `w * n` elements at `o`.
* `readLE_packed` — a field read from a packed run is the value packed there.
* `Header.read_toBytes` — reading a packed header gives it back.
* `Header.toBytes_read` — packing what is read from 100 or more bytes gives those 100 bytes.
* `Header.parse_toBytes_inverse` — **parsing and packing are inverse**.
-/

namespace PlanetTiles

open Bytes

/-! ## Runs of fields of one width -/

theorem length_flatMap_of_length_eq {α β : Type} {f : α → List β} {w : Nat}
    (hw : ∀ v, (f v).length = w) (vs : List α) : (vs.flatMap f).length = w * vs.length := by
  simp [List.length_flatMap, hw, Nat.mul_comm]

/-- Field `i` of a run of fields that are each `w` long is the `w` elements at `w * i`. -/
theorem take_drop_flatMap {α β : Type} {f : α → List β} {w : Nat}
    (hw : ∀ v, (f v).length = w) {vs : List α} {i : Nat} {v : α} (hv : vs[i]? = some v) :
    ((vs.flatMap f).drop (w * i)).take w = f v := by
  induction vs generalizing i with
  | nil => simp at hv
  | cons u vs ih =>
    cases i with
    | zero =>
      obtain rfl : u = v := by simpa using hv
      rw [List.flatMap_cons, Nat.mul_zero, List.drop_zero,
        List.take_append_of_le_length (hw u).ge, List.take_of_length_le (hw u).le]
    | succ i =>
      -- past the first field, the rest of the run starts `w` later
      rw [List.flatMap_cons, Nat.mul_succ, Nat.add_comm, ← List.drop_drop,
        List.drop_left' (hw u)]
      exact ih (by simpa using hv)

/-- A list is what a function gives at each of its places, if the function gives each element
at its place. -/
theorem map_range_eq {α : Type} {l : List α} {g : Nat → α}
    (hg : ∀ k v, l[k]? = some v → g k = v) : (List.range l.length).map g = l := by
  apply List.ext_getElem?
  intro k
  rw [List.getElem?_map]
  by_cases hk : k < l.length
  · rw [List.getElem?_range hk, Option.map_some, List.getElem?_eq_getElem hk,
      hg k _ (List.getElem?_eq_getElem hk)]
  · rw [List.getElem?_eq_none (by simp; omega), List.getElem?_eq_none (by omega), Option.map_none]

/-- The fields at `o + w * i`, for `i` below `n`, one after another are the `w * n` elements
at `o`. -/
theorem flatMap_range_take_drop {β : Type} (l : List β) (o w n : Nat) :
    (List.range n).flatMap (fun i => (l.drop (o + w * i)).take w) = (l.drop o).take (w * n) := by
  induction n with
  | zero => simp
  | succ n ih =>
    rw [List.range_succ, List.flatMap_append, ih, Nat.mul_succ, List.take_add, List.drop_drop]
    simp

namespace Bytes

/-- A field read from a run of packed values, after a prefix and before anything, is the value
packed there, cut to the field's width. -/
theorem readLE_packed {α : Type} (pre post : List UInt8) (w : Nat) (g : α → Nat) {vs : List α}
    {i : Nat} {v : α} (hv : vs[i]? = some v) :
    readLE (pre ++ vs.flatMap (fun u => encodeLE w (g u)) ++ post).toByteArray
      (pre.length + w * i) w = g v % Nat.pow 256 w := by
  have hlen := length_flatMap_of_length_eq (fun u => length_encodeLE w (g u)) vs
  have hi : i < vs.length := (List.getElem?_eq_some_iff.mp hv).1
  have hle : w * i + w ≤ w * vs.length := by
    rw [← Nat.mul_succ]
    exact Nat.mul_le_mul_left w hi
  rw [readLE_eq, List.toList_data_toByteArray, List.append_assoc, List.drop_append,
    List.drop_of_length_le (by omega), List.nil_append, Nat.add_sub_cancel_left,
    List.drop_append_of_le_length (by omega),
    List.take_append_of_le_length (by rw [List.length_drop, hlen]; omega),
    take_drop_flatMap (fun u => length_encodeLE w (g u)) hv, decodeLE_encodeLE]

/-- Packing a field read from inside a byte string gives its bytes back. -/
theorem encodeLE_readLE {bytes : ByteArray} {offset w : Nat} (h : offset + w ≤ bytes.size) :
    encodeLE w (readLE bytes offset w) = (bytes.data.toList.drop offset).take w := by
  have hlen : ((bytes.data.toList.drop offset).take w).length = w := by
    simp
    omega
  have hinv := encodeLE_decodeLE ((bytes.data.toList.drop offset).take w)
  rwa [hlen, ← readLE_eq] at hinv

/-- A field read from inside a byte string fits its width. -/
theorem readLE_lt_of_le {bytes : ByteArray} {offset w : Nat} (h : offset + w ≤ bytes.size) :
    readLE bytes offset w < Nat.pow 256 w := by
  have hlen : ((bytes.data.toList.drop offset).take w).length = w := by
    simp
    omega
  rw [readLE_eq]
  have := decodeLE_lt ((bytes.data.toList.drop offset).take w)
  rwa [hlen] at this

end Bytes

namespace Elevation.Header

/-! ## The fields of a header -/

/-- A header is its id, its integers and its reals. -/
theorem eq_of_fields {h h' : Header} (hid : h.id = h'.id) (hint : h.integers = h'.integers)
    (hreal : h.reals = h'.reals) : h = h' := by
  obtain ⟨id, hs, dt, gw, gh, px, py, sc, of, la, lA, lo, lO, em, eM, ea⟩ := h
  obtain ⟨id', hs', dt', gw', gh', px', py', sc', of', la', lA', lo', lO', em', eM', ea'⟩ := h'
  simp only [integers, reals, List.cons.injEq] at hid hint hreal
  obtain ⟨rfl, rfl, rfl, rfl, rfl, rfl, -⟩ := hint
  obtain ⟨rfl, rfl, rfl, rfl, rfl, rfl, rfl, rfl, rfl, -⟩ := hreal
  subst hid
  rfl

/-- The integers are read at `4 + 4 k`. -/
theorem integers_read (bytes : ByteArray) :
    (read bytes).integers = (List.range 6).map fun k => int32At bytes (4 + 4 * k) := rfl

/-- The reals are read at `28 + 8 k`. -/
theorem reals_read (bytes : ByteArray) :
    (read bytes).reals = (List.range 9).map fun k => binary64At bytes (28 + 8 * k) := rfl

theorem length_integers (h : Header) : h.integers.length = 6 := rfl

theorem length_reals (h : Header) : h.reals.length = 9 := rfl

/-- The packed header as one list of bytes. -/
theorem toList_toBytes (h : Header) :
    h.toBytes.data.toList =
      h.id.toList ++ h.integers.flatMap (fun v => encodeLE 4 v.toUInt32.toNat) ++
        h.reals.flatMap (fun v => encodeLE 8 v.bits.toNat) :=
  List.toList_data_toByteArray

/-! ## Reading a packed header -/

theorem int32At_toBytes (h : Header) (k : Nat) {v : Int32} (hv : h.integers[k]? = some v) :
    int32At h.toBytes (4 + 4 * k) = v := by
  have hread := readLE_packed h.id.toList (h.reals.flatMap fun v => encodeLE 8 v.bits.toNat) 4
    (fun u : Int32 => u.toUInt32.toNat) hv
  rw [Vector.length_toList, Nat.mod_eq_of_lt (by simpa using v.toUInt32.toNat_lt)] at hread
  rw [int32At, toBytes, hread, word32, UInt32.ofNat_toNat, Int32.toInt32_toUInt32]

theorem binary64At_toBytes (h : Header) (k : Nat) {v : Binary64} (hv : h.reals[k]? = some v) :
    binary64At h.toBytes (28 + 8 * k) = v := by
  have hread := readLE_packed
    (h.id.toList ++ h.integers.flatMap fun v => encodeLE 4 v.toUInt32.toNat) [] 8
    (fun u : Binary64 => u.bits.toNat) hv
  rw [List.append_nil, List.length_append, Vector.length_toList,
    length_flatMap_of_length_eq (fun u => length_encodeLE 4 _), length_integers,
    Nat.mod_eq_of_lt (by simpa using v.bits.toNat_lt)] at hread
  rw [binary64At, toBytes, hread, UInt64.ofNat_toNat]

theorem id_read_toBytes (h : Header) : (read h.toBytes).id = h.id := by
  ext i hi
  have hbyte : h.toBytes[i]? = some h.id[i] := by
    rw [ByteArray.getElem?_eq_data_toList, toList_toBytes, List.append_assoc,
      List.getElem?_append_left (by simpa using hi), Vector.getElem?_toList,
      Vector.getElem?_eq_getElem hi]
  simp [read, hbyte]

theorem integers_read_toBytes (h : Header) : (read h.toBytes).integers = h.integers := by
  rw [integers_read]
  exact map_range_eq fun k _ hv => int32At_toBytes h k hv

theorem reals_read_toBytes (h : Header) : (read h.toBytes).reals = h.reals := by
  rw [reals_read]
  exact map_range_eq fun k _ hv => binary64At_toBytes h k hv

/-- Reading a packed header gives it back. -/
theorem read_toBytes (h : Header) : read h.toBytes = h :=
  eq_of_fields (id_read_toBytes h) (integers_read_toBytes h) (reals_read_toBytes h)

theorem size_toBytes (h : Header) : h.toBytes.size = headerLength := by
  rw [← ByteArray.size_data, ← Array.length_toList, toList_toBytes]
  simp [length_integers, length_reals, headerLength]

/-! ## Packing what was read -/

section Packing

variable {bytes : ByteArray} (hsize : headerLength ≤ bytes.size)
include hsize

theorem encodeLE_int32At {k : Nat} (hk : k < 6) :
    encodeLE 4 (int32At bytes (4 + 4 * k)).toUInt32.toNat =
      (bytes.data.toList.drop (4 + 4 * k)).take 4 := by
  have hfield : 4 + 4 * k + 4 ≤ bytes.size := by
    simp only [headerLength] at hsize
    omega
  rw [int32At, word32, UInt32.toUInt32_toInt32, UInt32.toNat_ofNat',
    Nat.mod_eq_of_lt (readLE_lt_of_le hfield), encodeLE_readLE hfield]

theorem encodeLE_binary64At {k : Nat} (hk : k < 9) :
    encodeLE 8 (binary64At bytes (28 + 8 * k)).bits.toNat = (bytes.data.toList.drop (28 + 8 * k)).take 8 := by
  have hfield : 28 + 8 * k + 8 ≤ bytes.size := by
    simp only [headerLength] at hsize
    omega
  rw [binary64At, UInt64.toNat_ofNat', Nat.mod_eq_of_lt (readLE_lt_of_le hfield),
    encodeLE_readLE hfield]

theorem id_read_toList : (read bytes).id.toList = bytes.data.toList.take 4 := by
  apply List.ext_getElem?
  intro i
  by_cases hi : i < 4
  · have hin : i < bytes.data.toList.length := by
      simp only [headerLength] at hsize
      simp
      omega
    have hbyte : some ((bytes[i]?).getD 0) = some bytes.data.toList[i] := by
      rw [ByteArray.getD_getElem?_of_lt (by simpa using hin), ByteArray.getElem?_eq_data_toList,
        List.getElem?_eq_getElem hin]
    rw [Vector.getElem?_toList, Vector.getElem?_eq_getElem hi, List.getElem?_take_of_lt hi,
      List.getElem?_eq_getElem hin, ← hbyte]
    simp [read]
  · rw [List.getElem?_eq_none (by simp; omega), List.getElem?_eq_none (by simp; omega)]

/-- Packing what is read from 100 or more bytes gives those first 100 bytes. -/
theorem toBytes_read : (read bytes).toBytes = bytes.extract 0 headerLength := by
  apply ByteArray.ext
  apply Array.toList_inj.mp
  have hints : (read bytes).integers.flatMap (fun v => encodeLE 4 v.toUInt32.toNat) =
      (bytes.data.toList.drop 4).take (4 * 6) := by
    rw [integers_read, List.flatMap_map, ← flatMap_range_take_drop]
    exact List.flatMap_congr fun k hk => encodeLE_int32At hsize (List.mem_range.mp hk)
  have hreals : (read bytes).reals.flatMap (fun v => encodeLE 8 v.bits.toNat) =
      (bytes.data.toList.drop 28).take (8 * 9) := by
    rw [reals_read, List.flatMap_map, ← flatMap_range_take_drop]
    exact List.flatMap_congr fun k hk => encodeLE_binary64At hsize (List.mem_range.mp hk)
  -- the three runs are the bytes at 0, 4 and 28, which together are the first 100
  have hsplit : bytes.data.toList.take headerLength =
      bytes.data.toList.take 4 ++ (bytes.data.toList.drop 4).take (4 * 6) ++
        (bytes.data.toList.drop 28).take (8 * 9) := by
    rw [← List.take_add, show (28 : Nat) = 4 + 4 * 6 from rfl, ← List.take_add]
    rfl
  rw [toList_toBytes, id_read_toList hsize, hints, hreals, ByteArray.data_extract,
    Array.toList_extract, List.extract_eq_take_drop, List.drop_zero, Nat.sub_zero, hsplit]

end Packing

/-- **Parsing and packing are inverse.** Parsing a packed header gives it back, with every
integer equal and every real the same word; and parsing 100 or more bytes succeeds with a
header that packs to exactly those first 100 bytes. -/
theorem parse_toBytes_inverse :
    (∀ h : Header, parse h.toBytes = .ok h) ∧
      ∀ bytes : ByteArray, headerLength ≤ bytes.size →
        ∃ h, parse bytes = .ok h ∧ h.toBytes = bytes.extract 0 headerLength := by
  refine ⟨fun h => ?_,
    fun bytes hsize => ⟨read bytes, parse_of_size hsize, toBytes_read hsize⟩⟩
  rw [parse_of_size (size_toBytes h).ge, read_toBytes]

end Elevation.Header

end PlanetTiles
