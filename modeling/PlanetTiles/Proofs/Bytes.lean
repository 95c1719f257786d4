import PlanetTiles.Bytes.LittleEndian

/-!
# Byte strings seen as lists

The formats here are read through `ByteArray.extract`, `ByteArray.toList` and `readLE`. The
proofs reason about the list of a byte string's bytes instead, `bs.data.toList`, where
slicing is `drop` and `take` and concatenation is `++`:

* `ByteArray.toList_eq_data_toList` — the two lists of a byte string agree.
* `ByteArray.toList_extract` — a slice is a `take` of a `drop`.
* `ByteArray.getElem?_extract` — a byte of a slice is a byte of the whole.
* `readLE_append_left` — a field inside a prefix written as a list reads from that list
  alone, whatever follows it; `readLE_append_of_le` is the same for a prefix that is a byte
  string.
* `readLE_one`, `readLE_two` — fields of one and two bytes that lie inside the string, read
  from the bytes there; `ofTwosComplement_two_bytes` reads a signed pair as a 16-bit vector.
-/

namespace ByteArray

theorem toList_loop_eq (bs : ByteArray) (i : Nat) (r : List UInt8) :
    toList.loop bs i r = r.reverse ++ bs.data.toList.drop i := by
  fun_induction toList.loop bs i r with
  | case1 i r hi ih =>
    have hi' : i < bs.data.toList.length := by simpa using hi
    have hd : bs.data.toList.drop i = bs.data.toList[i] :: bs.data.toList.drop (i + 1) :=
      List.drop_eq_getElem_cons hi'
    rw [ih, hd]
    simp [ByteArray.get!, getElem!_pos bs.data i (by simpa using hi)]
  | case2 i r hi =>
    have : bs.data.toList.drop i = [] := List.drop_eq_nil_of_le (by simp; omega)
    simp [this]

theorem toList_eq_data_toList (bs : ByteArray) : bs.toList = bs.data.toList := by
  unfold ByteArray.toList
  simpa using toList_loop_eq bs 0 []

theorem toList_extract (bs : ByteArray) (start stop : Nat) :
    (bs.extract start stop).toList = (bs.data.toList.drop start).take (stop - start) := by
  simp [toList_eq_data_toList]

@[simp] theorem getElem?_mk (bytes : Array UInt8) (i : Nat) :
    (ByteArray.mk bytes)[i]? = bytes[i]? := rfl

theorem getElem?_eq_data_toList (bs : ByteArray) (i : Nat) : bs[i]? = bs.data.toList[i]? := by
  rw [Array.getElem?_toList]
  rfl

/-- A byte of a slice is the byte at the same place after the slice's start. -/
theorem getElem?_extract (bs : ByteArray) {start stop i : Nat} (h : i < stop - start) :
    (bs.extract start stop)[i]? = bs[start + i]? := by
  simp only [getElem?_eq_data_toList, data_extract, Array.toList_extract,
    List.extract_eq_take_drop, List.getElem?_take, h, if_true, List.getElem?_drop]

theorem getD_getElem?_of_lt {bs : ByteArray} {i : Nat} (h : i < bs.size) :
    some ((bs[i]?).getD 0) = bs[i]? := by
  rw [getElem?_pos bs i h, Option.getD_some]

/-- A slice of a prefix is the same slice whatever follows the prefix. -/
theorem extract_append_of_le (bs rest : ByteArray) {start stop : Nat} (h : stop ≤ bs.size) :
    (bs ++ rest).extract start stop = bs.extract start stop := by
  apply ByteArray.ext
  -- nothing of the slice falls past the prefix
  have hrest : rest.data.extract (start - bs.data.size) (stop - bs.data.size) = #[] :=
    Array.extract_eq_empty_of_le (by simp; omega)
  rw [data_extract, data_append, data_extract, Array.extract_append, hrest, Array.append_empty]

theorem getElem?_append_of_lt (bs rest : ByteArray) {i : Nat} (h : i < bs.size) :
    (bs ++ rest)[i]? = bs[i]? := by
  rw [getElem?_pos (bs ++ rest) i (by simp; omega), getElem?_pos bs i h,
    getElem_append_left h]

theorem getElem?_append_of_le (bs rest : ByteArray) {i : Nat} (h : bs.size ≤ i) :
    (bs ++ rest)[i]? = rest[i - bs.size]? := by
  rw [getElem?_eq_data_toList, getElem?_eq_data_toList, toList_data_append,
    List.getElem?_append_right (by simpa using h)]
  simp

/-- An equation on every byte is an equation of byte arrays. -/
theorem eq_of_getElem?_eq {a b : ByteArray} (h : ∀ k : Nat, a[k]? = b[k]?) : a = b :=
  ByteArray.ext (Array.ext_getElem? fun k => by
    rw [← Array.getElem?_toList, ← Array.getElem?_toList, ← ByteArray.getElem?_eq_data_toList,
      ← ByteArray.getElem?_eq_data_toList]
    exact h k)

end ByteArray

namespace PlanetTiles.Bytes

theorem readLE_eq (bs : ByteArray) (offset width : Nat) :
    readLE bs offset width = decodeLE ((bs.data.toList.drop offset).take width) := by
  simp [readLE, ByteArray.toList_extract]

/-- A field that lies inside a prefix reads from the prefix alone. -/
theorem readLE_append_left (l : List UInt8) (rest : ByteArray) {offset width : Nat}
    (h : offset + width ≤ l.length) :
    readLE (l.toByteArray ++ rest) offset width = decodeLE ((l.drop offset).take width) := by
  rw [readLE_eq]
  congr 1
  simp only [ByteArray.toList_data_append, List.toList_data_toByteArray, List.drop_append]
  rw [List.take_append_of_le_length (by simp; omega)]

/-- A field inside a byte string reads the same whatever follows the string. -/
theorem readLE_append_of_le (bs rest : ByteArray) {offset width : Nat}
    (h : offset + width ≤ bs.size) :
    readLE (bs ++ rest) offset width = readLE bs offset width := by
  rw [readLE, readLE, ByteArray.extract_append_of_le bs rest h]

/-- A list read from a place where it has a byte starts with that byte. -/
theorem drop_eq_cons_of_getElem? {l : List UInt8} {i : Nat} {v : UInt8} (h : l[i]? = some v) :
    l.drop i = v :: l.drop (i + 1) := by
  obtain ⟨hi, hv⟩ := List.getElem?_eq_some_iff.mp h
  rw [List.drop_eq_getElem_cons hi, hv]

theorem readLE_one {bs : ByteArray} {i : Nat} {v : UInt8} (h : bs[i]? = some v) :
    readLE bs i 1 = v.toNat := by
  rw [ByteArray.getElem?_eq_data_toList] at h
  rw [readLE_eq, drop_eq_cons_of_getElem? h]
  simp

theorem readLE_two {bs : ByteArray} {i : Nat} {lo hi : UInt8} (hlo : bs[i]? = some lo)
    (hhi : bs[i + 1]? = some hi) : readLE bs i 2 = lo.toNat + 256 * hi.toNat := by
  rw [ByteArray.getElem?_eq_data_toList] at hlo hhi
  rw [readLE_eq, drop_eq_cons_of_getElem? hlo, drop_eq_cons_of_getElem? hhi]
  simp

/-- The signed reading of a little-endian pair is the two's complement value of the high byte
followed by the low byte. -/
theorem ofTwosComplement_two_bytes (lo hi : UInt8) :
    ofTwosComplement 16 (lo.toNat + 256 * hi.toNat) = (hi.toBitVec ++ lo.toBitVec).toInt := by
  have hlo := lo.toNat_lt
  have hhi := hi.toNat_lt
  have hnat : (hi.toBitVec ++ lo.toBitVec).toNat = lo.toNat + 256 * hi.toNat := by
    rw [BitVec.toNat_append, ← Nat.shiftLeft_add_eq_or_of_lt (by simpa using hlo),
      Nat.shiftLeft_eq]
    simp
    omega
  rw [BitVec.toInt_eq_toNat_cond, hnat, ofTwosComplement]
  simp
  split <;> split <;> omega

end PlanetTiles.Bytes
