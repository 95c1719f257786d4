/-!
# Little-endian numbers in byte strings

Every fixed-width field of the formats read here is a little-endian number: the first
byte is the least significant. A list of bytes decodes to a natural number, a natural
number encodes to a list of a given width, and a field of a byte string is read by
decoding the bytes at its offset. Signed fields are the two's complement reading of the
same bits.

Main statements:

* `decodeLE_encodeLE` — encoding to `w` bytes and decoding gives the number back modulo
  `256 ^ w`, so exactly when it fits.
* `encodeLE_decodeLE` — decoding a list and encoding to its length gives the list back.
* `decodeLE_lt` — a list of `w` bytes decodes below `256 ^ w`.
* `ofTwosComplement_toTwosComplement` — the signed reading inverts the signed writing on
  the values that fit.
-/

namespace PlanetTiles.Bytes

/-- The natural number a list of bytes encodes, least significant byte first. -/
def decodeLE : List UInt8 → Nat
  | [] => 0
  | b :: bs => b.toNat + 256 * decodeLE bs

/-- The `width` little-endian bytes of `n`; what does not fit is dropped. -/
def encodeLE : (width : Nat) → (n : Nat) → List UInt8
  | 0, _ => []
  | w + 1, n => UInt8.ofNat (n % 256) :: encodeLE w (n / 256)

@[simp] theorem decodeLE_nil : decodeLE [] = 0 := rfl

@[simp] theorem decodeLE_cons (b : UInt8) (bs : List UInt8) :
    decodeLE (b :: bs) = b.toNat + 256 * decodeLE bs := rfl

@[simp] theorem encodeLE_zero (n : Nat) : encodeLE 0 n = [] := rfl

@[simp] theorem encodeLE_succ (w n : Nat) :
    encodeLE (w + 1) n = UInt8.ofNat (n % 256) :: encodeLE w (n / 256) := rfl

@[simp] theorem length_encodeLE (w n : Nat) : (encodeLE w n).length = w := by
  induction w generalizing n with
  | zero => rfl
  | succ w ih => simp [ih]

theorem decodeLE_lt (bs : List UInt8) : decodeLE bs < Nat.pow 256 bs.length := by
  induction bs with
  | nil => exact Nat.one_pos
  | cons b bs ih =>
    show b.toNat + 256 * decodeLE bs < Nat.pow 256 bs.length * 256
    have hb : b.toNat < 256 := b.toNat_lt
    have : 256 * decodeLE bs + 256 ≤ Nat.pow 256 bs.length * 256 := by
      rw [Nat.mul_comm (Nat.pow 256 bs.length)]
      exact Nat.mul_le_mul_left 256 ih
    omega

theorem decodeLE_encodeLE (w n : Nat) : decodeLE (encodeLE w n) = n % Nat.pow 256 w := by
  induction w generalizing n with
  | zero => exact (Nat.mod_one n).symm
  | succ w ih =>
    have h : (UInt8.ofNat (n % 256)).toNat = n % 256 := by
      simp
    rw [encodeLE_succ, decodeLE_cons, ih, h]
    show n % 256 + 256 * (n / 256 % Nat.pow 256 w) = n % (Nat.pow 256 w * 256)
    rw [Nat.mul_comm (Nat.pow 256 w), Nat.mod_mul]

theorem decodeLE_encodeLE_of_lt {w n : Nat} (h : n < Nat.pow 256 w) :
    decodeLE (encodeLE w n) = n := by
  rw [decodeLE_encodeLE, Nat.mod_eq_of_lt h]

theorem encodeLE_decodeLE (bs : List UInt8) : encodeLE bs.length (decodeLE bs) = bs := by
  induction bs with
  | nil => rfl
  | cons b bs ih =>
    have hb : b.toNat < 256 := b.toNat_lt
    have hmod : (b.toNat + 256 * decodeLE bs) % 256 = b.toNat := by omega
    have hdiv : (b.toNat + 256 * decodeLE bs) / 256 = decodeLE bs := by omega
    simp only [List.length_cons, encodeLE_succ, decodeLE_cons, hmod, hdiv, ih,
      UInt8.ofNat_toNat]

/-- Reads the `width`-byte little-endian field at `offset`. Bytes past the end of the
string count as absent, so a field that runs off the end reads only the bytes present. -/
def readLE (bytes : ByteArray) (offset width : Nat) : Nat :=
  decodeLE (bytes.extract offset (offset + width)).toList

/-- The two's complement reading of a `bits`-bit pattern. -/
def ofTwosComplement (bits n : Nat) : Int :=
  if n < Nat.pow 2 (bits - 1) then n else (n : Int) - (Nat.pow 2 bits : Nat)

/-- The `bits`-bit two's complement pattern of an integer. -/
def toTwosComplement (bits : Nat) (v : Int) : Nat :=
  (v % (Nat.pow 2 bits : Nat)).toNat

theorem ofTwosComplement_toTwosComplement (bits : Nat) (v : Int) (hb : 0 < bits)
    (lo : -((Nat.pow 2 (bits - 1) : Nat) : Int) ≤ v) (hi : v < (Nat.pow 2 (bits - 1) : Nat)) :
    ofTwosComplement bits (toTwosComplement bits v) = v := by
  have hpow : Nat.pow 2 bits = 2 * Nat.pow 2 (bits - 1) := by
    obtain ⟨k, rfl⟩ : ∃ k, bits = k + 1 := ⟨bits - 1, by omega⟩
    show Nat.pow 2 k * 2 = 2 * Nat.pow 2 (k + 1 - 1)
    rw [Nat.add_sub_cancel, Nat.mul_comm]
  unfold ofTwosComplement toTwosComplement
  rw [hpow]
  generalize Nat.pow 2 (bits - 1) = p at lo hi ⊢
  push_cast
  by_cases hv : 0 ≤ v
  · have hm : v % (2 * (p : Int)) = v := Int.emod_eq_of_lt hv (by omega)
    rw [hm]
    have hlt : v.toNat < p := by omega
    rw [if_pos hlt, Int.toNat_of_nonneg hv]
  · have hm : v % (2 * (p : Int)) = v + 2 * p := by
      rw [Int.emod_eq_add_self_emod]
      exact Int.emod_eq_of_lt (by omega) (by omega)
    rw [hm]
    have hge : ¬ (v + 2 * (p : Int)).toNat < p := by omega
    rw [if_neg hge]
    omega

end PlanetTiles.Bytes
