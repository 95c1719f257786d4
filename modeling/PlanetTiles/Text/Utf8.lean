/-!
# Reading bytes as UTF-8, replacing what is not

Bytes that may not be UTF-8 are shown as text by decoding every well-formed sequence and
putting one replacement character `U+FFFD` in place of each maximal ill-formed part: a byte
that cannot start a sequence, or a start byte with the continuation bytes that still fit
it, up to the first byte that does not. This is the substitution the Unicode standard
recommends, so the text of a byte string does not depend on where a reader resynchronises.

Which continuation bytes fit is the table of well-formed sequences of the standard (its
Table 3-7): it already excludes overlong forms, surrogates and values beyond `U+10FFFF`.

Main statements:

* `decodeLossy_ascii` — ASCII bytes decode to themselves.
* `length_decodeLossy_le` — the text has at most one character per byte.
-/

namespace PlanetTiles.Text

/-- The replacement character. -/
def replacement : Char := '�'

/-- For a byte that starts a multi-byte sequence, the ranges its continuation bytes must lie
in, one range per byte; none for a byte that cannot start one. -/
def continuationRanges (lead : UInt8) : Option (List (UInt8 × UInt8)) :=
  if 0xC2 ≤ lead ∧ lead ≤ 0xDF then some [(0x80, 0xBF)]
  else if lead = 0xE0 then some [(0xA0, 0xBF), (0x80, 0xBF)]
  else if lead = 0xED then some [(0x80, 0x9F), (0x80, 0xBF)]
  else if 0xE1 ≤ lead ∧ lead ≤ 0xEF then some [(0x80, 0xBF), (0x80, 0xBF)]
  else if lead = 0xF0 then some [(0x90, 0xBF), (0x80, 0xBF), (0x80, 0xBF)]
  else if lead = 0xF4 then some [(0x80, 0x8F), (0x80, 0xBF), (0x80, 0xBF)]
  else if 0xF1 ≤ lead ∧ lead ≤ 0xF3 then some [(0x80, 0xBF), (0x80, 0xBF), (0x80, 0xBF)]
  else none

/-- How many of the bytes, from the first, lie in their ranges. -/
def fitting : List (UInt8 × UInt8) → List UInt8 → Nat
  | (lo, hi) :: ranges, b :: bytes => if lo ≤ b ∧ b ≤ hi then fitting ranges bytes + 1 else 0
  | _, _ => 0

theorem fitting_le_length (ranges : List (UInt8 × UInt8)) (bytes : List UInt8) :
    fitting ranges bytes ≤ bytes.length := by
  induction bytes generalizing ranges with
  | nil => cases ranges <;> simp [fitting]
  | cons b bytes ih =>
    cases ranges with
    | nil => simp [fitting]
    | cons r ranges =>
      simp only [fitting, List.length_cons]
      split
      · have := ih ranges
        omega
      · omega

/-- The scalar value of a well-formed sequence: the lead byte's payload bits followed by six
bits from each continuation byte. -/
def scalarOf (lead : UInt8) (continuation : List UInt8) : Nat :=
  let leadBits := match continuation.length with
    | 1 => lead.toNat % 32
    | 2 => lead.toNat % 16
    | _ => lead.toNat % 8
  continuation.foldl (fun acc b => acc * 64 + b.toNat % 64) leadBits

/-- Decodes bytes as UTF-8, with one replacement character per maximal ill-formed part. -/
def decodeLossy : List UInt8 → List Char
  | [] => []
  | b :: rest =>
    if b < 0x80 then Char.ofNat b.toNat :: decodeLossy rest
    else
      match continuationRanges b with
      | none => replacement :: decodeLossy rest
      | some ranges =>
        let n := fitting ranges rest
        let c := if n = ranges.length then Char.ofNat (scalarOf b (rest.take n)) else replacement
        c :: decodeLossy (rest.drop n)
termination_by bytes => bytes.length
decreasing_by
  all_goals simp only [List.length_cons, List.length_drop]
  all_goals omega

/-- The bytes as text, with ill-formed parts replaced. -/
def lossyString (bytes : List UInt8) : String :=
  String.ofList (decodeLossy bytes)

theorem decodeLossy_ascii (bytes : List UInt8) (h : ∀ b ∈ bytes, b < 0x80) :
    decodeLossy bytes = bytes.map fun b => Char.ofNat b.toNat := by
  induction bytes with
  | nil => simp [decodeLossy]
  | cons b rest ih =>
    have hb : b < 0x80 := h b (List.mem_cons_self ..)
    rw [decodeLossy, if_pos hb, ih fun x hx => h x (List.mem_cons_of_mem _ hx), List.map_cons]

theorem length_decodeLossy_le (bytes : List UInt8) : (decodeLossy bytes).length ≤ bytes.length := by
  induction bytes using decodeLossy.induct with
  | case1 => simp [decodeLossy]
  | case2 b rest hb ih =>
    rw [decodeLossy, if_pos hb]
    simp only [List.length_cons]
    omega
  | case3 b rest hb hr ih =>
    rw [decodeLossy, if_neg hb, hr]
    simp only [List.length_cons]
    omega
  | case4 b rest hb ranges hr n ih =>
    rw [decodeLossy, if_neg hb, hr]
    dsimp only [n] at ih
    simp only [List.length_cons, List.length_drop] at ih ⊢
    omega

end PlanetTiles.Text
