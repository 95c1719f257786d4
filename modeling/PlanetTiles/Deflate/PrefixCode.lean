/-!
# Canonical prefix codes

Deflate describes each of its prefix codes by the code length of every symbol, and the
codes themselves follow from the lengths: shorter codes come first, and codes of one
length are handed out in symbol order. A code is kept here as the number of codes of each
length together with its symbols in that canonical order, which is all a decoder that
reads one bit at a time needs.

Whether a list of lengths describes a usable code is a question of its Kraft sum: the sum
of `2^(16 - length)` over the symbols in use is `2^16` exactly when every long enough bit
string starts with a code word. Below that the code is incomplete, above it some words
are prefixes of others.

Main statements:

* `PrefixCode.used_ofLengths` — the symbols of a code are the symbols with a nonzero
  length.
-/

namespace PlanetTiles.Deflate

/-- The longest code word deflate allows. -/
def maxCodeLength : Nat := 15

/-- A canonical prefix code: how many words each length has, and the symbols in the order
of their words. -/
structure PrefixCode where
  /-- entry `l` counts the words of length `l`; entry 0 is unused -/
  counts : Array Nat
  /-- the symbols in use, ordered by length and then by symbol -/
  symbols : Array Nat

namespace PrefixCode

/-- The symbols of length `len`, in increasing order. -/
def symbolsOfLength (lengths : List Nat) (len : Nat) : List Nat :=
  (lengths.zipIdx.filter fun p => p.1 == len).map (·.2)

/-- The canonical code of a list of code lengths, where 0 marks a symbol not in use. -/
def ofLengths (lengths : List Nat) : PrefixCode where
  counts := ((List.range (maxCodeLength + 1)).map fun len =>
    if len = 0 then 0 else (lengths.filter (· == len)).length).toArray
  symbols := ((List.range maxCodeLength).flatMap fun i => symbolsOfLength lengths (i + 1)).toArray

/-- The Kraft sum, scaled so that a complete code sums to `2^16`. -/
def kraft (c : PrefixCode) : Nat :=
  (List.range maxCodeLength).foldl
    (fun acc i => acc + c.counts.getD (i + 1) 0 * Nat.pow 2 (maxCodeLength - i)) 0

/-- Every long enough bit string starts with a word of the code: the Kraft sum is exactly
`2^16 = 65536`. -/
def isComplete (c : PrefixCode) : Bool :=
  c.kraft == 65536

/-- The rule for literal, length and distance codes: complete, or with no symbol in use,
or with a single symbol whose word is one bit long: the format allows a single distance
code, and a lone word of more than one bit is refused. -/
def isUsable (c : PrefixCode) : Bool :=
  c.isComplete || c.symbols.size == 0 || (c.symbols.size == 1 && c.counts.getD 1 0 == 1)

theorem used_ofLengths (lengths : List Nat) (s : Nat) :
    s ∈ (ofLengths lengths).symbols.toList ↔
      ∃ len, 0 < len ∧ len ≤ maxCodeLength ∧ lengths[s]? = some len := by
  simp only [ofLengths, List.toList_toArray, List.mem_flatMap, List.mem_range,
    symbolsOfLength, List.mem_map, List.mem_filter, List.mem_zipIdx_iff_getElem?,
    beq_iff_eq, maxCodeLength]
  constructor
  · rintro ⟨i, hi, ⟨⟨l, k⟩, ⟨hk, hl⟩, rfl⟩⟩
    simp only at hk hl
    subst hl
    exact ⟨i + 1, by omega, by omega, hk⟩
  · rintro ⟨len, h0, h15, hs⟩
    exact ⟨len - 1, by omega, ⟨(len, s), ⟨hs, by simp only; omega⟩, rfl⟩⟩

end PrefixCode

end PlanetTiles.Deflate
