import PlanetTiles.Archive.Tree

/-!
# Where the block of a node ends

An opened file finds the end of every node's compressed block at once (`blockEnds`): it sorts
the starts of all nodes, drops repeats, and for each node searches the sorted starts for the
first one beyond its own. A read takes the end of one node as the least start beyond its own,
or the end of the data section (`blockEnd`). This module shows that the two are the same end,
node by node, so that blocks of nodes that start apart never overlap.

The argument has three steps. Sorting and dropping repeats leaves the starts strictly
increasing and keeps every one of them. The binary search finds the point where a predicate
that holds on a prefix turns false (`partitionPoint_spec`, by an invariant on the search
window). On strictly increasing starts the point for `· ≤ pos` holds the least start beyond
`pos`, or lies past the end when there is none (`nextStart_search`).

* `partitionPoint_spec` — the binary search returns the partition point.
* `blockEnds_eq_map_blockEnd` — the ends found at once are the ends found one read at a time.
* `blockEnds_nextStartTable` — **every block ends at the next start**: one end per node, the
  least start of any node beyond its own or the end of the data section; nodes that start
  together end together, and nodes that start apart have disjoint blocks.
-/

namespace PlanetTiles.Archive

/-! ## Sorted starts without repeats -/

/-- The loop that drops repeats only prepends what it has already kept. -/
theorem eraseRepsBy_loop {α : Type} (r : α → α → Bool) (a : α) (xs acc : List α) :
    List.eraseRepsBy.loop r a xs acc = acc.reverse ++ List.eraseRepsBy.loop r a xs [] := by
  induction xs generalizing a acc with
  | nil => simp [List.eraseRepsBy.loop]
  | cons b xs ih =>
    simp only [List.eraseRepsBy.loop]
    split
    · exact ih a acc
    · rw [ih b (a :: acc), ih b [a]]
      simp

/-- Dropping repeats compares the first element with the next: a repeat is dropped, anything
else starts a new run. -/
theorem eraseReps_cons_cons {α : Type} [BEq α] (a b : α) (xs : List α) :
    (a :: b :: xs).eraseReps =
      if a == b then (a :: xs).eraseReps else a :: (b :: xs).eraseReps := by
  simp only [List.eraseReps, List.eraseRepsBy, List.eraseRepsBy.loop]
  split
  · rename_i hab
    simp [hab]
  · rename_i hab
    rw [eraseRepsBy_loop]
    simp [hab]

theorem eraseReps_singleton {α : Type} [BEq α] (a : α) : [a].eraseReps = [a] := rfl

theorem mem_eraseReps_cons {α : Type} [BEq α] [LawfulBEq α] {x a : α} {xs : List α} :
    x ∈ (a :: xs).eraseReps ↔ x = a ∨ x ∈ xs := by
  induction xs generalizing a with
  | nil => simp [eraseReps_singleton]
  | cons b xs ih =>
    rw [eraseReps_cons_cons]
    split
    · rename_i hab
      rw [ih, beq_iff_eq.mp hab]
      simp
    · simp [ih]

/-- Dropping repeats keeps every value. -/
@[simp] theorem mem_eraseReps {α : Type} [BEq α] [LawfulBEq α] {x : α} {xs : List α} :
    x ∈ xs.eraseReps ↔ x ∈ xs := by
  cases xs with
  | nil => rfl
  | cons a xs => rw [mem_eraseReps_cons, List.mem_cons]

theorem pairwise_lt_eraseReps_cons {a : Nat} {xs : List Nat} (h : (a :: xs).Pairwise (· ≤ ·)) :
    (a :: xs).eraseReps.Pairwise (· < ·) := by
  induction xs generalizing a with
  | nil => simp [eraseReps_singleton]
  | cons b xs ih =>
    rw [eraseReps_cons_cons]
    split
    · rename_i hab
      rw [beq_iff_eq.mp hab] at h ⊢
      exact ih h.tail
    · -- `a` starts a run below `b`, and everything kept after it is at least `b`
      rename_i hab
      have hlt : a < b := by
        have := List.rel_of_pairwise_cons h List.mem_cons_self
        have : a ≠ b := by simpa using hab
        omega
      refine List.pairwise_cons.mpr ⟨fun c hc => ?_, ih h.tail⟩
      rcases mem_eraseReps_cons.mp hc with rfl | hc
      · exact hlt
      · exact Nat.lt_of_lt_of_le hlt (List.rel_of_pairwise_cons h.tail hc)

/-- Dropping repeats from a sorted list leaves it strictly increasing. -/
theorem pairwise_lt_eraseReps {xs : List Nat} (h : xs.Pairwise (· ≤ ·)) :
    xs.eraseReps.Pairwise (· < ·) := by
  cases xs with
  | nil => exact List.Pairwise.nil
  | cons a xs => exact pairwise_lt_eraseReps_cons h

theorem pairwise_le_mergeSort (xs : List Nat) : xs.mergeSort.Pairwise (· ≤ ·) := by
  have h : (xs.mergeSort fun a b => decide (a ≤ b)).Pairwise fun a b => decide (a ≤ b) = true :=
    List.pairwise_mergeSort (fun a b c hab hbc => by simp only [decide_eq_true_eq] at *; omega)
      (fun a b => by simp only [Bool.or_eq_true, decide_eq_true_eq]; omega) xs
  simpa using h

/-- Strictly increasing starts are in order at every pair of indices. -/
theorem getElem_le_of_le {starts : Array Nat} (hsorted : starts.toList.Pairwise (· < ·))
    {i j : Nat} (hij : i ≤ j) (hj : j < starts.size) : starts[i] ≤ starts[j] := by
  rcases Nat.eq_or_lt_of_le hij with rfl | hlt
  · exact Nat.le_refl _
  · have := List.pairwise_iff_getElem.mp hsorted i j (by simpa using Nat.lt_trans hlt hj)
      (by simpa using hj) hlt
    simp only [Array.getElem_toList] at this
    omega

/-! ## The binary search -/

section PartitionPoint

variable {α : Type} (p : α → Bool) (xs : Array α)

/-- The elements of `xs` that satisfy `p` all come first. -/
def Partitioned : Prop :=
  ∀ i j (hij : i ≤ j) (hj : j < xs.size), p xs[j] = true → p xs[i] = true

/-- `r` is where `p` turns false: the elements before it satisfy `p` and the others do not. -/
def IsPartitionPoint (r : Nat) : Prop :=
  r ≤ xs.size ∧ ∀ i (hi : i < xs.size), p xs[i] = true ↔ i < r

/-- The search window of `size` elements from `base` still holds the point where `p` turns
false: every element before the window satisfies `p`, and none after it does. -/
def WindowHolds (base size : Nat) : Prop :=
  (∀ i (hi : i < xs.size), i < base → p xs[i] = true) ∧
    ∀ i (hi : i < xs.size), base + size ≤ i → p xs[i] = false

variable {p xs}

/-- One halving keeps the point in the window: where `p` holds at the middle, everything
before the middle satisfies `p`; where it fails, nothing after the middle does, and the upper
part the window keeps is at least as long as the half it drops. -/
theorem WindowHolds.halve (hp : Partitioned p xs) {base size : Nat}
    (hw : WindowHolds p xs base size) (hmid : base + size / 2 < xs.size) :
    WindowHolds p xs (if p xs[base + size / 2] then base + size / 2 else base)
      (size - size / 2) := by
  obtain ⟨hbelow, habove⟩ := hw
  split
  · rename_i hmid
    exact ⟨fun i hi hlt => hp i _ (by omega) _ hmid, fun i hi hle => habove i hi (by omega)⟩
  · rename_i hmid
    refine ⟨hbelow, fun i hi hle => ?_⟩
    cases hpi : p xs[i] with
    | false => rfl
    | true => exact absurd (hp _ i (by omega) hi hpi) hmid

/-- A window of one element decides: the point is just after it when `p` holds there, and at
it otherwise. -/
theorem WindowHolds.isPartitionPoint_one {base : Nat} (hw : WindowHolds p xs base 1)
    (hbase : base < xs.size) :
    IsPartitionPoint p xs (if p xs[base] then base + 1 else base) := by
  obtain ⟨hbelow, habove⟩ := hw
  refine ⟨by split <;> omega, fun i hi => ?_⟩
  rcases Nat.lt_trichotomy i base with hlt | rfl | hgt
  · have := hbelow i hi hlt
    split <;> simp only [this, true_iff] <;> omega
  · split <;> simp_all
  · have := habove i hi (by omega)
    split <;> simp only [this, Bool.false_eq_true, false_iff] <;> omega

/-- The search from a window that holds the point ends at the point. -/
theorem partitionPointFrom_spec (hp : Partitioned p xs) {base size : Nat} (hsize : 0 < size)
    (hend : base + size ≤ xs.size) (hw : WindowHolds p xs base size) :
    IsPartitionPoint p xs (partitionPointFrom p xs base size hsize hend) := by
  fun_induction partitionPointFrom p xs base size hsize hend with
  | case1 base _ hend hbase =>
    simpa [hbase] using hw.isPartitionPoint_one (by omega)
  | case2 base _ hend hbase =>
    simpa [hbase] using hw.isPartitionPoint_one (by omega)
  | case3 base size hsize hend _ mid ih =>
    simp only [dite_eq_ite] at ih
    exact ih (hw.halve hp (by omega))

/-- **The binary search finds the partition point** of every array whose elements satisfying
`p` come first. -/
theorem partitionPoint_spec (hp : Partitioned p xs) :
    IsPartitionPoint p xs (partitionPoint p xs) := by
  unfold partitionPoint
  split
  · exact ⟨by omega, fun i hi => by omega⟩
  · -- the whole array is the first window, with nothing before or after it
    exact partitionPointFrom_spec hp _ _ ⟨fun i _ h => by omega, fun i hi h => by omega⟩

end PartitionPoint

/-! ## The next start -/

/-- `stop` ends the block that starts at `pos`: it is the least start beyond `pos`, or the end
of the data section when no start lies beyond. -/
def NextStart (starts : List Nat) (dataLength pos stop : Nat) : Prop :=
  (stop ∈ starts ∧ pos < stop ∧ ∀ q ∈ starts, pos < q → stop ≤ q) ∨
    ((∀ q ∈ starts, q ≤ pos) ∧ stop = dataLength)

namespace NextStart

variable {starts starts' : List Nat} {dataLength pos stop stop' : Nat}

theorem unique (h : NextStart starts dataLength pos stop)
    (h' : NextStart starts dataLength pos stop') : stop = stop' := by
  rcases h with ⟨hmem, hlt, hmin⟩ | ⟨hall, rfl⟩ <;>
    rcases h' with ⟨hmem', hlt', hmin'⟩ | ⟨hall', rfl⟩
  · exact Nat.le_antisymm (hmin stop' hmem' hlt') (hmin' stop hmem hlt)
  · exact absurd (hall' stop hmem) (by omega)
  · exact absurd (hall stop' hmem') (by omega)
  · rfl

/-- The next start depends on the starts only as a set. -/
theorem of_mem_iff (hmem : ∀ q, q ∈ starts ↔ q ∈ starts')
    (h : NextStart starts dataLength pos stop) : NextStart starts' dataLength pos stop := by
  simpa only [NextStart, ← hmem] using h

/-- Every later start is at or after the end. -/
theorem le_of_lt (h : NextStart starts dataLength pos stop) {q : Nat} (hq : q ∈ starts)
    (hlt : pos < q) : stop ≤ q := by
  rcases h with ⟨-, -, hmin⟩ | ⟨hall, -⟩
  · exact hmin q hq hlt
  · exact absurd (hall q hq) (by omega)

/-- Blocks from two different starts do not overlap: the earlier one ends at or before the
later start. -/
theorem disjoint {p q stop stop' x : Nat} (hp : p ∈ starts) (hq : q ∈ starts) (hpq : p ≠ q)
    (h : NextStart starts dataLength p stop) (h' : NextStart starts dataLength q stop')
    (hpx : p ≤ x) (hx : x < stop) (hqx : q ≤ x) (hx' : x < stop') : False := by
  rcases Nat.lt_or_gt_of_ne hpq with hlt | hlt
  · have := h.le_of_lt hq hlt
    omega
  · have := h'.le_of_lt hp hlt
    omega

end NextStart

/-- The end a read finds is the next start. -/
theorem nextStart_blockEnd (starts : List Nat) (dataLength pos : Nat) :
    NextStart starts dataLength pos (blockEnd starts dataLength pos) := by
  unfold blockEnd
  cases hmin : (starts.filter (pos < ·)).min? with
  | none =>
    right
    refine ⟨fun q hq => ?_, rfl⟩
    have := List.filter_eq_nil_iff.mp (List.min?_eq_none_iff.mp hmin) q hq
    simp only [decide_eq_true_eq] at this
    omega
  | some m =>
    left
    obtain ⟨hm, hle⟩ := List.min?_eq_some_iff.mp hmin
    simp only [List.mem_filter, decide_eq_true_eq] at hm hle
    exact ⟨hm.1, hm.2, fun q hq hlt => hle q ⟨hq, hlt⟩⟩

/-- On strictly increasing starts, the partition point of `· ≤ pos` holds the next start
beyond `pos`, or lies past the end when there is none. -/
theorem nextStart_search {starts : Array Nat} (hsorted : starts.toList.Pairwise (· < ·))
    (dataLength pos : Nat) :
    NextStart starts.toList dataLength pos
      ((starts[partitionPoint (· ≤ pos) starts]?).getD dataLength) := by
  have hpart : Partitioned (· ≤ pos) starts := by
    intro i j hij hj hle
    simp only [decide_eq_true_eq] at hle ⊢
    exact Nat.le_trans (getElem_le_of_le hsorted hij hj) hle
  obtain ⟨hle, hspec⟩ := partitionPoint_spec hpart
  simp only [decide_eq_true_eq] at hspec
  generalize partitionPoint (· ≤ pos) starts = r at hle hspec
  by_cases hr : r < starts.size
  · -- the start at the point is beyond `pos`, and every start beyond `pos` is at or after it
    left
    rw [Array.getElem?_eq_getElem hr, Option.getD_some]
    refine ⟨Array.getElem_mem_toList hr,
      Nat.lt_of_not_le fun hle => Nat.lt_irrefl r ((hspec r hr).mp hle), fun q hq hlt => ?_⟩
    obtain ⟨k, hk, rfl⟩ := List.getElem_of_mem hq
    simp only [Array.length_toList] at hk
    simp only [Array.getElem_toList] at hlt ⊢
    have hrk : r ≤ k := Nat.le_of_not_lt fun hkr => by have := (hspec k hk).mpr hkr; omega
    exact getElem_le_of_le hsorted hrk hk
  · -- the point is past the end: every start is at or before `pos`
    right
    rw [Array.getElem?_eq_none (by omega), Option.getD_none]
    refine ⟨fun q hq => ?_, rfl⟩
    obtain ⟨k, hk, rfl⟩ := List.getElem_of_mem hq
    simp only [Array.length_toList] at hk
    simp only [Array.getElem_toList]
    exact (hspec k hk).mpr (by omega)

/-! ## The ends of all blocks -/

/-- The ends an opened file finds at once are the ends that reads find one at a time. -/
theorem blockEnds_eq_map_blockEnd (nodes : List TocNode) (dataLength : Nat) :
    blockEnds nodes dataLength =
      nodes.map fun n => blockEnd (nodes.map (·.pos)) dataLength n.pos := by
  -- the searched starts are strictly increasing, and they are the starts of the nodes
  have hsorted : ((nodes.map (·.pos)).mergeSort.eraseReps.toArray).toList.Pairwise (· < ·) :=
    pairwise_lt_eraseReps (pairwise_le_mergeSort _)
  have hmem : ∀ q, q ∈ ((nodes.map (·.pos)).mergeSort.eraseReps.toArray).toList ↔
      q ∈ nodes.map (·.pos) := by
    intro q
    rw [List.toList_toArray, mem_eraseReps, List.mem_mergeSort]
  refine List.map_congr_left fun n _ => ?_
  exact ((nextStart_search hsorted dataLength n.pos).of_mem_iff hmem).unique
    (nextStart_blockEnd _ _ _)

/-- What the table of block ends says of a list of nodes. -/
structure NextStartTable (nodes : List TocNode) (dataLength : Nat) (ends : List Nat) : Prop where
  /-- one end per node -/
  length_eq : ends.length = nodes.length
  /-- the end of node `i` is the end a read of that node finds -/
  getElem?_eq : ∀ i (hi : i < nodes.length),
    ends[i]? = some (blockEnd (nodes.map (·.pos)) dataLength nodes[i].pos)
  /-- each node's end is the least start of any node beyond its own, or the end of the data
  section when no node starts later -/
  nextStart : ∀ n stop, (n, stop) ∈ nodes.zip ends →
    NextStart (nodes.map (·.pos)) dataLength n.pos stop
  /-- nodes that start together end together -/
  eq_of_pos_eq : ∀ m stop n stop', (m, stop) ∈ nodes.zip ends → (n, stop') ∈ nodes.zip ends →
    m.pos = n.pos → stop = stop'
  /-- the blocks `[pos, end)` of nodes that start apart do not overlap -/
  disjoint : ∀ m stop n stop', (m, stop) ∈ nodes.zip ends → (n, stop') ∈ nodes.zip ends →
    m.pos ≠ n.pos → ∀ x, m.pos ≤ x → x < stop → n.pos ≤ x → x < stop' → False

/-- A pair of an element and its entry in a table made element by element. -/
theorem mem_zip_map {α β : Type} {l : List α} {f : α → β} {a : α} {b : β}
    (h : (a, b) ∈ l.zip (l.map f)) : a ∈ l ∧ b = f a := by
  have hzip : l.zip (l.map f) = l.map fun x => (x, f x) := by
    simpa using List.zip_map' (f := id) (g := f) (l := l)
  rw [hzip, List.mem_map] at h
  obtain ⟨x, hx, hxab⟩ := h
  simp only [Prod.mk.injEq] at hxab
  obtain ⟨rfl, rfl⟩ := hxab
  exact ⟨hx, rfl⟩

/-- **Every block ends at the next start.** For every list of nodes and every length of the
data section, sorting the starts, dropping repeats and searching them gives one end per node:
the least start of any node beyond the node's own, or the end of the data section when no node
starts later, which is the end a read of the node finds. So nodes that start together end
together, and the blocks of nodes that start apart do not overlap. -/
theorem blockEnds_nextStartTable (nodes : List TocNode) (dataLength : Nat) :
    NextStartTable nodes dataLength (blockEnds nodes dataLength) := by
  rw [blockEnds_eq_map_blockEnd]
  -- every entry is the next start of its node
  have hnext : ∀ n stop, (n, stop) ∈ nodes.zip (nodes.map fun n =>
      blockEnd (nodes.map (·.pos)) dataLength n.pos) →
        n ∈ nodes ∧ NextStart (nodes.map (·.pos)) dataLength n.pos stop := by
    intro n stop h
    obtain ⟨hn, rfl⟩ := mem_zip_map h
    exact ⟨hn, nextStart_blockEnd _ _ _⟩
  refine ⟨by simp, fun i hi => by simp [hi], fun n stop h => (hnext n stop h).2, ?_, ?_⟩
  · intro m stop n stop' h h' hpos
    exact (hnext m stop h).2.unique (hpos ▸ (hnext n stop' h').2)
  · intro m stop n stop' h h' hpos x
    exact NextStart.disjoint (List.mem_map_of_mem (hnext m stop h).1)
      (List.mem_map_of_mem (hnext n stop' h').1) hpos (hnext m stop h).2 (hnext n stop' h').2

/-- The table of the three nodes that open at 10, 0 and 10 in a data section of 25 bytes. -/
example : blockEnds [⟨10, 1, []⟩, ⟨0, 1, []⟩, ⟨10, 0, []⟩] 25 = [25, 10, 25] := by cbv

end PlanetTiles.Archive
