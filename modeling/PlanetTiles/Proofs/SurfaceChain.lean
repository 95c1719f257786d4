import PlanetTiles.Proofs.FlipLoops

/-!
# The mip chain a surface holds

Every surface a caller can hold keeps a prefix of its full mip chain, at least one level
long, and exactly the bytes of those levels. Building a surface from parts sets this up by
clamping the count and cutting the data; flipping cuts the chain at its first level that
cannot flip, and cuts the data with it, and changing the format touches neither.

* `Surface.Chained` — the invariant: the levels are `chainFrom` of the top size, their
  count is between 1 and the full chain, and the data is as long as the chain.
* `Surface.flipVertical_eq_ok` — the inversion lemma: a flip that succeeds keeps the first
  `k ≥ 1` levels, all of which can flip, and flips them in the data cut to their length.
* `Surface.Reachable.chained` — **every reachable surface is chained**.
-/

namespace PlanetTiles.Dds

/-! ## Chains -/

@[simp] theorem chainFrom_zero (width height offset : Nat) :
    chainFrom width height offset 0 = [] := rfl

@[simp] theorem chainFrom_succ (width height offset count : Nat) :
    chainFrom width height offset (count + 1) =
      ⟨width, height, offset, levelLength width height⟩ ::
        chainFrom (halve width) (halve height) (offset + levelLength width height) count := rfl

@[simp] theorem chainLength_nil : chainLength [] = 0 := rfl

@[simp] theorem chainLength_cons (l : MipLevel) (levels : List MipLevel) :
    chainLength (l :: levels) = l.len + chainLength levels := rfl

@[simp] theorem chainLength_append (levels levels' : List MipLevel) :
    chainLength (levels ++ levels') = chainLength levels + chainLength levels' := by
  induction levels with
  | nil => simp
  | cons l levels ih => simp [ih, Nat.add_assoc]

/-- A chain cut after `k` levels is the chain of `k` levels. -/
theorem take_chainFrom (width height offset count k : Nat) :
    (chainFrom width height offset count).take k = chainFrom width height offset (min k count) := by
  induction count generalizing width height offset k with
  | zero => simp
  | succ count ih =>
    cases k with
    | zero => simp
    | succ k => simp [ih, Nat.succ_min_succ]

/-- A chain of `k + m` levels is the chain of its first `k` levels followed by a chain of `m`
levels that starts where they end. -/
theorem chainFrom_add (width height offset k m : Nat) :
    ∃ width' height', chainFrom width height offset (k + m) =
      chainFrom width height offset k ++
        chainFrom width' height' (offset + chainLength (chainFrom width height offset k)) m := by
  induction k generalizing width height offset with
  | zero => exact ⟨width, height, by simp⟩
  | succ k ih =>
    obtain ⟨width', height', h⟩ := ih (halve width) (halve height) (offset + levelLength width height)
    refine ⟨width', height', ?_⟩
    rw [Nat.add_right_comm, chainFrom_succ, h]
    simp [Nat.add_assoc]

theorem chainLength_chainFrom_le {width height offset k count : Nat} (h : k ≤ count) :
    chainLength (chainFrom width height offset k) ≤ chainLength (chainFrom width height offset count) := by
  obtain ⟨m, rfl⟩ := Nat.exists_eq_add_of_le h
  obtain ⟨width', height', hsplit⟩ := chainFrom_add width height offset k m
  rw [hsplit, chainLength_append]
  omega

/-- The level after the first `k` of a chain starts where they end. -/
theorem offset_of_getElem?_chainFrom {width height offset count k : Nat} {level : MipLevel}
    (h : (chainFrom width height offset count)[k]? = some level) :
    level.offset = offset + chainLength (chainFrom width height offset k) := by
  have hk : k < count := by
    have := (List.getElem?_eq_some_iff.mp h).1
    simpa using this
  have hoff := chainFrom_offsets width height offset count k hk
  rw [h, Option.map_some, take_chainFrom, Nat.min_eq_left (by omega)] at hoff
  exact Option.some.inj hoff

/-- Every level of a chain is as long as its size says, and no side of it is zero when the
top's sides are not. -/
theorem mem_chainFrom {width height offset count : Nat} {level : MipLevel}
    (h : level ∈ chainFrom width height offset count) :
    level.len = levelLength level.width level.height ∧
      (0 < width → 0 < level.width) ∧ (0 < height → 0 < level.height) := by
  induction count generalizing width height offset with
  | zero => simp at h
  | succ count ih =>
    rcases List.mem_cons.mp h with rfl | h
    · exact ⟨rfl, id, id⟩
    · obtain ⟨hlen, hw, hh⟩ := ih h
      refine ⟨hlen, fun _ => hw ?_, fun _ => hh ?_⟩ <;> simp only [halve] <;> omega

/-! ## The invariant -/

namespace Surface

/-- The surface keeps the first levels of its full mip chain, at least one, and exactly
their bytes. -/
structure Chained (s : Surface) : Prop where
  /-- the top level has texels -/
  width_pos : 0 < s.width
  /-- the top level has rows -/
  height_pos : 0 < s.height
  /-- the levels are the chain of the top size -/
  levels_eq : s.levels = chainFrom s.width s.height 0 s.levels.length
  /-- at least one level is kept -/
  length_pos : 0 < s.levels.length
  /-- no more levels than the full chain -/
  length_le : s.levels.length ≤ fullChainLength s.width s.height
  /-- the data is exactly the bytes of the levels -/
  size_eq : s.data.size = chainLength s.levels

theorem fullChainLength_pos (width height : Nat) : 0 < fullChainLength width height := by
  simp [fullChainLength]

theorem chained_ofParts {width height : Nat} {format : PixelFormat} {mipCount : Nat}
    {data : ByteArray} {s : Surface} (h : ofParts width height format mipCount data = .ok s) :
    s.Chained := by
  dsimp only [ofParts] at h
  split at h
  · cases h
  · rename_i hdim
    split at h
    · cases h
    · rename_i hsize
      cases h
      have hfull := fullChainLength_pos width height
      refine ⟨?_, ?_, by simp [mipChain], ?_, ?_, ?_⟩ <;>
        simp only [mipChain, length_chainFrom, clampCount, ByteArray.size_extract] at hsize ⊢ <;>
        omega

theorem chained_parse {bytes : ByteArray} {s : Surface} (h : parse bytes = .ok s) :
    s.Chained := by
  unfold parse at h
  cases hheader : Header.read bytes with
  | error e => simp [hheader, bind, Except.bind] at h
  | ok header =>
    cases hformat : header.pixelFormat with
    | error e => simp [hheader, hformat, bind, Except.bind] at h
    | ok format =>
      simp only [hheader, hformat, bind, Except.bind] at h
      exact chained_ofParts h

theorem Chained.setFormat {s : Surface} (hs : s.Chained) (format : PixelFormat) :
    (s.setFormat format).Chained :=
  ⟨hs.width_pos, hs.height_pos, hs.levels_eq, hs.length_pos, hs.length_le, hs.size_eq⟩

end Surface

/-! ## Flipping keeps the bytes where they are -/

@[simp] theorem size_flipLevelBytes (data : ByteArray) (level : MipLevel) :
    (flipLevelBytes data level).size = level.len := by
  unfold flipLevelBytes
  rw [← ByteArray.size_data, Array.size_ofFn]

theorem size_flipLevel {data : ByteArray} {level : MipLevel}
    (h : level.offset + level.len ≤ data.size) : (flipLevel data level).size = data.size := by
  simp only [flipLevel, ByteArray.size_append, ByteArray.size_extract, size_flipLevelBytes]
  omega

/-- Flipping the levels of a chain that lies inside the data keeps its size. -/
theorem size_foldl_flipLevel (width height count : Nat) :
    ∀ offset (data : ByteArray),
      offset + chainLength (chainFrom width height offset count) ≤ data.size →
      ((chainFrom width height offset count).foldl flipLevel data).size = data.size := by
  induction count generalizing width height with
  | zero => intro offset data _; rfl
  | succ count ih =>
    intro offset data h
    simp only [chainFrom_succ, chainLength_cons, List.foldl_cons] at h ⊢
    have hfirst : offset + levelLength width height ≤ data.size := by omega
    rw [ih _ _ _ _ (by rw [size_flipLevel hfirst]; omega), size_flipLevel hfirst]

/-- The run lemma: flipping the levels of a chain that lies inside the data, each through its
slice, is flipping each in place, when every level can flip. -/
theorem foldlM_flipLevelInPlace_chainFrom (width height count : Nat) :
    ∀ offset (data : ByteArray),
      offset + chainLength (chainFrom width height offset count) ≤ data.size →
      (∀ level ∈ chainFrom width height offset count, flippable level.height = true) →
      (chainFrom width height offset count).foldlM flipLevelInPlace data =
        .ok ((chainFrom width height offset count).foldl flipLevel data) := by
  induction count generalizing width height with
  | zero => intro offset data _ _; rfl
  | succ count ih =>
    intro offset data h hflip
    simp only [chainFrom_succ, chainLength_cons, List.foldl_cons, List.foldlM_cons] at h hflip ⊢
    have hfirst : offset + levelLength width height ≤ data.size := by omega
    -- the first level flips in place, and the rest flip from there
    rw [flipLevelInPlace_eq_flipLevel hfirst rfl (hflip _ List.mem_cons_self)]
    exact ih _ _ _ _ (by rw [size_flipLevel hfirst]; omega)
      fun level hl => hflip level (List.mem_cons_of_mem _ hl)

namespace Surface

/-- A flip that goes ahead keeps the size, the format and the levels before the first that
cannot flip: only the data changes. -/
theorem exists_data_of_flipVertical_eq_ok {s t : Surface} (h : s.flipVertical = .ok t) :
    ∃ data, t = { s with levels := s.levels.takeWhile (flippable ·.height), data } := by
  unfold flipVertical at h
  dsimp only at h
  split at h
  · cases h
  · simp only [Except.map] at h
    split at h
    · cases h
    · cases h
      exact ⟨_, rfl⟩

/-- **The inversion lemma of a flip.** A flip of a chained surface that succeeds keeps its
first `k ≥ 1` levels, those before the first that cannot flip, cuts the data to their bytes
and flips each of them there. -/
theorem flipVertical_eq_ok {s t : Surface} (hs : s.Chained) (h : s.flipVertical = .ok t) :
    ∃ k, 0 < k ∧ k ≤ s.levels.length ∧
      (∀ level ∈ chainFrom s.width s.height 0 k, flippable level.height = true) ∧
      t = { s with
        levels := chainFrom s.width s.height 0 k
        data := (chainFrom s.width s.height 0 k).foldl flipLevel
          (s.data.extract 0 (chainLength (chainFrom s.width s.height 0 k))) } := by
  unfold flipVertical at h
  generalize hkept : s.levels.takeWhile (flippable ·.height) = kept at h
  -- what is kept is a prefix of the chain, so a shorter chain
  have hk : kept.length ≤ s.levels.length := by
    rw [← hkept]
    exact (List.takeWhile_prefix _).length_le
  have hflip : ∀ level ∈ kept, flippable level.height = true := by
    rw [← hkept]
    exact List.all_eq_true.mp List.all_takeWhile
  have hchain : kept = chainFrom s.width s.height 0 kept.length := by
    have hpre : kept = s.levels.take kept.length :=
      List.prefix_iff_eq_take.mp (hkept ▸ List.takeWhile_prefix _)
    refine hpre.trans ?_
    rw [hs.levels_eq, take_chainFrom, Nat.min_eq_left (by simpa using hk)]
  generalize hklen : kept.length = k at hk hchain h
  subst hchain
  dsimp only at h
  split at h
  · cases h
  · rename_i hne
    -- the kept levels lie inside the data cut after them, so each flips in place
    have hinside : 0 + chainLength (chainFrom s.width s.height 0 k) ≤
        (s.data.extract 0 (chainLength (chainFrom s.width s.height 0 k))).size := by
      have hle : chainLength (chainFrom s.width s.height 0 k) ≤ s.data.size := by
        rw [hs.size_eq, hs.levels_eq]
        exact chainLength_chainFrom_le hk
      simp only [ByteArray.size_extract]
      omega
    have hrun := foldlM_flipLevelInPlace_chainFrom _ _ _ 0 _ hinside hflip
    -- the data is cut where the first dropped level starts, or not at all
    rw [hklen] at h
    split at h
    case' h_1 dropped hdrop =>
      rw [hs.levels_eq] at hdrop
      rw [offset_of_getElem?_chainFrom hdrop, Nat.zero_add] at h
    case' h_2 hdrop =>
      have hall : s.levels.length ≤ k := by simpa using hdrop
      have hkn : k = s.levels.length := by omega
      have hwhole : s.data = s.data.extract 0 (chainLength (chainFrom s.width s.height 0 k)) := by
        rw [hkn, ← hs.levels_eq, ← hs.size_eq, ByteArray.extract_zero_size]
      rw [hwhole] at h
    all_goals
      rw [hrun] at h
      cases h
      refine ⟨k, ?_, hk, hflip, rfl⟩
      -- the top level is kept, since the flip did not fail
      have hlevels : s.levels ≠ [] := List.ne_nil_of_length_pos hs.length_pos
      cases k with
      | zero => simp [hlevels] at hne
      | succ k => omega

/-- A flip keeps the top size and the format. -/
theorem flipVertical_eq_ok_size {s t : Surface} (h : s.flipVertical = .ok t) :
    t.width = s.width ∧ t.height = s.height ∧ t.format = s.format := by
  obtain ⟨data, rfl⟩ := exists_data_of_flipVertical_eq_ok h
  exact ⟨rfl, rfl, rfl⟩

theorem Chained.flipVertical {s t : Surface} (hs : s.Chained) (h : s.flipVertical = .ok t) :
    t.Chained := by
  obtain ⟨k, hk, hkn, -, rfl⟩ := flipVertical_eq_ok hs h
  have hcut : chainLength (chainFrom s.width s.height 0 k) ≤ s.data.size := by
    rw [hs.size_eq, hs.levels_eq]
    exact chainLength_chainFrom_le hkn
  refine ⟨hs.width_pos, hs.height_pos, by simp, by simpa using hk, ?_, ?_⟩
  · simpa using Nat.le_trans hkn hs.length_le
  · -- flipping keeps the size of the cut data, which is the length of the kept chain
    simp only
    rw [size_foldl_flipLevel _ _ _ 0 _ (by simp only [ByteArray.size_extract]; omega)]
    simp only [ByteArray.size_extract]
    omega

end Surface

/-! ## Surfaces a caller can hold -/

/-- A change a caller makes to a surface it holds. -/
inductive Edit where
  /-- flip it top to bottom -/
  | flip
  /-- read its blocks in another format -/
  | setFormat (format : PixelFormat)
  deriving DecidableEq, Repr

namespace Surface

/-- The surface after an edit. A flip that fails leaves the surface as it was: its only
failure comes before it changes anything. -/
def edit (s : Surface) : Edit → Surface
  | .flip =>
    match s.flipVertical with
    | .ok t => t
    | .error _ => s
  | .setFormat format => s.setFormat format

/-- The surfaces a caller can hold: built from parts or read from a file, then edited any
number of times. -/
inductive Reachable : Surface → Prop
  | ofParts {width height : Nat} {format : PixelFormat} {mipCount : Nat} {data : ByteArray}
      {s : Surface} : ofParts width height format mipCount data = .ok s → Reachable s
  | parse {bytes : ByteArray} {s : Surface} : parse bytes = .ok s → Reachable s
  | edit {s : Surface} (e : Edit) : Reachable s → Reachable (s.edit e)

theorem edit_flip_of_ok {s t : Surface} (h : s.flipVertical = .ok t) : s.edit .flip = t := by
  simp only [Surface.edit, h]

theorem edit_flip_of_error {s : Surface} {e : SurfaceError} (h : s.flipVertical = .error e) :
    s.edit .flip = s := by
  simp only [Surface.edit, h]

/-- The step lemma: every edit keeps a surface chained. -/
theorem Chained.edit {s : Surface} (hs : s.Chained) (e : Edit) : (s.edit e).Chained := by
  cases e with
  | flip =>
    cases h : s.flipVertical with
    | ok t =>
      rw [edit_flip_of_ok h]
      exact hs.flipVertical h
    | error _ =>
      rw [edit_flip_of_error h]
      exact hs
  | setFormat format => exact hs.setFormat format

/-- Edits keep the top size. -/
theorem edit_size (s : Surface) (e : Edit) :
    (s.edit e).width = s.width ∧ (s.edit e).height = s.height := by
  cases e with
  | flip =>
    cases h : s.flipVertical with
    | ok t =>
      obtain ⟨hw, hh, -⟩ := flipVertical_eq_ok_size h
      rw [edit_flip_of_ok h]
      exact ⟨hw, hh⟩
    | error _ =>
      rw [edit_flip_of_error h]
      exact ⟨rfl, rfl⟩
  | setFormat format => exact ⟨rfl, rfl⟩

/-- The run lemma: a chained surface stays chained through any sequence of edits. -/
theorem Chained.foldl_edit {s : Surface} (hs : s.Chained) (edits : List Edit) :
    (edits.foldl Surface.edit s).Chained := by
  induction edits generalizing s with
  | nil => exact hs
  | cons e edits ih => exact ih (hs.edit e)

theorem foldl_edit_size (s : Surface) (edits : List Edit) :
    (edits.foldl Surface.edit s).width = s.width ∧
      (edits.foldl Surface.edit s).height = s.height := by
  induction edits generalizing s with
  | nil => exact ⟨rfl, rfl⟩
  | cons e edits ih =>
    obtain ⟨hw, hh⟩ := ih (s.edit e)
    exact ⟨hw.trans (edit_size s e).1, hh.trans (edit_size s e).2⟩

/-- **Every reachable surface is chained.** -/
theorem Reachable.chained {s : Surface} (h : s.Reachable) : s.Chained := by
  induction h with
  | ofParts h => exact chained_ofParts h
  | parse h => exact chained_parse h
  | edit e _ ih => exact ih.edit e

end Surface

end PlanetTiles.Dds
