import RpkiOverlap.Proofs.Range.Blocks
import RpkiOverlap.Proofs.Range.Word

/-! # Ranges in machine words are exact

No operation of `Proofs.Range.Word` leaves its word while it computes on ranges and sets in words.
So each computation has a result, and the result is that of the function on numbers, in words
(`Exact`, `arithmetic_exact`).

Wherever an operation might leave its word, this is ruled out by what was compared before it.

* The end of a range has a number after it when another range begins above the end (`touches_eq`),
  or when a range that is cut goes on above it (`cut_words`).  A range has a number before it when
  the range that is cut begins below it (`below?_words`).  Neither needs the sets to be ascending.
* The count of the numbers of a range is no word when they are the whole space of width 128, which
  is asked before one is added to their span (`fitting_eq`).  The mask of this space is not shifted
  either (`Word.exists_mask`).
* The first block of a range ends inside the range, and the next one begins above it only where the
  range goes on (`splitFirst_words`).  So the splitting follows `Range.blocks`, block by block
  (`blocks_words`).
-/
namespace RpkiOverlap

namespace Word
variable {x : Word}

/-! ## Bits and numbers -/

theorem exists_toNat {n : Nat} (h : n < 2 ^ 128) : ∃ z : Word, z.toNat = n :=
  ⟨BitVec.ofNatLT n h, rfl⟩

theorem exists_mask {k : Nat} (hk : k ≤ 128) :
    ∃ mask, lowMask k = .ok mask ∧ mask.toNat + 1 = 2 ^ k := by
  have hpos := Nat.two_pow_pos k
  have hspace : 2 ^ k ≤ 2 ^ 128 := Nat.pow_le_pow_right (by decide) hk
  obtain ⟨mask, hmask⟩ := exists_toNat (n := 2 ^ k - 1) (by omega)
  have hsucc : mask.toNat + 1 = 2 ^ k := by omega
  exact ⟨mask, (lowMask_eq_ok_iff hk).2 hsucc, hsucc⟩

theorem and_mask_eq_zero_iff {mask : Word} {k : Nat} (hmask : mask.toNat + 1 = 2 ^ k) :
    x &&& mask = 0#128 ↔ x.toNat % 2 ^ k = 0 := by
  have heq : mask.toNat = 2 ^ k - 1 := by omega
  rw [← BitVec.toNat_inj, BitVec.toNat_and, heq, Nat.and_two_pow_sub_one_eq_mod]
  rfl

/-- The bits of a mask are added to a multiple of its power. -/
theorem toNat_or_mask {mask : Word} {k : Nat} (hmask : mask.toNat + 1 = 2 ^ k)
    (hdvd : 2 ^ k ∣ x.toNat) : (x ||| mask).toNat = x.toNat + (2 ^ k - 1) := by
  obtain ⟨m, hm⟩ := hdvd
  have heq : mask.toNat = 2 ^ k - 1 := by omega
  have hlt : 2 ^ k - 1 < 2 ^ k := by omega
  rw [BitVec.toNat_or, heq, hm, Nat.two_pow_add_eq_or_of_lt hlt]

/-- A word is divisible by the powers of two that its trailing zeros say, and by no others. -/
theorem two_pow_dvd_toNat_iff {k : Nat} (hx : x ≠ 0#128) : 2 ^ k ∣ x.toNat ↔ k ≤ x.ctz.toNat := by
  rw [Range.two_pow_dvd_iff_testBit]
  constructor
  · intro hzero
    by_contra hlt
    have hset : x.toNat.testBit x.ctz.toNat = true := BitVec.getLsbD_true_ctz_of_ne_zero hx
    rw [hzero _ (Nat.lt_of_not_le hlt)] at hset
    cases hset
  · intro hle i hi
    exact BitVec.getLsbD_false_of_lt_ctz (Nat.lt_of_lt_of_le hi hle)

/-- A word whose largest set bit is in place `k - 1` has zeros in the places above. -/
theorem toNat_clz_add {k : Nat} (hlt : x.toNat < 2 ^ k) (hle : 2 ^ k ≤ 2 * x.toNat + 1) :
    x.clz.toNat + k = 128 := by
  by_cases hx : x = 0#128
  · have hclz : x.clz.toNat = 128 := congrArg BitVec.toNat (BitVec.clz_eq_iff_eq_zero.2 hx)
    have hk : 2 ^ k ≤ 2 ^ 0 := by
      rw [hx] at hle
      exact hle
    have := (Nat.pow_le_pow_iff_right (by decide : 1 < 2)).1 hk
    omega
  · have hclz : x.clz.toNat < 128 := BitVec.clz_lt_iff_ne_zero.2 hx
    have hupper : x.toNat < 2 ^ (128 - x.clz.toNat) := BitVec.toNat_lt_two_pow_sub_clz
    have hlower : 2 ^ (128 - 1 - x.clz.toNat) ≤ x.toNat :=
      BitVec.two_pow_sub_clz_le_toNat_of_ne_zero (by decide) hx
    have habove : 128 - 1 - x.clz.toNat < k :=
      (Nat.pow_lt_pow_iff_right (by decide : 1 < 2)).1 (Nat.lt_of_le_of_lt hlower hlt)
    have hbelow : k < 128 - x.clz.toNat + 1 := by
      refine (Nat.pow_lt_pow_iff_right (by decide : 1 < 2)).1 ?_
      rw [Nat.pow_succ]
      omega
    omega

end Word

namespace WordRange
variable {w : Nat}
open Word

/-! ## Ranges in words -/

theorem toNat_lo_words (r : Range w) : r.words.lo.toNat = r.lo := rfl

theorem toNat_hi_words (r : Range w) : r.words.hi.toNat = r.hi := rfl

/-- A range in words is known by its ends. -/
theorem eq_words {r : Range w} {m : WordRange w} (hlo : m.lo.toNat = r.lo)
    (hhi : m.hi.toNat = r.hi) : m = r.words := by
  cases m
  exact congrArg₂ WordRange.mk (BitVec.eq_of_toNat_eq hlo) (BitVec.eq_of_toNat_eq hhi)

/-- Two numbers of `w` bits are the ends of a range when they are in order. -/
theorem exists_words_iff {m : WordRange w} :
    (∃ r : Range w, r.words = m) ↔ m.lo.toNat ≤ m.hi.toNat := by
  constructor
  · rintro ⟨r, rfl⟩
    exact r.lo_le_hi
  · intro hle
    exact ⟨⟨m.lo.toNat, m.hi.toNat, hle, m.hi.isLt⟩, (eq_words rfl rfl).symm⟩

/-- How far apart the ends of a range are. -/
theorem exists_span (hw : w ≤ 128) (r : Range w) :
    ∃ span, sub (widen r.words.hi) (widen r.words.lo) = .ok span ∧ span.toNat + 1 = r.size := by
  have hle := r.lo_le_hi
  have hlt := r.hi_lt
  have hspace : 2 ^ w ≤ 2 ^ 128 := Nat.pow_le_pow_right (by decide) hw
  obtain ⟨span, hspan⟩ := exists_toNat (n := r.hi - r.lo) (by omega)
  refine ⟨span, sub_eq_ok_iff.2 ?_, congrArg (· + 1) hspan⟩
  rw [toNat_widen hw, toNat_widen hw, toNat_lo_words, toNat_hi_words, hspan]
  omega

/-! ## Aligned blocks -/

theorem alignment_eq (current : Word) : alignment w current = Range.alignment w current.toNat := by
  unfold alignment
  split
  · rename_i hzero
    rw [hzero]
    exact Nat.le_antisymm (Range.le_alignment (Nat.le_refl w) (Nat.dvd_zero _))
      (Range.alignment_le w 0)
  · rename_i hne
    refine Nat.le_antisymm (Range.le_alignment (Nat.min_le_right ..) ?_)
      (Nat.le_min.2 ⟨?_, Range.alignment_le w _⟩)
    · exact (two_pow_dvd_toNat_iff hne).2 (Nat.min_le_left ..)
    · exact (two_pow_dvd_toNat_iff hne).1 (Range.two_pow_alignment_dvd w _)

theorem fitting_eq (remaining : Word) :
    fitting remaining = .ok (remaining.toNat + 1).log2 := by
  unfold fitting
  split
  · rename_i hall
    rw [hall, BitVec.toNat_allOnes]
    exact congrArg Except.ok Nat.log2_two_pow.symm
  · rename_i hne
    have hlt : remaining.toNat + 1 < 2 ^ 128 := by
      have hlt := remaining.isLt
      have hmax : remaining.toNat ≠ 2 ^ 128 - 1 := fun heq =>
        hne (BitVec.eq_of_toNat_eq (heq.trans BitVec.toNat_allOnes.symm))
      omega
    obtain ⟨count, hcount⟩ := exists_toNat hlt
    refine bind_eq_ok.2 ⟨count, add_eq_ok_iff.2 hcount.symm, subBits_eq_ok_iff.2 ?_⟩
    have hself : 2 ^ (remaining.toNat + 1).log2 ≤ remaining.toNat + 1 :=
      Nat.log2_self_le (Nat.succ_ne_zero _)
    have hclz : count.clz.toNat + ((remaining.toNat + 1).log2 + 1) = 128 := by
      refine toNat_clz_add ?_ ?_
      · rw [hcount]
        exact Nat.lt_log2_self
      · rw [hcount, Nat.pow_succ]
        omega
    omega

/-- The first block ends where the bits of its mask are added to the lower end of the range. -/
theorem exists_firstMask (hw : w ≤ 128) (r : Range w) :
    ∃ mask, lowMask (min (alignment w (widen r.words.lo)) r.size.log2) = .ok mask ∧
      (widen r.words.lo ||| mask).toNat = r.firstBlock.hi := by
  have hlo : (widen r.words.lo).toNat = r.lo := toNat_widen hw _
  obtain ⟨mask, hlow, hmask⟩ := exists_mask (Nat.le_trans r.firstExponent_le hw)
  refine ⟨mask, ?_, ?_⟩
  · rw [alignment_eq, hlo]
    exact hlow
  · rw [toNat_or_mask hmask (hlo ▸ r.two_pow_firstExponent_dvd), hlo]
    rfl

/-- The first block of a range, and where the rest of the range begins. -/
theorem splitFirst_words (hw : w ≤ 128) (r : Range w) :
    splitFirst w (widen r.words.hi) (widen r.words.lo) = .ok (r.firstBlock.words,
      if h : r.lo + 2 ^ r.firstExponent ≤ r.hi then some (widen (r.aboveFirst h).words.lo)
      else none) := by
  have hpos := Nat.two_pow_pos r.firstExponent
  have hfirst : r.firstBlock.hi + 1 = r.lo + 2 ^ r.firstExponent := by
    show r.lo + (2 ^ r.firstExponent - 1) + 1 = r.lo + 2 ^ r.firstExponent
    omega
  obtain ⟨span, hsub, hspan⟩ := exists_span hw r
  have hfits : fitting span = .ok r.size.log2 := by rw [fitting_eq, hspan]
  obtain ⟨mask, hlow, hend⟩ := exists_firstMask hw r
  refine bind_eq_ok.2 ⟨span, hsub, ?_⟩
  refine bind_eq_ok.2 ⟨r.size.log2, hfits, ?_⟩
  refine bind_eq_ok.2 ⟨mask, hlow, ?_⟩
  refine bind_eq_ok.2 ⟨r.words.lo, narrow_eq_ok_iff.2 (toNat_widen hw _), ?_⟩
  refine bind_eq_ok.2 ⟨r.firstBlock.words.hi, narrow_eq_ok_iff.2 hend, ?_⟩
  rw [hend, toNat_widen hw, toNat_hi_words]
  by_cases hrest : r.lo + 2 ^ r.firstExponent ≤ r.hi
  · rw [if_neg (by omega), dif_pos hrest]
    refine bind_eq_ok.2 ⟨widen (r.aboveFirst hrest).words.lo, add_eq_ok_iff.2 ?_, rfl⟩
    rw [hend, toNat_widen hw]
    exact hfirst
  · rw [if_pos (by omega), dif_neg hrest]
    rfl

theorem blocks_words (hw : w ≤ 128) (r : Range w) :
    r.words.blocks = .ok (r.blocks.map Range.words) := by
  unfold blocks
  induction r using Range.blocks.induct with
  | case1 r hrest ih =>
    have hsplit := splitFirst_words hw r
    rw [dif_pos hrest] at hsplit
    rw [Range.blocks_of_le hrest, List.map_cons]
    exact blocksFrom_of_some hsplit ih
  | case2 r hrest =>
    have hsplit := splitFirst_words hw r
    rw [dif_neg hrest] at hsplit
    rw [Range.blocks_of_not_le hrest]
    exact blocksFrom_of_none hsplit

/-- The numbers of an aligned block differ in as many bits as its size says. -/
theorem blockBits_words (hw : w ≤ 128) {r : Range w} (hr : r.IsAligned) :
    r.words.blockBits = .ok r.size.log2 := by
  obtain ⟨k, hsize, -⟩ := hr
  obtain ⟨span, hsub, hspan⟩ := exists_span hw r
  rw [hsize] at hspan
  have hclz : span.clz.toNat + k = 128 := toNat_clz_add (by omega) (by omega)
  refine bind_eq_ok.2 ⟨span, hsub, subBits_eq_ok_iff.2 ?_⟩
  rw [hsize, Nat.log2_two_pow]
  exact hclz.symm

theorem prefixLength?_words (hw : w ≤ 128) (r : Range w) :
    r.words.prefixLength? = .ok r.prefixLength? := by
  refine bind_eq_ok.2 ⟨_, blocks_words hw r, ?_⟩
  unfold Range.prefixLength?
  cases hblocks : r.blocks with
  | nil => rfl
  | cons b bs =>
    cases bs with
    | cons c cs => rfl
    | nil =>
      have hmem : b ∈ r.blocks := hblocks ▸ List.mem_singleton_self b
      have hbits := blockBits_words hw (Range.isAligned_of_mem_blocks hmem)
      have hlog := b.log2_size_le
      refine bind_eq_ok.2 ⟨b.size.log2, hbits, ?_⟩
      exact bind_eq_ok.2 ⟨w - b.size.log2, subBits_eq_ok_iff.2 (by omega), rfl⟩

theorem block?_words (hw : w ≤ 128) (start : BitVec w) (length : Nat) :
    block? start length = .ok ((Range.block? start.toNat length).map Range.words) := by
  unfold block? Range.block?
  by_cases hlength : w < length
  · rw [if_pos hlength, if_neg fun h => Nat.not_le_of_lt hlength h.1]
    rfl
  obtain ⟨mask, hlow, hmask⟩ := exists_mask (Nat.le_trans (Nat.sub_le w length) hw)
  have hbits : subBits w length = .ok (w - length) := subBits_eq_ok_iff.2 (by omega)
  have hstart : (widen start).toNat = start.toNat := toNat_widen hw start
  rw [if_neg hlength]
  refine bind_eq_ok.2 ⟨w - length, hbits, ?_⟩
  refine bind_eq_ok.2 ⟨mask, hlow, ?_⟩
  by_cases hzero : start.toNat % 2 ^ (w - length) = 0
  · have hpos := Nat.two_pow_pos (w - length)
    have hspace := Range.add_two_pow_le (Nat.sub_le w length) start.isLt hzero
    have hend : (widen start ||| mask).toNat = start.toNat + (2 ^ (w - length) - 1) := by
      rw [toNat_or_mask hmask (hstart ▸ Nat.dvd_of_mod_eq_zero hzero), hstart]
    have hzero' : widen start &&& mask = 0#128 := (and_mask_eq_zero_iff hmask).2 (hstart ▸ hzero)
    rw [if_pos hzero', if_pos ⟨Nat.le_of_not_lt hlength, hzero⟩, Range.of?, dif_pos (by omega)]
    refine bind_eq_ok.2 ⟨_, narrow_eq_ok_iff.2 (hend.trans (BitVec.toNat_ofNatLT _ ?_).symm), ?_⟩
    · omega
    · exact congrArg (fun m => Except.ok (some m)) (eq_words rfl rfl)
  · have hzero' : ¬ widen start &&& mask = 0#128 := fun h =>
      hzero (hstart ▸ (and_mask_eq_zero_iff hmask).1 h)
    rw [if_neg hzero', if_neg fun h => hzero h.2]
    rfl

/-! ## Joining ranges -/

theorem le_words (r s : Range w) : r.words.le s.words = r.le s := by
  rw [Bool.eq_iff_iff, Range.le_iff]
  simp only [le, Bool.or_eq_true, Bool.and_eq_true, decide_eq_true_eq]
  exact Iff.rfl

/-- The number after the end of a range is in the space when another range begins above the end. -/
theorem touches_eq (hw : w ≤ 128) (last next : WordRange w) :
    touches last next = .ok (decide (next.lo.toNat ≤ last.hi.toNat + 1)) := by
  unfold touches
  have hspace : 2 ^ w ≤ 2 ^ 128 := Nat.pow_le_pow_right (by decide) hw
  split
  · rename_i hle
    rw [decide_eq_true (Nat.le_succ_of_le hle)]
  · rename_i hgap
    have hlt := next.lo.isLt
    obtain ⟨after, hafter⟩ := exists_toNat (n := last.hi.toNat + 1) (by omega)
    refine bind_eq_ok.2 ⟨after, add_eq_ok_iff.2 ?_, congrArg Except.ok (decide_eq_decide.2 ?_)⟩
    · rw [toNat_widen hw, hafter]
      rfl
    · rw [← BitVec.toNat_inj, toNat_widen hw, hafter]
      omega

/-! A range that overlaps or adjoins the last of the joined ranges goes on with it up to the later
of their ends, and another one is put behind it. -/

theorem join_of_le (hw : w ≤ 128) {joined : List (WordRange w)} {r s t : Range w}
    (h : s.lo ≤ r.hi + 1) (hlo : t.lo = r.lo) (hhi : t.hi = max r.hi s.hi) :
    join (joined ++ [r.words]) s.words = .ok (joined ++ [t.words]) := by
  have htouches := (touches_eq hw r.words s.words).trans (congrArg Except.ok (decide_eq_true h))
  unfold join
  rw [List.getLast?_concat, List.dropLast_concat]
  refine bind_eq_ok.2 ⟨true, htouches, ?_⟩
  refine congrArg (fun m => Except.ok (joined ++ [m])) (eq_words hlo.symm ?_)
  exact (toNat_larger ..).trans hhi.symm

theorem join_of_not_le (hw : w ≤ 128) {joined : List (WordRange w)} {r s : Range w}
    (h : ¬ s.lo ≤ r.hi + 1) :
    join (joined ++ [r.words]) s.words = .ok (joined ++ [r.words] ++ [s.words]) := by
  have htouches := (touches_eq hw r.words s.words).trans (congrArg Except.ok (decide_eq_false h))
  unfold join
  rw [List.getLast?_concat]
  exact bind_eq_ok.2 ⟨false, htouches, rfl⟩

theorem foldlM_join (hw : w ≤ 128) (rs : List (Range w)) (r : Range w)
    (joined : List (WordRange w)) : (rs.map Range.words).foldlM join (joined ++ [r.words]) =
      .ok (joined ++ (RangeSet.coalesce (r :: rs)).map Range.words) := by
  induction rs generalizing r joined with
  | nil =>
    rw [RangeSet.coalesce]
    rfl
  | cons s rest ih =>
    rw [List.map_cons, List.foldlM_cons, RangeSet.coalesce]
    split
    · rename_i hle
      refine bind_eq_ok.2 ⟨_, ?_, ih _ joined⟩
      exact join_of_le hw hle rfl rfl
    · rename_i hgap
      refine bind_eq_ok.2 ⟨_, join_of_not_le hw hgap, (ih s _).trans ?_⟩
      rw [List.map_cons, List.append_assoc]
      rfl

theorem ofList_words (hw : w ≤ 128) (rs : List (Range w)) :
    ofList (rs.map Range.words) = .ok (RangeSet.ofList rs).words := by
  have hsort : (rs.map Range.words).mergeSort le = (rs.mergeSort Range.le).map Range.words :=
    (List.map_mergeSort fun r _ s _ => (le_words r s).symm).symm
  unfold ofList
  rw [hsort]
  show _ = Except.ok ((RangeSet.coalesce (rs.mergeSort Range.le)).map Range.words)
  cases rs.mergeSort Range.le with
  | nil =>
    rw [RangeSet.coalesce]
    rfl
  | cons r rest => exact foldlM_join hw rest r []

theorem union_words (hw : w ≤ 128) (a b : RangeSet w) :
    union a.words b.words = .ok (a.union b).words := by
  unfold union RangeSet.words
  rw [← List.map_append]
  exact ofList_words hw _

/-! ## Intersection -/

theorem meet?_words (r s : Range w) : r.words.meet? s.words = (r.meet? s).map Range.words := by
  have hlo : (larger r.words.lo s.words.lo).toNat = max r.lo s.lo := toNat_larger ..
  have hhi : (smaller r.words.hi s.words.hi).toNat = min r.hi s.hi := toNat_smaller ..
  unfold meet? Range.meet?
  by_cases hle : max r.lo s.lo ≤ min r.hi s.hi
  · rw [dif_pos hle, if_pos (by omega)]
    exact congrArg some (eq_words hlo hhi)
  · rw [dif_neg hle, if_neg (by omega)]
    rfl

theorem inter_words (rs ss : List (Range w)) :
    inter (rs.map Range.words) (ss.map Range.words) =
      (RangeSet.interList rs ss).map Range.words := by
  fun_induction RangeSet.interList rs ss with
  | case1 ss => rw [List.map_nil, inter]
  | case2 rs hrs =>
    obtain ⟨r, rs, rfl⟩ := List.exists_cons_of_ne_nil fun h => hrs h
    rw [List.map_nil, List.map_cons, inter]
    exact List.cons_ne_nil _ _
  | case3 r rs s ss hlt ih =>
    rw [List.map_cons, List.map_cons, inter, toNat_hi_words, toNat_hi_words, if_pos hlt,
      meet?_words, Option.toList_map, List.map_append, ← ih, List.map_cons]
  | case4 r rs s ss hge ih =>
    rw [List.map_cons, List.map_cons, inter, toNat_hi_words, toNat_hi_words, if_neg hge,
      meet?_words, Option.toList_map, List.map_append, ← ih, List.map_cons]

/-! ## Difference -/

theorem below?_words (hw : w ≤ 128) (r s : Range w) :
    below? r.words.lo s.words = .ok ((RangeSet.below? r s).map Range.words) := by
  unfold below? RangeSet.below?
  rw [toNat_lo_words, toNat_lo_words]
  by_cases hlt : r.lo < s.lo
  · rw [if_pos hlt, dif_pos hlt]
    refine bind_eq_ok.2 ⟨BitVec.ofNatLT (s.lo - 1) ?_, (previous_eq_ok_iff hw).2 ?_, rfl⟩
    · have := s.lo_lt
      omega
    · show s.lo = s.lo - 1 + 1
      omega
  · rw [if_neg hlt, dif_neg hlt]
    rfl

theorem cut_words (hw : w ≤ 128) (r : Range w) (ss : List (Range w)) :
    cut r.words.lo r.words.hi (ss.map Range.words) =
      .ok ((RangeSet.cut r ss).map Range.words) := by
  fun_induction RangeSet.cut r ss with
  | case1 r => rfl
  | case2 r s ss hlt =>
    rw [List.map_cons, cut, toNat_hi_words, toNat_lo_words, if_pos hlt]
    rfl
  | case3 r s ss hge ih =>
    rw [List.map_cons, cut, toNat_hi_words, toNat_lo_words, if_neg hge, List.map_append,
      ← Option.toList_map]
    refine bind_eq_ok.2 ⟨_, below?_words hw r s, ?_⟩
    by_cases hrest : s.hi < r.hi
    · rw [dif_pos hrest, toNat_hi_words, if_neg (Nat.not_le_of_lt hrest)]
      refine bind_eq_ok.2 ⟨_, (next_eq_ok_iff hw).2 ?_, bind_eq_ok.2 ⟨_, ih hrest, rfl⟩⟩
      rfl
    · rw [dif_neg hrest, toNat_hi_words, if_pos (Nat.le_of_not_lt hrest), List.map_nil,
        List.append_nil]
      rfl

theorem diffList_words (hw : w ≤ 128) (rs ss : List (Range w)) :
    diff (rs.map Range.words) (ss.map Range.words) =
      .ok ((RangeSet.diffList rs ss).map Range.words) := by
  induction rs generalizing ss with
  | nil => rfl
  | cons r rs ih =>
    have hreach : (ss.map Range.words).dropWhile (fun s => s.hi.toNat < r.words.lo.toNat) =
        (RangeSet.reaching r.lo ss).map Range.words := List.dropWhile_map
    rw [List.map_cons, diff, hreach, RangeSet.diffList, List.map_append]
    exact bind_eq_ok.2 ⟨_, cut_words hw r _, bind_eq_ok.2 ⟨_, ih _, rfl⟩⟩

theorem diff_words (hw : w ≤ 128) (a b : RangeSet w) :
    diff a.words b.words = .ok (a.diff b).words := diffList_words hw a.ranges b.ranges

theorem symmDiff_words (hw : w ≤ 128) (a b : RangeSet w) :
    symmDiff a.words b.words = .ok (a.symmDiff b).words :=
  bind_eq_ok.2 ⟨_, diff_words hw a b, bind_eq_ok.2 ⟨_, diff_words hw b a, union_words hw _ _⟩⟩

theorem covers_words (hw : w ≤ 128) (a b : RangeSet w) :
    covers a.words b.words = .ok (a.covers b) := by
  refine bind_eq_ok.2 ⟨_, diff_words hw b a, congrArg Except.ok ?_⟩
  exact List.isEmpty_map

theorem setBlocks_words (hw : w ≤ 128) (s : RangeSet w) :
    setBlocks s.words = .ok (s.blocks.map Range.words) := by
  have hblocks : s.words.mapM blocks = .ok (s.ranges.map fun r => r.blocks.map Range.words) := by
    rw [mapM_eq_ok_iff, RangeSet.words, List.forall₂_map_left_iff, List.forall₂_map_right_iff]
    exact List.forall₂_same.2 fun r _ => blocks_words hw r
  refine bind_eq_ok.2 ⟨_, hblocks, congrArg Except.ok ?_⟩
  rw [RangeSet.blocks, List.map_flatMap, List.flatMap_def]

/-! ## Both widths -/

/-- The computations with words of 128 bits, on ranges and sets of numbers of `w` bits, have
results, which are those of the computations with numbers. -/
structure Exact (w : Nat) : Prop where
  ranges : ∀ m : WordRange w, (∃ r : Range w, r.words = m) ↔ m.lo.toNat ≤ m.hi.toNat
  next : ∀ n m : BitVec w, next n = .ok m ↔ n.toNat + 1 = m.toNat
  previous : ∀ n m : BitVec w, previous n = .ok m ↔ n.toNat = m.toNat + 1
  block : ∀ (start : BitVec w) (length : Nat),
    block? start length = .ok ((Range.block? start.toNat length).map Range.words)
  blocks : ∀ r : Range w, r.words.blocks = .ok (r.blocks.map Range.words)
  prefixLength : ∀ r : Range w, r.words.prefixLength? = .ok r.prefixLength?
  touches : ∀ last next : WordRange w,
    touches last next = .ok (decide (next.lo.toNat ≤ last.hi.toNat + 1))
  ofList : ∀ rs : List (Range w), ofList (rs.map Range.words) = .ok (RangeSet.ofList rs).words
  union : ∀ a b : RangeSet w, union a.words b.words = .ok (a.union b).words
  inter : ∀ a b : RangeSet w, inter a.words b.words = (a.inter b).words
  diff : ∀ a b : RangeSet w, diff a.words b.words = .ok (a.diff b).words
  symmDiff : ∀ a b : RangeSet w, symmDiff a.words b.words = .ok (a.symmDiff b).words
  covers : ∀ a b : RangeSet w, covers a.words b.words = .ok (a.covers b)
  setBlocks : ∀ s : RangeSet w, setBlocks s.words = .ok (s.blocks.map Range.words)

theorem exact_of_le (hw : w ≤ 128) : Exact w where
  ranges _ := exists_words_iff
  next _ _ := next_eq_ok_iff hw
  previous _ _ := previous_eq_ok_iff hw
  block := block?_words hw
  blocks := blocks_words hw
  prefixLength := prefixLength?_words hw
  touches := touches_eq hw
  ofList := ofList_words hw
  union := union_words hw
  inter a b := inter_words a.ranges b.ranges
  diff := diff_words hw
  symmDiff := symmDiff_words hw
  covers := covers_words hw
  setBlocks := setBlocks_words hw

/-- **No arithmetic on ranges leaves its word.**  An operation on words has a result exactly when
the sum, the difference, the shifted word or the narrowed word is the number it should be, and a
word is shifted by less than its width.  With these operations all computations on ranges and sets
of either width have results, and they are exact.  So no operation in them is ever applied where it
has no result: nothing is added to the end of the whole space, and the largest number of either
width is never asked for the number after it, nor zero for the number before it. -/
theorem arithmetic_exact : Word.Checks ∧ Exact 32 ∧ Exact 128 :=
  ⟨Word.checks, exact_of_le (by decide), exact_of_le (Nat.le_refl 128)⟩

end WordRange
end RpkiOverlap
