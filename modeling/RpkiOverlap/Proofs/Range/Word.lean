import RpkiOverlap.Proofs.Result
import RpkiOverlap.Range.Aligned
import RpkiOverlap.Range.Set

/-! # Ranges in machine words

The functions on ranges of `Range.Aligned` and `Range.Set` compute with natural numbers.  This
module has those of them that add, subtract, shift or mask as a machine computes them: the ends of
a range are numbers of `w` bits, and what is computed with them is computed in words of 128 bits.
Every operation that can leave its word is checked, and an operation that leaves it is the
outcome of the whole computation (`Overrun`).

* `Word.add`, `Word.sub`, `Word.shiftLeft` and `Word.narrow` are the checked operations on words,
  and `Word.subBits` is the one on numbers of bits.
* `WordRange.block?`, `blocks` and `prefixLength?` are about aligned blocks.
* `WordRange.ofList`, `union`, `inter`, `diff`, `symmDiff` and `covers` are about sets, which are
  lists of ranges here.

`Range.words` and `RangeSet.words` put a range and a set into words.
-/
namespace RpkiOverlap

/-- How an operation leaves its word: the sum of two words is too large for a word, a number is
subtracted from a smaller one, a word is shifted by its own width or more, or a word is cut to a
width that does not hold it. -/
inductive Overrun
  | sum
  | difference
  | shift
  | narrowing
  deriving DecidableEq, Repr

/-- The result of a computation, if none of its operations leaves its word. -/
abbrev Checked (α : Type) : Type := Except Overrun α

/-- A machine word. -/
abbrev Word : Type := BitVec 128

/-! ## Operations -/

namespace Word
variable {w : Nat} {x y z : Word}

/-- The sum of two words, if it is a word. -/
def add (x y : Word) : Checked Word :=
  if x.toNat + y.toNat < 2 ^ 128 then .ok (x + y) else .error .sum

theorem add_eq_ok_iff : add x y = .ok z ↔ x.toNat + y.toNat = z.toNat := by
  unfold add
  split
  · rename_i hlt
    rw [Except.ok.injEq, ← BitVec.toNat_inj, BitVec.toNat_add_of_lt hlt]
  · rename_i hge
    refine iff_of_false (fun h => by cases h) fun heq => hge ?_
    rw [heq]
    exact z.isLt

/-- The difference of two words, if the second is no larger than the first. -/
def sub (x y : Word) : Checked Word :=
  if y.toNat ≤ x.toNat then .ok (x - y) else .error .difference

theorem sub_eq_ok_iff : sub x y = .ok z ↔ x.toNat = y.toNat + z.toNat := by
  unfold sub
  split
  · rename_i hle
    rw [Except.ok.injEq, ← BitVec.toNat_inj, BitVec.toNat_sub_of_le hle]
    omega
  · exact iff_of_false (fun h => by cases h) fun heq => by omega

/-- The difference of two numbers of bits. -/
def subBits (m n : Nat) : Checked Nat := if n ≤ m then .ok (m - n) else .error .difference

theorem subBits_eq_ok_iff {m n k : Nat} : subBits m n = .ok k ↔ m = n + k := by
  unfold subBits
  split
  · rw [Except.ok.injEq]
    omega
  · exact iff_of_false (fun h => by cases h) fun heq => by omega

/-- The word with its bits moved up by fewer places than it has. -/
def shiftLeft (x : Word) (n : Nat) : Checked Word :=
  if n < 128 then .ok (x <<< n) else .error .shift

theorem shiftLeft_eq_ok_iff {n : Nat} : shiftLeft x n = .ok z ↔ n < 128 ∧ x <<< n = z := by
  unfold shiftLeft
  split
  · rename_i hlt
    rw [Except.ok.injEq, and_iff_right hlt]
  · rename_i hge
    exact iff_of_false (fun h => by cases h) fun h => hge h.1

/-- The word as a number of `w` bits, if it is one. -/
def narrow (w : Nat) (x : Word) : Checked (BitVec w) :=
  if x.toNat < 2 ^ w then .ok (x.setWidth w) else .error .narrowing

theorem narrow_eq_ok_iff {n : BitVec w} : narrow w x = .ok n ↔ x.toNat = n.toNat := by
  unfold narrow
  split
  · rename_i hlt
    rw [Except.ok.injEq, ← BitVec.toNat_inj, BitVec.toNat_setWidth, Nat.mod_eq_of_lt hlt]
  · rename_i hge
    refine iff_of_false (fun h => by cases h) fun heq => hge ?_
    rw [heq]
    exact n.isLt

/-- The operations have results exactly where they stay in their words, and the results are those of
numbers. -/
structure Checks : Prop where
  add : ∀ x y z : Word, add x y = .ok z ↔ x.toNat + y.toNat = z.toNat
  sub : ∀ x y z : Word, sub x y = .ok z ↔ x.toNat = y.toNat + z.toNat
  subBits : ∀ m n k : Nat, subBits m n = .ok k ↔ m = n + k
  shiftLeft : ∀ (x : Word) (n : Nat) (z : Word), shiftLeft x n = .ok z ↔ n < 128 ∧ x <<< n = z
  narrow : ∀ (w : Nat) (x : Word) (n : BitVec w), narrow w x = .ok n ↔ x.toNat = n.toNat

theorem checks : Checks where
  add _ _ _ := add_eq_ok_iff
  sub _ _ _ := sub_eq_ok_iff
  subBits _ _ _ := subBits_eq_ok_iff
  shiftLeft _ _ _ := shiftLeft_eq_ok_iff
  narrow _ _ _ := narrow_eq_ok_iff

/-- A number of `w` bits as a word. -/
def widen (n : BitVec w) : Word := n.setWidth 128

theorem toNat_widen (hw : w ≤ 128) (n : BitVec w) : (widen n).toNat = n.toNat :=
  BitVec.toNat_setWidth_of_le hw

/-- The number after one of `w` bits. -/
def next (n : BitVec w) : Checked (BitVec w) := do narrow w (← add (widen n) 1#128)

/-- The largest number has none after it. -/
theorem next_eq_ok_iff (hw : w ≤ 128) {n m : BitVec w} :
    next n = .ok m ↔ n.toNat + 1 = m.toNat := by
  simp only [next, bind_eq_ok, add_eq_ok_iff, narrow_eq_ok_iff, toNat_widen hw]
  constructor
  · rintro ⟨z, hz, hm⟩
    exact hz.trans hm
  · intro h
    exact ⟨widen m, h.trans (toNat_widen hw m).symm, toNat_widen hw m⟩

/-- The number before one of `w` bits. -/
def previous (n : BitVec w) : Checked (BitVec w) := do narrow w (← sub (widen n) 1#128)

/-- Zero has no number before it. -/
theorem previous_eq_ok_iff (hw : w ≤ 128) {n m : BitVec w} :
    previous n = .ok m ↔ n.toNat = m.toNat + 1 := by
  simp only [previous, bind_eq_ok, sub_eq_ok_iff, narrow_eq_ok_iff, toNat_widen hw]
  constructor
  · rintro ⟨z, hz, hm⟩
    rw [hz, hm, Nat.add_comm]
    rfl
  · intro h
    refine ⟨widen m, ?_, toNat_widen hw m⟩
    rw [h, toNat_widen hw, Nat.add_comm]
    rfl

example : next (BitVec.allOnes 32) = .error .narrowing := by decide

example : next (BitVec.allOnes 128) = .error .sum := by decide

example : previous 0#32 = .error .difference := by decide

/-- The larger of two numbers. -/
def larger (n m : BitVec w) : BitVec w := if n.toNat < m.toNat then m else n

theorem toNat_larger (n m : BitVec w) : (larger n m).toNat = max n.toNat m.toNat := by
  unfold larger
  split
  · rename_i hlt
    exact (Nat.max_eq_right (Nat.le_of_lt hlt)).symm
  · rename_i hge
    exact (Nat.max_eq_left (Nat.le_of_not_lt hge)).symm

/-- The smaller of two numbers. -/
def smaller (n m : BitVec w) : BitVec w := if n.toNat < m.toNat then n else m

theorem toNat_smaller (n m : BitVec w) : (smaller n m).toNat = min n.toNat m.toNat := by
  unfold smaller
  split
  · rename_i hlt
    exact (Nat.min_eq_left (Nat.le_of_lt hlt)).symm
  · rename_i hge
    exact (Nat.min_eq_right (Nat.le_of_not_lt hge)).symm

/-- The word whose lower bits are set. -/
def lowMask (bits : Nat) : Checked Word :=
  if 128 ≤ bits then .ok (BitVec.allOnes 128)
  else do sub (← shiftLeft 1#128 bits) 1#128

theorem lowMask_eq_ok_iff {bits : Nat} (h : bits ≤ 128) :
    lowMask bits = .ok z ↔ z.toNat + 1 = 2 ^ bits := by
  unfold lowMask
  split
  · rename_i hge
    obtain rfl : bits = 128 := Nat.le_antisymm h hge
    rw [Except.ok.injEq, ← BitVec.toNat_inj, BitVec.toNat_allOnes]
    omega
  · rename_i hlt
    have hshift : (1#128 <<< bits).toNat = 2 ^ bits := by
      have hpow := Nat.pow_lt_pow_right (by decide : 1 < 2) (Nat.lt_of_not_le hlt)
      rw [BitVec.toNat_shiftLeft, Nat.shiftLeft_eq]
      show 1 * 2 ^ bits % 2 ^ 128 = 2 ^ bits
      rw [Nat.one_mul, Nat.mod_eq_of_lt hpow]
    simp only [bind_eq_ok, shiftLeft_eq_ok_iff, sub_eq_ok_iff]
    constructor
    · rintro ⟨z', ⟨-, rfl⟩, hz⟩
      rw [← hshift, hz, Nat.add_comm]
      rfl
    · intro hz
      refine ⟨1#128 <<< bits, ⟨Nat.lt_of_not_le hlt, rfl⟩, ?_⟩
      rw [hshift, ← hz, Nat.add_comm]
      rfl

end Word

/-- A range by its ends.  The type does not keep them in order: a computation with words could
make any two numbers the ends of a range. -/
structure WordRange (w : Nat) where
  lo : BitVec w
  hi : BitVec w
  deriving DecidableEq, Repr

theorem Range.lo_lt {w : Nat} (r : Range w) : r.lo < 2 ^ w := Nat.lt_of_le_of_lt r.lo_le_hi r.hi_lt

/-- The range in words. -/
def Range.words {w : Nat} (r : Range w) : WordRange w :=
  ⟨BitVec.ofNatLT r.lo r.lo_lt, BitVec.ofNatLT r.hi r.hi_lt⟩

/-- The set in words. -/
def RangeSet.words {w : Nat} (s : RangeSet w) : List (WordRange w) := s.ranges.map Range.words

namespace WordRange
variable {w : Nat}
open Word

/-! ## Aligned blocks -/

/-- The aligned block of the numbers that agree with `start` in their first `length` bits.  The
other bits of `start` have to be zero, and are all set at the end of the block. -/
def block? (start : BitVec w) (length : Nat) : Checked (Option (WordRange w)) :=
  if w < length then .ok none
  else do
    let mask ← lowMask (← subBits w length)
    if widen start &&& mask = 0#128 then
      return some ⟨start, ← narrow w (widen start ||| mask)⟩
    else return none

/-- The number of lower bits of a word that are zero, but no more than `w`. -/
def alignment (w : Nat) (current : Word) : Nat :=
  if current = 0#128 then w else min current.ctz.toNat w

/-- The exponent of the largest power of two that is at most `remaining + 1`.  That number is no
word when all bits of `remaining` are set. -/
def fitting (remaining : Word) : Checked Nat :=
  if remaining = BitVec.allOnes 128 then .ok 128
  else do subBits 127 (← add remaining 1#128).clz.toNat

/-- The first aligned block of the numbers from `current` to `stop`, and where the rest of them
begins, if there is a rest. -/
def splitFirst (w : Nat) (stop current : Word) : Checked (WordRange w × Option Word) := do
  let fits ← fitting (← sub stop current)
  let blockEnd := current ||| (← lowMask (min (alignment w current) fits))
  let block := ⟨← narrow w current, ← narrow w blockEnd⟩
  if stop.toNat ≤ blockEnd.toNat then return (block, none)
  else return (block, some (← add blockEnd 1#128))

/-- The rest begins above the place where the numbers began. -/
theorem lt_of_splitFirst {stop current rest : Word} {block : WordRange w}
    (h : splitFirst w stop current = .ok (block, some rest)) :
    stop.toNat - rest.toNat < stop.toNat - current.toNat := by
  obtain ⟨remaining, -, h⟩ := bind_eq_ok.1 h
  obtain ⟨fits, -, h⟩ := bind_eq_ok.1 h
  obtain ⟨mask, -, h⟩ := bind_eq_ok.1 h
  obtain ⟨lo, -, h⟩ := bind_eq_ok.1 h
  obtain ⟨hi, -, h⟩ := bind_eq_ok.1 h
  split at h
  · cases h
  · rename_i hrest
    obtain ⟨above, habove, h⟩ := bind_eq_ok.1 h
    cases h
    have hsum : (current ||| mask).toNat + 1 = rest.toNat := add_eq_ok_iff.1 habove
    have hle : current.toNat ≤ (current ||| mask).toNat := Nat.left_le_or
    omega

/-- The numbers from `current` to `stop`, cut into aligned blocks in ascending order. -/
def blocksFrom (w : Nat) (stop current : Word) : Checked (List (WordRange w)) :=
  match _ : splitFirst w stop current with
  | .error e => .error e
  | .ok (block, none) => .ok [block]
  | .ok (block, some rest) => do return block :: (← blocksFrom w stop rest)
termination_by stop.toNat - current.toNat
decreasing_by exact lt_of_splitFirst ‹_›

theorem blocksFrom_of_none {stop current : Word} {block : WordRange w}
    (h : splitFirst w stop current = .ok (block, none)) :
    blocksFrom w stop current = .ok [block] := by
  rw [blocksFrom]
  split
  · rename_i hsplit
    cases h.symm.trans hsplit
  · rename_i hsplit
    cases h.symm.trans hsplit
    rfl
  · rename_i hsplit
    cases h.symm.trans hsplit

theorem blocksFrom_of_some {stop current rest : Word} {block : WordRange w}
    {bs : List (WordRange w)} (h : splitFirst w stop current = .ok (block, some rest))
    (hbs : blocksFrom w stop rest = .ok bs) : blocksFrom w stop current = .ok (block :: bs) := by
  rw [blocksFrom]
  split
  · rename_i hsplit
    cases h.symm.trans hsplit
  · rename_i hsplit
    cases h.symm.trans hsplit
  · rename_i hsplit
    cases h.symm.trans hsplit
    exact bind_eq_ok.2 ⟨bs, hbs, rfl⟩

/-- The range cut into aligned blocks, in ascending order. -/
def blocks (r : WordRange w) : Checked (List (WordRange w)) :=
  blocksFrom w (widen r.hi) (widen r.lo)

/-- The logarithm of the size of an aligned block. -/
def blockBits (r : WordRange w) : Checked Nat := do
  subBits 128 (← sub (widen r.hi) (widen r.lo)).clz.toNat

/-- The number of leading bits that the numbers of the range share, when the range is one aligned
block. -/
def prefixLength? (r : WordRange w) : Checked (Option Nat) := do
  match ← r.blocks with
  | [b] => return some (← subBits w (← b.blockBits))
  | _ => return none

/-! ## Joining ranges -/

/-- The order of ranges: by their lower ends, and by their upper ends where those agree. -/
def le (r s : WordRange w) : Bool :=
  r.lo.toNat < s.lo.toNat || r.lo.toNat = s.lo.toNat && r.hi.toNat ≤ s.hi.toNat

/-- Whether a range overlaps or adjoins one that begins no later.  The number after the upper end
is only asked for when the ranges do not overlap. -/
def touches (last next : WordRange w) : Checked Bool :=
  if next.lo.toNat ≤ last.hi.toNat then .ok true
  else do return (← add (widen last.hi) 1#128) = widen next.lo

/-- Adds a range to the ranges joined so far: it becomes a part of the last of them, or is a new
one. -/
def join (joined : List (WordRange w)) (r : WordRange w) : Checked (List (WordRange w)) :=
  match joined.getLast? with
  | none => .ok [r]
  | some last => do
    if ← touches last r then
      return joined.dropLast ++ [⟨last.lo, larger last.hi r.hi⟩]
    else return joined ++ [r]

/-- The set of the numbers of some ranges. -/
def ofList (rs : List (WordRange w)) : Checked (List (WordRange w)) :=
  (rs.mergeSort le).foldlM join []

/-- The numbers of either set. -/
def union (a b : List (WordRange w)) : Checked (List (WordRange w)) := ofList (a ++ b)

/-! ## Intersection -/

/-- The numbers that two ranges have in common, if any. -/
def meet? (r s : WordRange w) : Option (WordRange w) :=
  if (larger r.lo s.lo).toNat ≤ (smaller r.hi s.hi).toNat then
    some ⟨larger r.lo s.lo, smaller r.hi s.hi⟩
  else none

/-- The numbers of both sets.  No number is computed. -/
def inter : List (WordRange w) → List (WordRange w) → List (WordRange w)
  | [], _ => []
  | _, [] => []
  | r :: rs, s :: ss =>
    if r.hi.toNat < s.hi.toNat then (r.meet? s).toList ++ inter rs (s :: ss)
    else (r.meet? s).toList ++ inter (r :: rs) ss
termination_by rs ss => rs.length + ss.length

/-! ## Difference -/

/-- The numbers from `start` on that lie below a range.  The number before the range is only asked
for when the range begins above `start`. -/
def below? (start : BitVec w) (s : WordRange w) : Checked (Option (WordRange w)) :=
  if start.toNat < s.lo.toNat then do return some ⟨start, ← previous s.lo⟩ else .ok none

/-- What the ranges of an ascending list leave of the numbers from `start` to `stop`.  The number
after a range is only asked for when the range ends below `stop`. -/
def cut (start stop : BitVec w) : List (WordRange w) → Checked (List (WordRange w))
  | [] => .ok [⟨start, stop⟩]
  | s :: ss =>
    if stop.toNat < s.lo.toNat then .ok [⟨start, stop⟩]
    else do
      let below ← below? start s
      if stop.toNat ≤ s.hi.toNat then return below.toList
      else return below.toList ++ (← cut (← next s.hi) stop ss)

/-- The numbers of the first set that are not in the second. -/
def diff : List (WordRange w) → List (WordRange w) → Checked (List (WordRange w))
  | [], _ => .ok []
  | r :: rs, ss => do
    let reaching := ss.dropWhile fun s => s.hi.toNat < r.lo.toNat
    return (← cut r.lo r.hi reaching) ++ (← diff rs reaching)

/-- The numbers of exactly one of the sets. -/
def symmDiff (a b : List (WordRange w)) : Checked (List (WordRange w)) := do
  union (← diff a b) (← diff b a)

/-- Whether every number of the second set is in the first. -/
def covers (a b : List (WordRange w)) : Checked Bool := do return (← diff b a).isEmpty

/-- The aligned blocks of all ranges of a set. -/
def setBlocks (rs : List (WordRange w)) : Checked (List (WordRange w)) := do
  return (← rs.mapM blocks).flatten

end WordRange
end RpkiOverlap
