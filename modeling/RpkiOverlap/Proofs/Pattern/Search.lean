import Mathlib.Logic.Function.Iterate
import RpkiOverlap.Proofs.Pattern.Sound

/-! # The search finds what fits

The search for an expression keeps a set of places as the bits of a number, and follows the
expression from all of them at once.  It reaches a place exactly if the expression fits between
that place and one of those it started from (`Carries.reach`).  So it tells whether the expression
fits anywhere (`Expr.fits_iff`).

A repetition without a bound is followed for only as many times as the text has places.  That
loses nothing: fits that take no character can be left out (`Times.shorten`).
-/
namespace RpkiOverlap

/-! ## Sets of places -/

theorem testBit_placesWhere (p : Option Char → Option Char → Bool) (before : Option Char)
    (text : List Char) (i : Nat) :
    (placesWhere p before text).testBit i =
      (decide (i ≤ text.length) && p (if i = 0 then before else text[i - 1]?) text[i]?) := by
  induction text generalizing before i with
  | nil =>
    cases i with
    | zero => cases h : p before none <;> simp [placesWhere, h]
    | succ i => cases h : p before none <;> simp [placesWhere, h, Nat.testBit_succ]
  | cons c text ih =>
    cases i with
    | zero => cases h : p before (some c) <;> simp [placesWhere, h]
    | succ i =>
      have htail : (placesWhere p before (c :: text)).testBit (i + 1) =
          (placesWhere p (some c) text).testBit i := by
        rw [Nat.testBit_succ, placesWhere]
        congr 1
        cases p before (some c) <;> simp only [Bool.toNat_true, Bool.toNat_false] <;> omega
      rw [htail, ih]
      cases i <;> simp

/-- A set of places of a text. -/
def OfText (text : List Char) (s : Nat) : Prop := ∀ i, s.testBit i = true → i ≤ text.length

/-- Whether a function leads from every set of places to those that a relation leads to. -/
def Carries (text : List Char) (f : Nat → Nat) (R : Nat → Nat → Prop) : Prop :=
  ∀ s, OfText text s → ∀ k, (f s).testBit k = true ↔ ∃ i, s.testBit i = true ∧ R i k

namespace Expr
variable {text : List Char} {e : Expr} {i j k m n : Nat}

theorem before?_eq (text : List Char) (i : Nat) :
    before? text i = if i = 0 then none else text[i - 1]? := by
  cases i <;> rfl

theorem Spans.le (h : Spans text e i k) : i ≤ k ∧ k ≤ text.length := by
  induction h with
  | empty hi | look hi _ | stop hi => exact ⟨Nat.le_refl _, hi⟩
  | set hc _ => exact ⟨Nat.le_succ _, (List.getElem?_eq_some_iff.1 hc).1⟩
  | cat _ _ iha ihb | again _ _ _ iha ihb => exact ⟨Nat.le_trans iha.1 ihb.1, ihb.2⟩
  | left _ ih | right _ ih => exact ih

/-! ## Repetitions -/

/-- Whether an expression fits a number of times, one after another. -/
inductive Times (text : List Char) (e : Expr) : Nat → Nat → Nat → Prop where
  | zero {i : Nat} : i ≤ text.length → Times text e 0 i i
  | succ {n i j k : Nat} : Spans text e i j → Times text e n j k → Times text e (n + 1) i k

namespace Times

theorem le (h : Times text e n i k) : i ≤ k ∧ k ≤ text.length := by
  induction h with
  | zero hi => exact ⟨Nat.le_refl _, hi⟩
  | succ he _ ih => exact ⟨Nat.le_trans he.le.1 ih.1, ih.2⟩

theorem add (h : Times text e m i j) (h' : Times text e n j k) : Times text e (m + n) i k := by
  induction h with
  | zero _ => rwa [Nat.zero_add]
  | succ he _ ih =>
    rw [Nat.succ_add_eq_add_succ]
    exact .succ he (ih h')

theorem cut (h : Times text e (m + n) i k) : ∃ j, Times text e m i j ∧ Times text e n j k := by
  induction m generalizing i with
  | zero =>
    rw [Nat.zero_add] at h
    exact ⟨i, .zero (Nat.le_trans h.le.1 h.le.2), h⟩
  | succ m ih =>
    rw [Nat.succ_add_eq_add_succ] at h
    cases h with
    | succ he hrest =>
      obtain ⟨j, hm, hn⟩ := ih hrest
      exact ⟨j, .succ he hm, hn⟩

/-- Fits that take no character can be left out. -/
theorem shorten (h : Times text e n i k) : ∃ m, m ≤ k - i ∧ Times text e m i k := by
  induction h with
  | zero hi => exact ⟨0, Nat.zero_le _, .zero hi⟩
  | @succ n i j k he hrest ih =>
    obtain ⟨m, hm, hshort⟩ := ih
    -- a fit that takes a character leaves one less for the others
    rcases Nat.eq_or_lt_of_le he.le.1 with rfl | hij
    · exact ⟨m, hm, hshort⟩
    · have hjk := hrest.le.1
      exact ⟨m + 1, by omega, .succ he hshort⟩

end Times

/-- A repetition fits where the expression does so a number of times within the bounds. -/
theorem spans_rep_iff {min : Nat} {max : Option Nat} :
    Spans text (.rep e min max) i k ↔
      ∃ n, min ≤ n ∧ (∀ m ∈ max, n ≤ m) ∧ Times text e n i k := by
  constructor
  · intro h
    -- the number of fits is that of the rules for one more of them
    generalize hx : Expr.rep e min max = x at h
    induction h generalizing min max with
    | stop hi =>
      cases hx
      exact ⟨0, Nat.le_refl _, fun _ _ => Nat.zero_le _, .zero hi⟩
    | again hmax he _ _ ih =>
      cases hx
      obtain ⟨n, hmin, hle, hn⟩ := ih rfl
      refine ⟨n + 1, Nat.sub_le_iff_le_add.1 hmin, fun m hm => ?_, .succ he hn⟩
      have hpred := hle (m - 1) (Option.mem_map_of_mem _ hm)
      have hpos : m ≠ 0 := fun hzero => hmax (hzero ▸ hm)
      omega
    | _ => cases hx
  · rintro ⟨n, hmin, hle, hn⟩
    induction hn generalizing min max with
    | zero hi =>
      obtain rfl := Nat.le_zero.1 hmin
      exact .stop hi
    | succ he _ ih =>
      refine .again ?_ he (ih (Nat.sub_le_iff_le_add.2 hmin) fun m hm => ?_)
      · rintro rfl
        exact absurd (hle 0 rfl) (Nat.not_succ_le_zero _)
      · obtain ⟨m', hm', rfl⟩ := Option.map_eq_some_iff.1 hm
        have := hle m' hm'
        omega

end Expr

/-! ## Going along an expression -/

theorem reachAfter_eq_iterate (step : Nat → Nat) (n s : Nat) :
    reachAfter step n s = step^[n] s := by
  induction n generalizing s with
  | zero => rfl
  | succ n ih =>
    rw [reachAfter, Function.iterate_succ_apply]
    split
    · rename_i hfix
      rw [hfix, Function.iterate_fixed hfix]
    · exact ih _

/-- It makes no difference that the steps stop when they lead to nothing else. -/
theorem reachAfter_succ (step : Nat → Nat) (n s : Nat) :
    reachAfter step (n + 1) s = reachAfter step n (step s) := by
  rw [reachAfter_eq_iterate, Function.iterate_succ_apply, ← reachAfter_eq_iterate]

theorem reachWithin_eq_reachAfter (step : Nat → Nat) (n s : Nat) :
    reachWithin step n s = reachAfter (fun s => s ||| step s) n s := by
  induction n generalizing s with
  | zero => rfl
  | succ n ih => rw [reachWithin, reachAfter, ih]

theorem reachWithin_succ (step : Nat → Nat) (n s : Nat) :
    reachWithin step (n + 1) s = reachWithin step n (s ||| step s) := by
  rw [reachWithin_eq_reachAfter, reachAfter_succ, ← reachWithin_eq_reachAfter]

namespace Carries
open RpkiOverlap.Expr (Spans Times)
variable {text : List Char} {f g : Nat → Nat} {R S : Nat → Nat → Prop}

theorem ofText (h : Carries text f R) (hR : ∀ {i k}, R i k → k ≤ text.length) {s : Nat}
    (hs : OfText text s) : OfText text (f s) := by
  intro k hk
  obtain ⟨i, -, hik⟩ := (h s hs k).1 hk
  exact hR hik

theorem comp (hf : Carries text f R) (hR : ∀ {i k}, R i k → k ≤ text.length)
    (hg : Carries text g S) : Carries text (fun s => g (f s)) fun i k => ∃ j, R i j ∧ S j k := by
  intro s hs k
  rw [hg (f s) (hf.ofText hR hs) k]
  constructor
  · rintro ⟨j, hj, hjk⟩
    obtain ⟨i, hi, hij⟩ := (hf s hs j).1 hj
    exact ⟨i, hi, j, hij, hjk⟩
  · rintro ⟨i, hi, j, hij, hjk⟩
    exact ⟨j, (hf s hs j).2 ⟨i, hi, hij⟩, hjk⟩

theorem or (hf : Carries text f R) (hg : Carries text g S) :
    Carries text (fun s => f s ||| g s) fun i k => R i k ∨ S i k := by
  intro s hs k
  rw [Nat.testBit_or, Bool.or_eq_true, hf s hs k, hg s hs k, ← exists_or]
  simp only [and_or_left]

theorem congr (h : Carries text f R) (hRS : ∀ i k, R i k ↔ S i k) : Carries text f S := by
  intro s hs k
  simp only [h s hs k, hRS]

theorem stay : Carries text id fun i k => i = k ∧ i ≤ text.length := by
  intro s hs k
  constructor
  · intro hk
    exact ⟨k, hk, rfl, hs k hk⟩
  · rintro ⟨i, hi, rfl, -⟩
    exact hi

section
variable {e : Expr}

theorem reachAfter (h : Carries text f (Spans text e)) (n : Nat) :
    Carries text (reachAfter f n) (Times text e n) := by
  induction n with
  | zero =>
    refine stay.congr fun i k => ⟨?_, ?_⟩
    · rintro ⟨rfl, hi⟩
      exact .zero hi
    · rintro ⟨hi⟩
      exact ⟨rfl, hi⟩
  | succ n ih =>
    have hcomp := h.comp (fun hik => hik.le.2) ih
    intro s hs k
    rw [reachAfter_succ, hcomp s hs k]
    constructor
    · rintro ⟨i, hi, j, hij, hjk⟩
      exact ⟨i, hi, .succ hij hjk⟩
    · rintro ⟨i, hi, hik⟩
      cases hik with
      | succ hij hjk => exact ⟨i, hi, _, hij, hjk⟩

theorem reachWithin (h : Carries text f (Spans text e)) (n : Nat) :
    Carries text (reachWithin f n) fun i k => ∃ m ≤ n, Times text e m i k := by
  induction n with
  | zero =>
    refine stay.congr fun i k => ⟨?_, ?_⟩
    · rintro ⟨rfl, hi⟩
      exact ⟨0, Nat.le_refl _, .zero hi⟩
    · rintro ⟨m, hm, hik⟩
      obtain rfl := Nat.le_zero.1 hm
      cases hik with
      | zero hi => exact ⟨rfl, hi⟩
  | succ n ih =>
    -- one round keeps the places and adds those that one more fit leads to
    have hor : Carries text (fun s => s ||| f s) _ := stay.or h
    have hle : ∀ {i k}, (i = k ∧ i ≤ text.length) ∨ Spans text e i k → k ≤ text.length := by
      rintro i k (⟨rfl, hi⟩ | hik)
      · exact hi
      · exact hik.le.2
    have hcomp := hor.comp hle ih
    intro s hs k
    rw [reachWithin_succ, hcomp s hs k]
    constructor
    · rintro ⟨i, hi, j, ⟨rfl, -⟩ | hij, m, hm, hjk⟩
      · exact ⟨i, hi, m, Nat.le_succ_of_le hm, hjk⟩
      · exact ⟨i, hi, m + 1, Nat.succ_le_succ hm, .succ hij hjk⟩
    · rintro ⟨i, hi, m, hm, hik⟩
      cases hik with
      | zero hle => exact ⟨k, hi, k, .inl ⟨rfl, hle⟩, 0, Nat.zero_le _, .zero hle⟩
      | succ hij hjk => exact ⟨i, hi, _, .inr hij, _, Nat.le_of_succ_le_succ hm, hjk⟩

/-- A repetition is followed for the least number of times and then for more of them: as many as
are allowed, or without a bound at least as many as there are characters. -/
theorem rep (h : Carries text f (Spans text e)) {min more : Nat} {max : Option Nat}
    (hsome : ∀ m ∈ max, min + more = m) (hnone : max = none → text.length ≤ more) :
    Carries text (fun s => RpkiOverlap.reachWithin f more (RpkiOverlap.reachAfter f min s))
      (Spans text (.rep e min max)) := by
  refine ((h.reachAfter min).comp (fun hik => hik.le.2) (h.reachWithin more)).congr fun i k => ?_
  rw [Expr.spans_rep_iff]
  constructor
  · rintro ⟨j, hij, m, hm, hjk⟩
    refine ⟨min + m, Nat.le_add_right _ _, fun bound hbound => ?_, hij.add hjk⟩
    rw [← hsome bound hbound]
    exact Nat.add_le_add_left hm min
  · rintro ⟨n, hmin, hmax, hik⟩
    obtain ⟨m, rfl⟩ := Nat.exists_eq_add_of_le hmin
    obtain ⟨j, hij, hjk⟩ := hik.cut
    cases max with
    | some bound =>
      have hbound := hmax bound rfl
      rw [← hsome bound rfl] at hbound
      exact ⟨j, hij, m, Nat.le_of_add_le_add_left hbound, hjk⟩
    | none =>
      -- there may be more fits than rounds, but no more than characters are needed
      obtain ⟨m', hm', hshort⟩ := hjk.shorten
      have hlength : k - j ≤ text.length := Nat.le_trans (Nat.sub_le k j) hjk.le.2
      exact ⟨j, hij, m', Nat.le_trans (Nat.le_trans hm' hlength) (hnone rfl), hshort⟩

end

/-- A set and a look are tests of the neighbours of a place. -/
theorem and_placesWhere (p : Option Char → Option Char → Bool) :
    Carries text (fun s => s &&& placesWhere p none text) fun i k =>
      i = k ∧ i ≤ text.length ∧ p (Expr.before? text i) text[i]? = true := by
  intro s _ k
  rw [Nat.testBit_and, Bool.and_eq_true, testBit_placesWhere, Bool.and_eq_true,
    decide_eq_true_iff, ← Expr.before?_eq]
  constructor
  · rintro ⟨hk, hle, hp⟩
    exact ⟨k, hk, rfl, hle, hp⟩
  · rintro ⟨i, hi, rfl, hle, hp⟩
    exact ⟨hi, hle, hp⟩

theorem double (h : Carries text f R) :
    Carries text (fun s => 2 * f s) fun i k => ∃ j, R i j ∧ k = j + 1 := by
  intro s hs k
  cases k with
  | zero => simp
  | succ k =>
    rw [Nat.testBit_succ, Nat.mul_div_cancel_left (f s) (by decide), h s hs k]
    simp only [Nat.succ.injEq, exists_eq_right']

/-- **The places that are reached are those up to which the expression fits.** -/
theorem reach {e : Expr} (h : e.Ordered) : Carries text (e.route text).reach (Spans text e) := by
  induction e with
  | empty =>
    refine stay.congr fun i k => ⟨?_, fun hik => ?_⟩
    · rintro ⟨rfl, hi⟩
      exact .empty hi
    · cases hik with
      | empty hi => exact ⟨rfl, hi⟩
  | set cs =>
    refine (and_placesWhere fun _ after => after.any cs.has).double.congr fun i k =>
      ⟨?_, fun hik => ?_⟩
    · rintro ⟨j, ⟨rfl, -, hany⟩, rfl⟩
      obtain ⟨c, hc, hhas⟩ := (Option.any_eq_true _ _).1 hany
      exact .set hc hhas
    · have hlt := hik.le.2
      cases hik with
      | set hc hhas =>
        exact ⟨i, ⟨rfl, Nat.le_of_succ_le hlt, (Option.any_eq_true _ _).2 ⟨_, hc, hhas⟩⟩, rfl⟩
  | look l =>
    refine (and_placesWhere fun before after => l.holds before after).congr fun i k =>
      ⟨?_, fun hik => ?_⟩
    · rintro ⟨rfl, hi, hl⟩
      exact .look hi hl
    · cases hik with
      | look hi hl => exact ⟨rfl, hi, hl⟩
  | cat a b iha ihb =>
    refine ((iha h.1).comp (fun hik => hik.le.2) (ihb h.2)).congr fun i k => ⟨?_, fun hik => ?_⟩
    · rintro ⟨j, hij, hjk⟩
      exact .cat hij hjk
    · cases hik with
      | cat hij hjk => exact ⟨_, hij, hjk⟩
  | alt a b iha ihb =>
    refine ((iha h.1).or (ihb h.2)).congr fun i k => ⟨?_, fun hik => ?_⟩
    · rintro (ha | hb)
      · exact .left ha
      · exact .right hb
    · cases hik with
      | left ha => exact .inl ha
      | right hb => exact .inr hb
  | rep e min max ih =>
    cases max with
    | none => exact (ih h.1).rep (fun m hm => nomatch hm) fun _ => Nat.le_succ _
    | some max =>
      have hle : min ≤ max := h.2 max rfl
      refine (ih h.1).rep (fun m hm => ?_) fun hnone => nomatch hnone
      obtain rfl := Option.some.inj hm
      exact Nat.add_sub_of_le hle

end Carries

/-- **The search tells whether an expression fits anywhere in a text.** -/
theorem Expr.fits_iff {e : Expr} (h : e.Ordered) (text : List Char) :
    e.fits text = true ↔ ∃ i k, Spans text e i k := by
  have hall : ∀ i, (2 ^ (text.length + 1) - 1).testBit i = true ↔ i ≤ text.length := by
    intro i
    rw [Nat.testBit_two_pow_sub_one, decide_eq_true_iff, Nat.lt_succ_iff]
  have hreach := Carries.reach h (2 ^ (text.length + 1) - 1) fun i hi => (hall i).1 hi
  rw [fits, bne_iff_ne]
  constructor
  · intro hne
    obtain ⟨k, hk⟩ := Nat.exists_testBit_of_ne_zero hne
    obtain ⟨i, -, hik⟩ := (hreach k).1 hk
    exact ⟨i, k, hik⟩
  · rintro ⟨i, k, hik⟩ hzero
    have hk := (hreach k).2 ⟨i, (hall i).2 (Nat.le_trans hik.le.1 hik.le.2), hik⟩
    rw [hzero, Nat.zero_testBit] at hk
    cases hk

end RpkiOverlap
