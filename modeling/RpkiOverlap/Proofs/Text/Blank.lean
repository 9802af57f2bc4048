import RpkiOverlap.Text.Blank
import Mathlib.Data.List.TakeWhile

/-! # Trimmed texts

`trim` is the inverse of putting blanks around a text that has none at its ends.

* `IsTrimmed` says that a text has no blank at either end, and `isTrimmed_trim` that what `trim`
  gives is such a text.
* `exists_eq_trim` puts the blanks back that were dropped, and `trim_eq` drops those that are put
  around a trimmed text.  Together they say that `trim` gives the only trimmed text from which its
  argument can be made by adding blanks.
-/
namespace RpkiOverlap.Text

/-- Every character of a text is blank. -/
def Blank (s : List Char) : Prop := ∀ c ∈ s, isBlank c = true

/-- A text neither begins nor ends with a blank. -/
structure IsTrimmed (s : List Char) : Prop where
  head : ∀ c ∈ s.head?, isBlank c = false
  last : ∀ c ∈ s.getLast?, isBlank c = false

theorem Blank.reverse {s : List Char} (h : Blank s) : Blank s.reverse :=
  fun c hc => h c (List.mem_reverse.1 hc)

theorem blank_takeWhile (s : List Char) : Blank (s.takeWhile isBlank) :=
  fun _ hc => List.mem_takeWhile_imp hc

/-- What is left when the blanks in front are dropped does not begin with a blank. -/
theorem isBlank_of_mem_head?_dropWhile {s : List Char} {c : Char}
    (h : c ∈ (s.dropWhile isBlank).head?) : isBlank c = false := by
  have := List.head?_dropWhile_not isBlank s
  rwa [Option.mem_def.1 h] at this

/-- Exactly the blanks in front of a text that does not begin with one are dropped. -/
theorem dropWhile_append {before s : List Char} (hbefore : Blank before)
    (h : ∀ c ∈ s.head?, isBlank c = false) : (before ++ s).dropWhile isBlank = s := by
  rw [List.dropWhile_append_of_pos hbefore]
  cases s with
  | nil => rfl
  | cons c s =>
    refine List.dropWhile_cons_of_neg ?_
    simp [h c rfl]

/-- A text is its trimmed text with blanks around it. -/
theorem exists_eq_trim (s : List Char) :
    ∃ before after, s = before ++ trim s ++ after ∧ Blank before ∧ Blank after := by
  refine ⟨s.takeWhile isBlank, ((trimStart s).reverse.takeWhile isBlank).reverse, ?_,
    blank_takeWhile s, (blank_takeWhile _).reverse⟩
  have hend : trim s ++ ((trimStart s).reverse.takeWhile isBlank).reverse = trimStart s := by
    rw [trim, trimEnd, ← List.reverse_append, List.takeWhile_append_dropWhile,
      List.reverse_reverse]
  rw [List.append_assoc, hend, trimStart, List.takeWhile_append_dropWhile]

/-- Blanks around a trimmed text are dropped, and nothing else. -/
theorem trim_eq {before s after : List Char} (h : IsTrimmed s) (hbefore : Blank before)
    (hafter : Blank after) : trim (before ++ s ++ after) = s := by
  have hend : trimEnd (s ++ after) = s := by
    rw [trimEnd, List.reverse_append, dropWhile_append hafter.reverse, List.reverse_reverse]
    simpa using h.last
  cases s with
  | nil =>
    have hstart : trimStart (before ++ after) = [] :=
      List.dropWhile_eq_nil_iff.2 fun c hc =>
        (List.mem_append.1 hc).elim (hbefore c) (hafter c)
    rw [List.append_nil, trim, hstart]
    rfl
  | cons c s =>
    rw [List.append_assoc, trim, trimStart, dropWhile_append hbefore, hend]
    exact fun d hd => h.head d hd

theorem isTrimmed_trim (s : List Char) : IsTrimmed (trim s) where
  last c hc := by
    rw [trim, trimEnd, List.getLast?_reverse] at hc
    exact isBlank_of_mem_head?_dropWhile hc
  head c hc := by
    -- the trimmed text is a nonempty beginning of what is left when the blanks in front are dropped
    have hprefix : trim s <+: trimStart s := by
      have := List.reverse_prefix.2 (List.dropWhile_suffix (l := (trimStart s).reverse) isBlank)
      rwa [List.reverse_reverse] at this
    obtain ⟨after, hafter⟩ := hprefix
    refine isBlank_of_mem_head?_dropWhile (s := s) ?_
    rw [← trimStart, ← hafter, List.head?_append]
    simp [Option.mem_def.1 hc]

theorem IsTrimmed.trim_eq_self {s : List Char} (h : IsTrimmed s) : trim s = s := by
  simpa using trim_eq h (List.forall_mem_nil _) (List.forall_mem_nil _)

/-- Blanks around any text are dropped. -/
theorem trim_append_append {before after : List Char} (s : List Char) (hbefore : Blank before)
    (hafter : Blank after) : trim (before ++ s ++ after) = trim s := by
  obtain ⟨front, back, heq, hfront, hback⟩ := exists_eq_trim s
  calc trim (before ++ s ++ after)
      = trim (before ++ (front ++ trim s ++ back) ++ after) :=
        congrArg (fun t => trim (before ++ t ++ after)) heq
    _ = trim ((before ++ front) ++ trim s ++ (back ++ after)) := by
        simp only [List.append_assoc]
    _ = trim s := trim_eq (isTrimmed_trim s) (List.forall_mem_append.2 ⟨hbefore, hfront⟩)
        (List.forall_mem_append.2 ⟨hback, hafter⟩)

/-- A trimmed text begins with no blanks, and ends in none. -/
theorem IsTrimmed.eq_nil_of_prefix {before s : List Char} (h : IsTrimmed (before ++ s))
    (hblank : Blank before) : before = [] := by
  cases before with
  | nil => rfl
  | cons c before =>
    have hc := h.head c rfl
    rw [hblank c List.mem_cons_self] at hc
    cases hc

theorem IsTrimmed.eq_nil_of_suffix {s after : List Char} (h : IsTrimmed (s ++ after))
    (hblank : Blank after) : after = [] := by
  rcases after.eq_nil_or_concat with hnil | ⟨after, c, rfl⟩
  · exact hnil
  · have hc := h.last c (by simp)
    rw [hblank c (by simp)] at hc
    cases hc

/-- A character that is no blank is left. -/
theorem mem_trim {s : List Char} {c : Char} (hc : c ∈ s) (h : isBlank c = false) : c ∈ trim s := by
  obtain ⟨before, after, heq, hbefore, hafter⟩ := exists_eq_trim s
  have hblank : ∀ {t}, Blank t → c ∉ t := by
    intro t ht hmem
    rw [ht c hmem] at h
    cases h
  rw [heq, List.mem_append, List.mem_append] at hc
  rcases hc with (hc | hc) | hc
  · exact absurd hc (hblank hbefore)
  · exact hc
  · exact absurd hc (hblank hafter)

/-- A text without blanks is trimmed. -/
theorem isTrimmed_of_forall {s : List Char} (h : ∀ c ∈ s, isBlank c = false) : IsTrimmed s where
  head c hc := h c (List.mem_of_mem_head? hc)
  last c hc := h c (List.mem_of_mem_getLast? hc)

/-- Nothing is left of a text exactly when it is blank. -/
theorem trim_eq_nil_iff {s : List Char} : trim s = [] ↔ Blank s := by
  constructor
  · intro h
    obtain ⟨before, after, heq, hbefore, hafter⟩ := exists_eq_trim s
    rw [heq, h, List.append_nil]
    exact List.forall_mem_append.2 ⟨hbefore, hafter⟩
  · intro h
    simpa using trim_eq (isTrimmed_of_forall (List.forall_mem_nil _)) h (List.forall_mem_nil _)

end RpkiOverlap.Text
