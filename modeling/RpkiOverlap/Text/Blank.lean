/-! # Blank characters and trimming

Notations of this library tolerate white space around their parts.  A character is
*blank* when it has the Unicode property `White_Space`; the property has exactly the
ranges listed in `blankRanges`.

* `isBlank` tests one character.
* `trimStart`, `trimEnd` and `trim` drop blank characters from the ends of a text.
* `cutAt` splits a text at the first occurrence of a character.

Texts are lists of characters here.
-/
namespace RpkiOverlap.Text

/-- The code points with the property `White_Space`, as closed ranges. -/
def blankRanges : List (Nat × Nat) :=
  [(0x09, 0x0D), (0x20, 0x20), (0x85, 0x85), (0xA0, 0xA0), (0x1680, 0x1680), (0x2000, 0x200A),
    (0x2028, 0x2029), (0x202F, 0x202F), (0x205F, 0x205F), (0x3000, 0x3000)]

/-- Whether a character is white space. -/
def isBlank (c : Char) : Bool :=
  blankRanges.any fun r => r.1 ≤ c.toNat && c.toNat ≤ r.2

/-- The text from its first character that is not blank. -/
def trimStart (s : List Char) : List Char := s.dropWhile isBlank

/-- The text up to its last character that is not blank. -/
def trimEnd (s : List Char) : List Char := (s.reverse.dropWhile isBlank).reverse

/-- The text without blank characters at either end. -/
def trim (s : List Char) : List Char := trimEnd (trimStart s)

/-- A text without blanks is not trimmed. -/
theorem trim_of_forall {s : List Char} (h : ∀ c ∈ s, isBlank c = false) : trim s = s := by
  have hstart : ∀ t : List Char, (∀ c ∈ t, isBlank c = false) → t.dropWhile isBlank = t := by
    intro t ht
    cases t with
    | nil => rfl
    | cons c t => simp [ht c (by simp)]
  rw [trim, trimStart, hstart s h, trimEnd, hstart s.reverse fun c hc => h c (by simpa using hc),
    List.reverse_reverse]

/-- A blank in front of a text is dropped. -/
theorem trim_cons_of_isBlank {c : Char} {s : List Char} (h : isBlank c = true) :
    trim (c :: s) = trim s := by
  simp [trim, trimStart, h]

/-- The parts before and after the first occurrence of a character, which belongs to
neither; `none` when the character does not occur. -/
def cutAt (sep : Char) : List Char → Option (List Char × List Char)
  | [] => none
  | c :: r =>
    if c = sep then some ([], r)
    else (cutAt sep r).map fun p => (c :: p.1, p.2)

/-- A text cut at a character is its first part, the character and its second part, and the
first part is free of the character. -/
theorem cutAt_eq_some {sep : Char} {s a b : List Char} (h : cutAt sep s = some (a, b)) :
    s = a ++ sep :: b ∧ sep ∉ a := by
  induction s generalizing a with
  | nil => simp [cutAt] at h
  | cons c r ih =>
    by_cases hc : c = sep
    · simp only [cutAt, hc, ↓reduceIte, Option.some.injEq, Prod.mk.injEq] at h
      obtain ⟨rfl, rfl⟩ := h
      simp [hc]
    · simp only [cutAt, hc, ↓reduceIte, Option.map_eq_some_iff] at h
      obtain ⟨⟨a', b'⟩, hp, hab⟩ := h
      obtain ⟨rfl, rfl⟩ := Prod.mk.inj hab
      obtain ⟨rfl, hn⟩ := ih hp
      exact ⟨rfl, by simp [hn, Ne.symm hc]⟩

/-- A text is cut at the first occurrence of a character. -/
theorem cutAt_append {sep : Char} {a b : List Char} (h : sep ∉ a) :
    cutAt sep (a ++ sep :: b) = some (a, b) := by
  induction a with
  | nil => simp [cutAt]
  | cons c a ih =>
    obtain ⟨hc, ha⟩ := not_or.1 (fun h' => h (List.mem_cons.2 h'))
    simp [cutAt, Ne.symm hc, ih ha]

/-- A text is cut nowhere exactly when it is free of the character. -/
theorem cutAt_eq_none_iff {sep : Char} {s : List Char} : cutAt sep s = none ↔ sep ∉ s := by
  induction s with
  | nil => simp [cutAt]
  | cons c r ih =>
    by_cases hc : c = sep
    · simp [cutAt, hc]
    · simp [cutAt, hc, ih, Ne.symm hc]

end RpkiOverlap.Text
