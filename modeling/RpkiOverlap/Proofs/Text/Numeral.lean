import RpkiOverlap.Text.Blank
import RpkiOverlap.Text.Numeral

/-! # Numerals read back

What is written as a numeral is read as the number that was written: `readNat_decimal` for decimal
numerals of so many bits, `ofDigitChars_padded` for those that are filled up with zeros, and
`foldlM_hexadecimal` for hexadecimal ones.  `readNat_eq_ok_iff` says what else is read as a number:
`IsNumeral`, a sign that may be missing and any digits, as long as their value fits.
-/
namespace RpkiOverlap.Text

/-! ## Decimal numerals -/

/-- A decimal digit has its usual value. -/
theorem digitValue?_of_isDigit {c : Char} (h : c.isDigit = true) :
    digitValue? 10 c = some (c.toNat - 48) := by
  have hbounds : 48 ≤ c.toNat ∧ c.toNat ≤ 57 := by
    simpa [Char.isDigit, UInt32.le_iff_toNat_le] using h
  have hrange : '0' ≤ c ∧ c ≤ '9' := by
    simpa [Char.le_def, UInt32.le_iff_toNat_le] using hbounds
  have hlt : c.toNat - 48 < 10 := by omega
  simp only [digitValue?, hrange, and_self, ↓reduceIte, hlt]

/-- Further digits make a numeral no smaller. -/
theorem le_ofDigitChars (cs : List Char) (v : Nat) : v ≤ Nat.ofDigitChars 10 cs v := by
  induction cs generalizing v with
  | nil => simp
  | cons c cs ih =>
    rw [Nat.ofDigitChars_cons]
    have := ih (10 * v + (c.toNat - '0'.toNat))
    omega

/-- Digits are read as long as the number fits. -/
theorem readDigits_of_isDigit {bits : Nat} {cs : List Char} {v : Fin (2 ^ bits)}
    (hcs : ∀ c ∈ cs, c.isDigit = true) (h : Nat.ofDigitChars 10 cs v < 2 ^ bits) :
    readDigits v cs = .ok ⟨Nat.ofDigitChars 10 cs v, h⟩ := by
  induction cs generalizing v with
  | nil => simp [readDigits]
  | cons c cs ih =>
    obtain ⟨hc, hcs⟩ := List.forall_mem_cons.1 hcs
    have hle : 10 * v.val + (c.toNat - 48) < 2 ^ bits :=
      Nat.lt_of_le_of_lt (le_ofDigitChars cs _) h
    simp only [readDigits, digitValue?_of_isDigit hc, dif_pos hle]
    exact ih (v := ⟨10 * v.val + (c.toNat - 48), hle⟩) hcs h

theorem decimal_ne_nil (n : Nat) : decimal n ≠ [] := Nat.toDigits_ne_nil

theorem ofDigitChars_decimal (n : Nat) : Nat.ofDigitChars 10 (decimal n) 0 = n :=
  Nat.ofDigitChars_ten_toDigits

/-- A numeral that fits is read as its number. -/
theorem readNat_decimal {bits n : Nat} (h : n < 2 ^ bits) :
    readNat bits (decimal n) = .ok ⟨n, h⟩ := by
  have hdigits : ∀ c ∈ decimal n, c.isDigit = true := fun c => isDigit_of_mem_decimal
  have hread : readDigits ⟨0, Nat.two_pow_pos bits⟩ (decimal n) = .ok ⟨n, h⟩ := by
    have hvalue := ofDigitChars_decimal n
    rw [readDigits_of_isDigit hdigits (by rwa [hvalue])]
    simp only [hvalue]
  obtain ⟨c, cs, hcs⟩ := List.exists_cons_of_ne_nil (decimal_ne_nil n)
  have hplus : c ≠ '+' := by
    rintro rfl
    exact absurd (hdigits '+' (by simp [hcs])) (by decide)
  rw [hcs] at hread ⊢
  rw [readNat, hread]
  · simp
  · exact fun h => hplus (List.cons.inj h).1
  · exact fun _ h => hplus (List.cons.inj h).1

/-- Only the numeral of zero begins with a zero. -/
theorem eq_zero_of_head?_decimal {n : Nat} (h : (decimal n).head? = some '0') : n = 0 := by
  induction n using Nat.strongRecOn with
  | ind n ih =>
    by_cases hn : n < 10
    · rw [decimal, Nat.toDigits_of_lt_base hn] at h
      simpa using h
    · have hcut : decimal n = decimal (n / 10) ++ [Nat.digitChar (n % 10)] :=
        Nat.toDigits_of_base_le (by decide) (by omega)
      obtain ⟨c, cs, hcs⟩ := List.exists_cons_of_ne_nil (decimal_ne_nil (n / 10))
      have := ih (n / 10) (by omega) (by simpa [hcut, hcs] using h)
      omega

theorem length_decimal_le {n k : Nat} (hk : 0 < k) (h : n < 10 ^ k) : (decimal n).length ≤ k :=
  (Nat.length_toDigits_le_iff (by decide) hk).2 h

/-! ## What is read as a numeral -/

/-- A sign that may be missing, and one or more decimal digits of the given value. -/
def IsNumeral (s : List Char) (n : Nat) : Prop :=
  ∃ digits, (s = digits ∨ s = '+' :: digits) ∧ digits ≠ [] ∧
    (∀ c ∈ digits, c.isDigit = true) ∧ Nat.ofDigitChars 10 digits 0 = n

/-- Only decimal digits have a value in base ten. -/
theorem isDigit_of_digitValue? {c : Char} {d : Nat} (h : digitValue? 10 c = some d) :
    c.isDigit = true := by
  unfold digitValue? at h
  rw [Option.ite_none_right_eq_some] at h
  obtain ⟨hlt, -⟩ := h
  by_cases hrange : '0' ≤ c ∧ c ≤ '9'
  · simpa [Char.isDigit, Char.le_def] using hrange
  · -- the letters begin at ten
    simp only [Char.le_def, UInt32.le_iff_toNat_le, Char.reduceVal, UInt32.reduceToNat,
      Char.toNat] at hlt hrange
    split at hlt
    · contradiction
    · split at hlt
      · omega
      · split at hlt <;> omega

theorem readDigits_eq_ok_iff {bits : Nat} {cs : List Char} {v n : Fin (2 ^ bits)} :
    readDigits v cs = .ok n ↔
      (∀ c ∈ cs, c.isDigit = true) ∧ Nat.ofDigitChars 10 cs v = n.val := by
  constructor
  · intro h
    induction cs generalizing v with
    | nil =>
      rw [readDigits, Except.ok.injEq] at h
      simp [h]
    | cons c cs ih =>
      rw [readDigits] at h
      split at h
      · cases h
      · rename_i d hd
        have hc := isDigit_of_digitValue? hd
        rw [digitValue?_of_isDigit hc, Option.some.injEq] at hd
        subst hd
        split at h
        · obtain ⟨hcs, hvalue⟩ := ih h
          exact ⟨List.forall_mem_cons.2 ⟨hc, hcs⟩, hvalue⟩
        · cases h
  · rintro ⟨hcs, hvalue⟩
    rw [readDigits_of_isDigit hcs (hvalue ▸ n.isLt)]
    exact congrArg Except.ok (Fin.ext hvalue)

/-- Exactly the numerals of which the value fits are read. -/
theorem readNat_eq_ok_iff {bits : Nat} {s : List Char} {n : Fin (2 ^ bits)} :
    readNat bits s = .ok n ↔ IsNumeral s n := by
  have hplus : ('+' : Char).isDigit = false := by decide
  unfold readNat IsNumeral
  split
  · simp
  · -- a sign alone: its one digit would be the sign
    refine iff_of_false (by simp) ?_
    rintro ⟨digits, rfl | heq, hne, hdigits, -⟩
    · simp [hplus] at hdigits
    · exact hne (List.cons.inj heq).2.symm
  · rename_i r hne
    rw [readDigits_eq_ok_iff]
    constructor
    · rintro ⟨hdigits, hvalue⟩
      exact ⟨r, .inr rfl, hne, hdigits, hvalue⟩
    · rintro ⟨digits, rfl | heq, -, hdigits, hvalue⟩
      · simp [hplus] at hdigits
      · rw [(List.cons.inj heq).2]
        exact ⟨hdigits, hvalue⟩
  · rename_i hnil _ hsign
    rw [readDigits_eq_ok_iff]
    constructor
    · rintro ⟨hdigits, hvalue⟩
      exact ⟨s, .inl rfl, hnil, hdigits, hvalue⟩
    · rintro ⟨digits, rfl | rfl, -, hdigits, hvalue⟩
      · exact ⟨hdigits, hvalue⟩
      · exact absurd rfl (hsign digits)

/-- A decimal digit is a hexadecimal one. -/
theorem isSome_digitValue?_of_isDigit {c : Char} (h : c.isDigit = true) :
    (digitValue? 16 c).isSome = true := by
  have hdecimal := digitValue?_of_isDigit h
  unfold digitValue? at hdecimal ⊢
  have hrange : '0' ≤ c ∧ c ≤ '9' := by simpa [Char.isDigit, Char.le_def] using h
  simp only [hrange, and_self, ↓reduceIte, Option.ite_none_right_eq_some] at hdecimal ⊢
  rw [if_pos (by omega)]
  rfl

/-- A numeral is made of decimal digits and the sign. -/
theorem IsNumeral.mem {s : List Char} {n : Nat} (h : IsNumeral s n) {c : Char} (hc : c ∈ s) :
    c = '+' ∨ c.isDigit = true := by
  obtain ⟨digits, rfl | rfl, -, hdigits, -⟩ := h
  · exact .inr (hdigits c hc)
  · exact (List.mem_cons.1 hc).imp_right (hdigits c)

theorem IsNumeral.ne_nil {s : List Char} {n : Nat} (h : IsNumeral s n) : s ≠ [] := by
  obtain ⟨digits, rfl | rfl, hne, -⟩ := h
  · exact hne
  · simp

/-! ## Numerals with leading zeros -/

theorem isDigit_of_mem_padded {width n : Nat} {c : Char} (h : c ∈ padded width n) :
    c.isDigit = true := by
  rcases List.mem_append.1 h with h | h
  · rw [List.eq_of_mem_replicate h]
    decide
  · exact isDigit_of_mem_decimal h

theorem ofDigitChars_padded (width n : Nat) : Nat.ofDigitChars 10 (padded width n) 0 = n := by
  rw [padded, Nat.ofDigitChars_append, Nat.ofDigitChars_replicate_zero, Nat.mul_zero,
    ofDigitChars_decimal]

/-- A number that fits has exactly the digits that are asked for. -/
theorem length_padded {width n : Nat} (hw : 0 < width) (h : n < 10 ^ width) :
    (padded width n).length = width := by
  have := length_decimal_le hw h
  rw [padded, List.length_append, List.length_replicate]
  omega

theorem padded_ne_nil (width n : Nat) : padded width n ≠ [] :=
  List.append_ne_nil_of_right_ne_nil _ (decimal_ne_nil n)

/-! ## Hexadecimal numerals -/

theorem digitValue?_digitChar {d : Nat} (h : d < 16) :
    digitValue? 16 (Nat.digitChar d) = some d := by
  decide +revert

/-- A hexadecimal numeral read digit by digit gives its number. -/
theorem foldlM_hexadecimal (n : Nat) :
    (hexadecimal n).foldlM (fun value c => (digitValue? 16 c).map (16 * value + ·)) 0 = some n := by
  induction n using Nat.strongRecOn with
  | ind n ih =>
    by_cases hn : n < 16
    · rw [hexadecimal, Nat.toDigits_of_lt_base hn]
      simp [digitValue?_digitChar hn]
    · have hcut : hexadecimal n = hexadecimal (n / 16) ++ [Nat.digitChar (n % 16)] :=
        Nat.toDigits_of_base_le (by decide) (by omega)
      have hmod : n % 16 < 16 := Nat.mod_lt n (by decide)
      rw [hcut, List.foldlM_append, ih (n / 16) (by omega)]
      simp [digitValue?_digitChar hmod, Nat.div_add_mod]

theorem hexadecimal_ne_nil (n : Nat) : hexadecimal n ≠ [] := Nat.toDigits_ne_nil

theorem length_hexadecimal_le {n k : Nat} (hk : 0 < k) (h : n < 16 ^ k) :
    (hexadecimal n).length ≤ k :=
  (Nat.length_toDigits_le_iff (by decide) hk).2 h

/-! ## Characters of numerals -/

/-- The characters of a numeral are digits of its base. -/
theorem mem_toDigits {base n : Nat} {c : Char} (hbase : 1 < base) (h : c ∈ Nat.toDigits base n) :
    ∃ d < base, c = Nat.digitChar d := by
  induction n using Nat.strongRecOn with
  | ind n ih =>
    by_cases hn : n < base
    · rw [Nat.toDigits_of_lt_base hn, List.mem_singleton] at h
      exact ⟨n, hn, h⟩
    · rw [Nat.toDigits_of_base_le hbase (by omega), List.mem_append, List.mem_singleton] at h
      rcases h with h | h
      · exact ih (n / base) (Nat.div_lt_self (by omega) hbase) h
      · exact ⟨n % base, Nat.mod_lt n (by omega), h⟩

/-- A character of joined texts belongs to one of them or to what joins them. -/
theorem mem_intercalate {c : Char} {sep : List Char} {texts : List (List Char)}
    (h : c ∈ sep.intercalate texts) : c ∈ sep ∨ ∃ t ∈ texts, c ∈ t := by
  induction texts with
  | nil => simp at h
  | cons t texts ih =>
    by_cases hne : texts = []
    · rw [hne, List.intercalate_singleton] at h
      exact .inr ⟨t, by simp, h⟩
    · rw [List.intercalate_cons_of_ne_nil hne, List.mem_append, List.mem_append] at h
      rcases h with (h | h) | h
      · exact .inr ⟨t, by simp, h⟩
      · exact .inl h
      · rcases ih h with h | ⟨u, hu, h⟩
        · exact .inl h
        · exact .inr ⟨u, by simp [hu], h⟩

/-- A character of a text belongs to one of its parts or is what the parts are cut at. -/
theorem eq_or_mem_splitOn {c sep : Char} {s : List Char} (h : c ∈ s) :
    c = sep ∨ ∃ t ∈ s.splitOn sep, c ∈ t := by
  have hjoin : [sep].intercalate (s.splitOn sep) = s := List.intercalate_splitOn sep
  rw [← hjoin] at h
  exact (mem_intercalate h).imp_left List.mem_singleton.1

theorem isBlank_of_isDigit {c : Char} (h : c.isDigit = true) : isBlank c = false := by
  have hbounds : 48 ≤ c.toNat ∧ c.toNat ≤ 57 := by
    simpa [Char.isDigit, UInt32.le_iff_toNat_le] using h
  simp [isBlank, blankRanges]
  omega

/-- A numeral has no blanks. -/
theorem IsNumeral.isBlank_eq_false {s : List Char} {n : Nat} (h : IsNumeral s n) {c : Char}
    (hc : c ∈ s) : isBlank c = false := by
  rcases h.mem hc with rfl | hdigit
  · decide
  · exact isBlank_of_isDigit hdigit

end RpkiOverlap.Text
