import RpkiOverlap.Time.Calendar

/-! # Dates and day numbers

Every day number is that of a valid date, the one that is found for it (`Date.valid_ofDayNumber`,
`Date.dayNumber_ofDayNumber`).

A day lies in the year that is found for it (`Date.yearOfDay_spec`), and within the year in the
month that is found for it (`Date.ofDayOfYear_spec`).
-/
namespace RpkiOverlap.Time.Date

/-! ## Years -/

/-- A year ends where the next one starts. -/
theorem daysBeforeYear_succ (year : Int) :
    daysBeforeYear (year + 1) =
      daysBeforeYear year + ((monthLengths (isLeapYear year)).foldl (· + ·) 0 : Nat) := by
  by_cases hleap : isLeapYear year = true
  · have hsum : (monthLengths true).foldl (· + ·) 0 = 366 := by decide
    rw [hleap, hsum]
    simp only [isLeapYear, Bool.and_eq_true, Bool.or_eq_true, beq_iff_eq, bne_iff_ne] at hleap
    simp only [daysBeforeYear]
    omega
  · have hsum : (monthLengths false).foldl (· + ·) 0 = 365 := by decide
    rw [Bool.not_eq_true] at hleap
    rw [hleap, hsum]
    simp only [isLeapYear, Bool.and_eq_false_iff, Bool.or_eq_false_iff, beq_eq_false_iff_ne,
      bne_eq_false_iff_eq] at hleap
    simp only [daysBeforeYear]
    omega

/-- The calendar repeats itself after 400 years. -/
theorem daysBeforeYear_cycle (cycle year : Int) :
    daysBeforeYear (400 * cycle + year) = 146097 * cycle + daysBeforeYear year := by
  simp only [daysBeforeYear]
  omega

/-- In the first cycle, leap days shift the start of a year by less than a year. -/
theorem daysBeforeYear_bounds (year : Int) (h : -1 ≤ year ∧ year ≤ 401) :
    365 * year ≤ daysBeforeYear year ∧ daysBeforeYear year ≤ 365 * year + 365 := by
  simp only [daysBeforeYear]
  omega

/-- A day lies between the starts of its year and of the next one. -/
theorem yearOfDay_spec (n : Int) :
    daysBeforeYear (yearOfDay n) ≤ n ∧ n < daysBeforeYear (yearOfDay n + 1) := by
  have hcut : n = 146097 * (n / 146097) + n % 146097 := by omega
  have hguess : 365 * (n % 146097 / 365) ≤ n % 146097 ∧
      n % 146097 < 365 * (n % 146097 / 365 + 1) := by omega
  have hrange : 0 ≤ n % 146097 / 365 ∧ n % 146097 / 365 ≤ 400 := by omega
  simp only [yearOfDay]
  generalize n / 146097 = cycle at *
  generalize n % 146097 / 365 = guess at *
  -- Both years are found in the first cycle, and then moved to their own.
  split
  · rename_i hle
    have hnext := daysBeforeYear_bounds (guess + 1) (by omega)
    rw [Int.add_assoc, daysBeforeYear_cycle, daysBeforeYear_cycle]
    omega
  · rename_i hlt
    have hlast := daysBeforeYear_bounds (guess - 1) (by omega)
    rw [Int.add_assoc, Int.sub_add_cancel, daysBeforeYear_cycle, daysBeforeYear_cycle]
    omega

/-! ## Months -/

/-- A day of the year lies in the month that is found for it, after the days of the earlier
months. -/
theorem ofDayOfYear_spec (month : Nat) (lengths : List Nat) {n : Nat}
    (h : n < lengths.foldl (· + ·) 0) :
    ∃ k day, ofDayOfYear month lengths n = (month + k, day + 1) ∧ k < lengths.length ∧
      day < lengths.getD k 0 ∧ (lengths.take k).foldl (· + ·) 0 + day = n := by
  induction lengths generalizing month n with
  | nil => simp at h
  | cons length rest ih =>
    have hcons : ∀ ls : List Nat,
        (length :: ls).foldl (· + ·) 0 = length + ls.foldl (· + ·) 0 := by
      intro ls
      rw [← List.sum_eq_foldl_nat, ← List.sum_eq_foldl_nat, List.sum_cons]
    rw [hcons] at h
    by_cases hn : n < length
    · exact ⟨0, n, by simp [ofDayOfYear, hn], by simp, by simpa using hn, by simp⟩
    · obtain ⟨k, day, hfound, hk, hday, hsum⟩ := ih (month + 1) (n := n - length) (by omega)
      refine ⟨k + 1, day, ?_, by simpa using hk, by simpa using hday, ?_⟩
      · rw [ofDayOfYear, if_neg hn, hfound, Nat.add_assoc, Nat.add_comm 1 k]
      · rw [List.take_succ_cons, hcons]
        omega

/-! ## Dates -/

/-- The parts of the date of a day. -/
theorem ofDayNumber_spec (n : Int) :
    ∃ k day, ofDayNumber n = ⟨yearOfDay (n + epochDay), 1 + k, day + 1⟩ ∧ k < 12 ∧
      day < (monthLengths (isLeapYear (yearOfDay (n + epochDay)))).getD k 0 ∧
      n = daysBeforeYear (yearOfDay (n + epochDay)) +
        daysBeforeMonth (isLeapYear (yearOfDay (n + epochDay))) (1 + k) + day - epochDay := by
  obtain ⟨hle, hlt⟩ := yearOfDay_spec (n + epochDay)
  rw [daysBeforeYear_succ] at hlt
  obtain ⟨k, day, hfound, hk, hday, hsum⟩ :=
    ofDayOfYear_spec 1 (monthLengths (isLeapYear (yearOfDay (n + epochDay))))
      (n := (n + epochDay - daysBeforeYear (yearOfDay (n + epochDay))).toNat) (by omega)
  refine ⟨k, day, by simp only [ofDayNumber, hfound], hk, hday, ?_⟩
  rw [daysBeforeMonth, Nat.add_sub_cancel_left]
  omega

theorem valid_ofDayNumber (n : Int) : (ofDayNumber n).Valid := by
  obtain ⟨k, day, hdate, hk, hday, -⟩ := ofDayNumber_spec n
  rw [hdate]
  refine ⟨by simp, by simp; omega, by simp, ?_⟩
  simpa [Nat.succ_le_iff] using hday

/-- The date of a day has the number of that day. -/
theorem dayNumber_ofDayNumber (n : Int) : (ofDayNumber n).dayNumber = n := by
  obtain ⟨k, day, hdate, -, -, hn⟩ := ofDayNumber_spec n
  rw [hdate, dayNumber]
  simp only
  omega

end RpkiOverlap.Time.Date
