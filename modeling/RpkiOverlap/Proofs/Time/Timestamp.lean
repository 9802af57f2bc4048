import RpkiOverlap.Proofs.Text.Numeral
import RpkiOverlap.Proofs.Time.Calendar
import RpkiOverlap.Time.Timestamp

/-! # Timestamps read back

What is written for an instant in universal time is read as the instant that the text names
(`Instant.read?_printZulu`), and this is the same instant unless it is in a leap second inside of a
minute (`Instant.written_eq_self_iff`).

* Each reader gets its part back when something follows that cannot belong to the part; for numbers
  this is anything but a digit (`NoDigit`).
* The parts make the instant again, because a day number comes back from its date.  A leap second
  at the end of a minute is written as second 60 and read as the nanoseconds past the second before
  it; any other is written as the second after it, and read as that second.
-/
namespace RpkiOverlap.Time
open Text

/-! ## Numbers -/

/-- A text that does not begin with a digit. -/
def NoDigit (s : List Char) : Prop := ∀ c r, s = c :: r → c.isDigit = false

theorem NoDigit.cons {c : Char} {r : List Char} (h : c.isDigit = false) : NoDigit (c :: r) := by
  rintro _ _ ⟨⟩
  exact h

theorem takeWhile_isDigit {s : List Char} (h : NoDigit s) : s.takeWhile Char.isDigit = [] := by
  cases s with
  | nil => rfl
  | cons c r => simp [h c r rfl]

theorem dropWhile_isDigit {s : List Char} (h : NoDigit s) : s.dropWhile Char.isDigit = s := by
  cases s with
  | nil => rfl
  | cons c r => simp [h c r rfl]

/-- A numeral is read up to its end. -/
theorem readDigits?_padded {most width n : Nat} {rest : List Char}
    (hlength : (padded width n).length ≤ most) (hrest : NoDigit rest) :
    readDigits? most (padded width n ++ rest) = some (n, rest) := by
  have hdigits : ∀ c ∈ padded width n, c.isDigit = true := fun c => isDigit_of_mem_padded
  have hnext : (rest.take (most - (padded width n).length)).takeWhile Char.isDigit = [] := by
    refine takeWhile_isDigit fun c r h => ?_
    cases rest with
    | nil => simp at h
    | cons d rest =>
      cases hk : most - (padded width n).length with
      | zero => simp [hk] at h
      | succ k =>
        rw [hk, List.take_succ_cons] at h
        exact (List.cons.inj h).1 ▸ hrest d rest rfl
  have htake : ((padded width n ++ rest).take most).takeWhile Char.isDigit = padded width n := by
    rw [List.take_append, List.take_of_length_le hlength, List.takeWhile_append_of_pos hdigits,
      hnext, List.append_nil]
  rw [readDigits?, htake, if_neg (padded_ne_nil width n), List.drop_left, ofDigitChars_padded]

/-- A numeral begins with no blank, and with no sign either. -/
theorem exists_cons_padded (width n : Nat) (rest : List Char) :
    ∃ c r, padded width n ++ rest = c :: r ∧ c.isDigit = true := by
  obtain ⟨c, r, h⟩ := List.exists_cons_of_ne_nil (padded_ne_nil width n)
  exact ⟨c, r ++ rest, by rw [h, List.cons_append], isDigit_of_mem_padded (h ▸ List.mem_cons_self)⟩

theorem trimStart_cons {c : Char} {r : List Char} (h : isBlank c = false) :
    trimStart (c :: r) = c :: r := by
  simp [trimStart, h]

theorem trimStart_padded (width n : Nat) (rest : List Char) :
    trimStart (padded width n ++ rest) = padded width n ++ rest := by
  obtain ⟨c, r, h, hdigit⟩ := exists_cons_padded width n rest
  rw [h, trimStart_cons (isBlank_of_isDigit hdigit)]

theorem readMark?_cons {mark : Char} {r : List Char} (h : isBlank mark = false) :
    readMark? mark (mark :: r) = some r := by
  rw [readMark?, trimStart_cons h]
  simp

theorem readPair?_padded {n : Nat} {rest : List Char} (h : n < 100) (hrest : NoDigit rest) :
    readPair? (padded 2 n ++ rest) = some (n, rest) := by
  have hlength : (padded 2 n).length = 2 := length_padded (by decide) h
  rw [readPair?, trimStart_padded, readDigits?_padded (Nat.le_of_eq hlength) hrest]

/-! ## Dates and times of day -/

theorem readYear?_printYear (year : Int) {rest : List Char} (hrest : NoDigit rest) :
    readYear? (printYear year ++ rest) = some (year, rest) := by
  by_cases hfour : 0 ≤ year ∧ year ≤ 9999
  · have hlength : (padded 4 year.toNat).length = 4 := length_padded (by decide) (by omega)
    obtain ⟨c, r, h, hdigit⟩ := exists_cons_padded 4 year.toNat rest
    have hread : (readDigits? 4 (c :: r)).map (fun p => ((p.1 : Int), p.2)) =
        some (year, rest) := by
      rw [← h, readDigits?_padded (Nat.le_of_eq hlength) hrest, Option.map_some]
      simp only [Int.toNat_of_nonneg hfour.1]
    have hsign : c ≠ '-' ∧ c ≠ '+' := by
      constructor
      · rintro rfl
        exact absurd hdigit (by decide)
      · rintro rfl
        exact absurd hdigit (by decide)
    rw [printYear, if_pos hfour, readYear?, trimStart_padded, h]
    split
    · exact absurd (List.cons.inj ‹_›).1 hsign.1
    · exact absurd (List.cons.inj ‹_›).1 hsign.2
    · exact hread
  · have hread : readDigits? (padded 4 year.natAbs ++ rest).length (padded 4 year.natAbs ++ rest) =
        some (year.natAbs, rest) :=
      readDigits?_padded (by simp) hrest
    rw [printYear, if_neg hfour, List.cons_append]
    by_cases hneg : year < 0
    · rw [if_pos hneg, readYear?, trimStart_cons (by decide)]
      simp only [hread, Option.map_some]
      congr
      omega
    · rw [if_neg hneg, readYear?, trimStart_cons (by decide)]
      simp only [hread, Option.map_some]
      congr
      omega

theorem readFraction?_padded {width n : Nat} {rest : List Char} (hpos : 0 < width)
    (hwidth : width ≤ 9) (h : n < 10 ^ width) (hrest : NoDigit rest) :
    readFraction? ('.' :: padded width n ++ rest) = some (n * 10 ^ (9 - width), rest) := by
  have hlength : (padded width n).length = width := length_padded hpos h
  have hread : readDigits? 9 (padded width n ++ rest) = some (n, rest) :=
    readDigits?_padded (hlength.symm ▸ hwidth) hrest
  simp only [List.cons_append, readFraction?, hread, Option.map_some, List.length_append, hlength,
    Nat.add_sub_cancel_right, dropWhile_isDigit hrest]

/-- A fraction is read at full precision in each of its three lengths. -/
theorem readFraction?_printFraction {nanos : Nat} {c : Char} {rest : List Char}
    (h : nanos < 10 ^ 9) (hdigit : c.isDigit = false) (hpoint : c ≠ '.') :
    readFraction? (printFraction nanos ++ c :: rest) = some (nanos, c :: rest) := by
  have hrest : NoDigit (c :: rest) := .cons hdigit
  unfold printFraction
  split
  · rename_i hzero
    rw [List.nil_append, readFraction?, hzero]
    rintro s ⟨⟩
    exact hpoint rfl
  · split
    · rw [readFraction?_padded (by decide) (by decide) (by omega) hrest]
      congr
      omega
    · split
      · rw [readFraction?_padded (by decide) (by decide) (by omega) hrest]
        congr
        omega
      · rw [readFraction?_padded (by decide) (by decide) h hrest]
        congr
        omega

theorem noDigit_printFraction (nanos : Nat) {s : List Char} (h : NoDigit s) :
    NoDigit (printFraction nanos ++ s) := by
  have hpoint : ∀ r, NoDigit ('.' :: r) := fun r => .cons (by decide)
  unfold printFraction
  split
  · exact h
  · split
    · exact hpoint _
    · split
      · exact hpoint _
      · exact hpoint _

theorem readDate?_print {date : Date} {rest : List Char} (hmonth : date.month < 100)
    (hday : date.day < 100) (hrest : NoDigit rest) :
    readDate? (printYear date.year ++ '-' :: (padded 2 date.month ++ '-' :: (padded 2 date.day ++
      rest))) = some (date, rest) := by
  have hmark : ∀ r, NoDigit ('-' :: r) := fun r => .cons (by decide)
  have hread : ∀ r, readMark? '-' ('-' :: r) = some r := fun r => readMark?_cons (by decide)
  simp only [readDate?, readYear?_printYear _ (hmark _), readPair?_padded hmonth (hmark _),
    readPair?_padded hday hrest, hread, bind, Option.bind_some, pure]

theorem readTime?_print {hour minute second nanos : Nat} {c : Char} {rest : List Char}
    (hhour : hour < 100) (hminute : minute < 100) (hsecond : second < 100)
    (hnanos : nanos < 10 ^ 9) (hdigit : c.isDigit = false) (hpoint : c ≠ '.') :
    readTime? (padded 2 hour ++ ':' :: (padded 2 minute ++ ':' :: (padded 2 second ++
      (printFraction nanos ++ c :: rest)))) = some ((hour, minute, second, nanos), c :: rest) := by
  have hmark : ∀ r, NoDigit (':' :: r) := fun r => .cons (by decide)
  have hread : ∀ r, readMark? ':' (':' :: r) = some r := fun r => readMark?_cons (by decide)
  have hfraction : NoDigit (printFraction nanos ++ c :: rest) :=
    noDigit_printFraction _ (.cons hdigit)
  simp only [readTime?, readPair?_padded hhour (hmark _), readPair?_padded hminute (hmark _),
    readPair?_padded hsecond hfraction, readFraction?_printFraction hnanos hdigit hpoint, hread,
    bind, Option.bind_some, pure]

/-! ## Instants -/

/-- Months and days have at most two digits. -/
theorem Date.Valid.lt_hundred {date : Date} (h : date.Valid) :
    date.month < 100 ∧ date.day < 100 := by
  obtain ⟨hpos, hmonth, -, hday⟩ := h
  have hlengths : ∀ leap, ∀ k < 12, (monthLengths leap).getD k 0 ≤ 31 := by decide
  have := hlengths (isLeapYear date.year) (date.month - 1) (by omega)
  omega

namespace Instant

/-- A leap second, if the instant is in one, follows the last second of a minute. -/
def LeapEndsMinute (i : Instant) : Prop := 10 ^ 9 ≤ i.nanos → i.seconds % 60 = 59

instance (i : Instant) : Decidable i.LeapEndsMinute := inferInstanceAs (Decidable (_ → _))

/-- The instant that the text of an instant names.  A leap second is written as the second after the
one that it follows, and unless that is second 60, nothing in the text says that it is a leap
second. -/
def written (i : Instant) : Instant :=
  if h : i.LeapEndsMinute then i
  else
    { seconds := i.seconds + 1
      nanos := i.nanos - 10 ^ 9
      earliest_le := by
        have := i.earliest_le
        omega
      le_latest := by
        have := i.le_latest
        unfold LeapEndsMinute latestSecond at *
        omega
      nanos_lt := by
        have := i.nanos_lt
        omega }

theorem written_of_leapEndsMinute {i : Instant} (h : i.LeapEndsMinute) : i.written = i := dif_pos h

theorem seconds_written {i : Instant} (h : ¬ i.LeapEndsMinute) :
    i.written.seconds = i.seconds + 1 := by
  rw [written, dif_neg h]

theorem nanos_written {i : Instant} (h : ¬ i.LeapEndsMinute) :
    i.written.nanos = i.nanos - 10 ^ 9 := by
  rw [written, dif_neg h]

/-- In a leap second inside of a minute the text names another instant. -/
theorem written_eq_self_iff {i : Instant} : i.written = i ↔ i.LeapEndsMinute := by
  constructor
  · intro heq
    by_cases h : i.LeapEndsMinute
    · exact h
    · have hseconds := seconds_written h
      rw [heq] at hseconds
      omega
  · exact written_of_leapEndsMinute

theorem of?_eq (i : Instant) : of? i.seconds i.nanos = some i :=
  dif_pos ⟨i.earliest_le, i.le_latest, i.nanos_lt⟩

section
variable {i : Instant} {date : Date} {hour minute : Nat}

/-- A date and a time of day in universal time make the instant in their second. -/
theorem ofParts?_of_lt {second : Nat} (hdate : date.Valid) (hhour : hour < 24)
    (hminute : minute < 60) (hsecond : second < 60)
    (hseconds : date.dayNumber * 86400 + (hour * 3600 + minute * 60 + second : Nat) = i.seconds) :
    ofParts? date hour minute second i.nanos 0 = some i := by
  have hsixty : ¬ second = 60 := by omega
  rw [ofParts?, if_pos ⟨hdate, hhour, hminute, by omega, by decide⟩]
  simp only [hsixty, ↓reduceIte, hseconds]
  rw [if_pos ⟨i.earliest_le, i.le_latest⟩, Int.sub_zero, of?_eq]

/-- Second 60 makes an instant in the leap second after second 59. -/
theorem ofParts?_sixty {nanos : Nat} (hdate : date.Valid) (hhour : hour < 24)
    (hminute : minute < 60)
    (hseconds : date.dayNumber * 86400 + (hour * 3600 + minute * 60 + 59 : Nat) = i.seconds)
    (hnanos : 10 ^ 9 + nanos = i.nanos) : ofParts? date hour minute 60 nanos 0 = some i := by
  rw [ofParts?, if_pos ⟨hdate, hhour, hminute, by decide, by decide⟩]
  simp only [↓reduceIte, hseconds, hnanos]
  rw [if_pos ⟨i.earliest_le, i.le_latest⟩, Int.sub_zero, of?_eq]

end

/-- The date and the time of day that are written for an instant make the instant that they name. -/
theorem ofParts?_eq (i : Instant) :
    ofParts? (.ofDayNumber (i.seconds / 86400)) ((i.seconds % 86400).toNat / 3600)
      ((i.seconds % 86400).toNat / 60 % 60) ((i.seconds % 86400).toNat % 60 + i.nanos / 10 ^ 9)
      (i.nanos % 10 ^ 9) 0 = some i.written := by
  have hlt := i.nanos_lt
  have hdate := Date.valid_ofDayNumber (i.seconds / 86400)
  have hnumber := Date.dayNumber_ofDayNumber (i.seconds / 86400)
  have hcut : i.seconds = i.seconds / 86400 * 86400 + (i.seconds % 86400).toNat := by omega
  have hday : (i.seconds % 86400).toNat < 86400 := by omega
  have hminute : i.seconds % 60 = ((i.seconds % 86400).toNat % 60 : Nat) := by omega
  generalize (i.seconds % 86400).toNat = second at *
  have hsum : second / 3600 * 3600 + second / 60 % 60 * 60 + second % 60 = second := by omega
  by_cases hleap : 10 ^ 9 ≤ i.nanos
  · have hone : i.nanos / 10 ^ 9 = 1 := by omega
    rw [hone]
    by_cases hlast : second % 60 = 59
    · -- the written second is 60 although the counted one is 59
      rw [hlast, written_of_leapEndsMinute fun _ => by omega]
      apply ofParts?_sixty hdate (by omega) (by omega)
      · rw [hnumber]
        omega
      · omega
    · have hends : ¬ i.LeapEndsMinute := by
        intro h
        have := h hleap
        omega
      have hnanos : i.nanos % 10 ^ 9 = i.written.nanos := by
        rw [nanos_written hends]
        omega
      rw [hnanos]
      apply ofParts?_of_lt hdate (by omega) (by omega) (by omega)
      rw [hnumber, seconds_written hends]
      omega
  · have hzero : i.nanos / 10 ^ 9 = 0 := by omega
    have hnanos : i.nanos % 10 ^ 9 = i.nanos := by omega
    rw [hzero, hnanos, written_of_leapEndsMinute fun h => absurd h hleap]
    apply ofParts?_of_lt hdate (by omega) (by omega) (by omega)
    rw [hnumber]
    omega

/-- What is written for an instant is read as the instant that the text names. -/
theorem read?_printZulu (i : Instant) : read? i.printZulu = some i.written := by
  obtain ⟨hmonth, hday⟩ := (Date.valid_ofDayNumber (i.seconds / 86400)).lt_hundred
  have hlt := i.nanos_lt
  have hoffset : readOffset? (trimStart ['Z']) = some (0, []) := by decide
  simp only [printZulu, printWith, List.append_assoc, List.cons_append]
  rw [read?, readDate?_print hmonth hday (.cons (by decide))]
  simp only [Option.bind_some, bind]
  rw [readTime?_print (by omega) (by omega) (by omega) (by omega) (by decide) (by decide)]
  simp only [hoffset, Option.bind_some]
  exact ofParts?_eq i

end Instant
end RpkiOverlap.Time
