import RpkiOverlap.Proofs.Address.V6
import RpkiOverlap.Proofs.Range.Prefix
import RpkiOverlap.Proofs.Result
import RpkiOverlap.Proofs.Text.Blank
import RpkiOverlap.Resource.Notation

/-! # The grammar of resources

The notation of resources is a grammar (`IsNotation`), and reading accepts exactly its texts, each
as the resource that it denotes (`Resource.read_exact`).

* Reading cuts a text at the first mark, and the grammar joins two parts with one.  They agree
  because no part that is accepted contains a mark: neither numerals nor addresses do (`IsAsn.mem`,
  `IsAddress.marks`).
* Reading trims every part, and the grammar has blanks of AS numbers only around the hyphen.  They
  agree because the whole text is trimmed already (`exists_trim_of_isTrimmed`).
* Reading tests for the letters `AS` in each part, and the grammar demands them in the first one.
  They agree because the first part begins like the whole text, and no numeral begins with a letter
  (`BeginsWithAS.not_isNumeral_trim`).
-/
namespace RpkiOverlap

/-! ## Blocks -/

namespace Range
variable {w : Nat}

/-- A range is the block of the numbers that have the same first `length` bits as its lower end, of
which the other bits are zero. -/
structure IsBlock (r : Range w) (length : Nat) : Prop where
  le : length ≤ w
  low_bits : ∀ i < w - length, r.lo.testBit i = false
  hi_eq : r.hi = r.lo + (2 ^ (w - length) - 1)

theorem block?_eq_some_iff_isBlock {start length : Nat} {r : Range w} :
    block? start length = some r ↔ r.lo = start ∧ r.IsBlock length := by
  have hpos := Nat.two_pow_pos (w - length)
  constructor
  · intro h
    have hlo := lo_of_block? h
    subst hlo
    obtain ⟨hle, hdvd, hsize⟩ := block?_eq_some_iff.1 h
    have hhi : r.hi = r.lo + (2 ^ (w - length) - 1) := by
      have := r.lo_le_hi
      unfold size at hsize
      omega
    exact ⟨rfl, hle, two_pow_dvd_iff_testBit.1 hdvd, hhi⟩
  · rintro ⟨rfl, hle, hbits, hhi⟩
    have hsize : r.size = 2 ^ (w - length) := by
      unfold size
      omega
    exact block?_eq_some_iff.2 ⟨hle, two_pow_dvd_iff_testBit.2 hbits, hsize⟩

end Range

namespace Resource
open Text

/-! ## The grammar -/

/-- A text begins with the letters `AS`, each in either case, and goes on after them. -/
def BeginsWithAS (s : List Char) : Prop :=
  ∃ a b rest, s = a :: b :: rest ∧ a ∈ ['A', 'a'] ∧ b ∈ ['S', 's'] ∧ rest ≠ []

/-- The letters `AS` and a numeral directly after them. -/
def IsAsn (s : List Char) (n : Nat) : Prop :=
  ∃ a b digits, s = a :: b :: digits ∧ a ∈ ['A', 'a'] ∧ b ∈ ['S', 's'] ∧ IsNumeral digits n

/-- One AS number, or two around a hyphen, of which the second may do without letters.  That they
are in order and fit into 32 bits is part of the range. -/
inductive IsAsnRange : List Char → Range 32 → Prop
  | number {s r} : IsAsn s r.lo → r.hi = r.lo → IsAsnRange s r
  | ends {start before after stop r} : IsAsn start r.lo → Blank before → Blank after →
      IsNumeral stop r.hi ∨ IsAsn stop r.hi →
      IsAsnRange (start ++ before ++ '-' :: (after ++ stop)) r

variable {w : Nat} (address? : List Char → Option (Fin (2 ^ w)))

/-- A text is an address of the given family, but for blanks around it. -/
def IsAddress (s : List Char) (n : Nat) : Prop := ∃ h : n < 2 ^ w, address? (trim s) = some ⟨n, h⟩

/-- An address and a length around a slash, two addresses around a hyphen, or one address. -/
inductive IsAddressRange : List Char → Range w → Prop
  | block {a l length r} : IsAddress address? a r.lo → IsNumeral (trim l) length →
      r.IsBlock length → IsAddressRange (a ++ '/' :: l) r
  | ends {a b r} : IsAddress address? a r.lo → IsAddress address? b r.hi →
      IsAddressRange (a ++ '-' :: b) r
  | single {a r} : IsAddress address? a r.lo → r.hi = r.lo → IsAddressRange a r

variable {address?}

/-- The notation of one resource.  The letters `AS` tell AS numbers from addresses, and a colon
tells the two families of addresses apart. -/
inductive IsNotation : List Char → Resource → Prop
  | asn {u r} : BeginsWithAS u → IsAsnRange u r → IsNotation u (.asn r)
  | ipv6 {u r} : ¬ BeginsWithAS u → ':' ∈ u → IsAddressRange Address.V6.read? u r →
      IsNotation u (.ipv6 r)
  | ipv4 {u r} : ¬ BeginsWithAS u → ':' ∉ u → IsAddressRange Address.V4.read? u r →
      IsNotation u (.ipv4 r)

/-! ## AS numbers -/

theorem startsWithAS_iff {s : List Char} : startsWithAS s = true ↔ BeginsWithAS s := by
  unfold startsWithAS
  split
  · rename_i a b c rest
    simp only [Bool.and_eq_true, Bool.or_eq_true, beq_iff_eq]
    constructor
    · rintro ⟨ha, hb⟩
      exact ⟨a, b, c :: rest, rfl, by simpa using ha, by simpa using hb, List.cons_ne_nil c rest⟩
    · rintro ⟨_, _, _, heq, ha, hb, -⟩
      rw [List.cons.injEq, List.cons.injEq] at heq
      obtain ⟨rfl, rfl, -⟩ := heq
      exact ⟨by simpa using ha, by simpa using hb⟩
  · rename_i hshort
    refine iff_of_false Bool.false_ne_true ?_
    rintro ⟨a, b, rest, rfl, -, -, hrest⟩
    obtain ⟨c, rest, rfl⟩ := List.exists_cons_of_ne_nil hrest
    exact hshort a b c rest rfl

theorem IsAsn.beginsWithAS {s : List Char} {n : Nat} (h : IsAsn s n) : BeginsWithAS s := by
  obtain ⟨a, b, digits, rfl, ha, hb, hdigits⟩ := h
  exact ⟨a, b, digits, rfl, ha, hb, hdigits.ne_nil⟩

/-- Behind the letters stands the numeral. -/
theorem isAsn_iff_drop {s : List Char} {n : Nat} (h : BeginsWithAS s) :
    IsAsn s n ↔ IsNumeral (s.drop 2) n := by
  obtain ⟨a, b, rest, rfl, ha, hb, -⟩ := h
  constructor
  · rintro ⟨_, _, digits, heq, -, -, hdigits⟩
    rw [heq]
    exact hdigits
  · exact fun hdigits => ⟨a, b, rest, rfl, ha, hb, hdigits⟩

/-- A letter is neither a digit nor a sign. -/
theorem not_isNumeral_cons {c : Char} {s : List Char} {n : Nat} (h : c ∈ ['A', 'a']) :
    ¬ IsNumeral (c :: s) n := by
  intro hnumeral
  have hc := hnumeral.mem List.mem_cons_self
  simp only [List.mem_cons, List.not_mem_nil, or_false] at h
  rcases h with rfl | rfl
  · exact absurd hc (by decide)
  · exact absurd hc (by decide)

theorem BeginsWithAS.not_isNumeral {s : List Char} {n : Nat} (h : BeginsWithAS s) :
    ¬ IsNumeral s n := by
  obtain ⟨a, b, rest, rfl, ha, -⟩ := h
  exact not_isNumeral_cons ha

/-- An AS number has neither blanks nor hyphens. -/
theorem IsAsn.mem {s : List Char} {n : Nat} (h : IsAsn s n) {c : Char} (hc : c ∈ s) :
    isBlank c = false ∧ c ≠ '-' := by
  obtain ⟨a, b, digits, rfl, ha, hb, hdigits⟩ := h
  have hletter : ∀ d ∈ ['A', 'a', 'S', 's'], isBlank d = false ∧ d ≠ '-' := by
    simp only [List.mem_cons, List.not_mem_nil, or_false, forall_eq_or_imp, forall_eq]
    decide
  rcases List.mem_cons.1 hc with rfl | hc
  · exact hletter _ (List.mem_append_left ['S', 's'] ha)
  · rcases List.mem_cons.1 hc with rfl | hc
    · exact hletter _ (List.mem_append_right ['A', 'a'] hb)
    · refine ⟨hdigits.isBlank_eq_false hc, ?_⟩
      rintro rfl
      exact absurd (hdigits.mem hc) (by decide)

theorem IsAsn.isTrimmed {s : List Char} {n : Nat} (h : IsAsn s n) : IsTrimmed s :=
  isTrimmed_of_forall fun _ hc => (h.mem hc).1

theorem readAsn_eq_ok_iff {part : List Char} {n : Fin (2 ^ 32)} :
    readAsn part = .ok n ↔ IsNumeral (trim part) n ∨ IsAsn (trim part) n := by
  simp only [readAsn, mapError_eq_ok]
  by_cases hstarts : startsWithAS (trim part) = true
  · have hbegins := startsWithAS_iff.1 hstarts
    rw [if_pos hstarts, readNat_eq_ok_iff, ← isAsn_iff_drop hbegins]
    exact (or_iff_right hbegins.not_isNumeral).symm
  · rw [if_neg hstarts, readNat_eq_ok_iff]
    exact (or_iff_left fun h => hstarts (startsWithAS_iff.2 h.beginsWithAS)).symm

theorem between_eq_ok_iff {lo hi : Fin (2 ^ w)} {r : Range w} :
    between lo hi = .ok r ↔ r.lo = lo ∧ r.hi = hi := by
  unfold between
  constructor
  · intro h
    split at h
    · rw [← Except.ok.inj h]
      exact ⟨rfl, rfl⟩
    · cases h
  · rintro ⟨hlo, hhi⟩
    have hle : lo.val ≤ hi.val := hlo ▸ hhi ▸ r.lo_le_hi
    rw [dif_pos hle]
    exact congrArg Except.ok (Range.ext_ends hlo.symm hhi.symm)

/-- The range of one number. -/
theorem single_eq_iff {n : Fin (2 ^ w)} {r : Range w} :
    Range.single n n.isLt = r ↔ r.lo = n ∧ r.hi = r.lo := by
  constructor
  · rintro rfl
    exact ⟨rfl, rfl⟩
  · rintro ⟨hlo, hhi⟩
    exact Range.ext_ends hlo.symm (hlo.symm.trans hhi.symm)

/-- The parts around a mark of a trimmed text have blanks only next to the mark. -/
theorem exists_trim_of_isTrimmed {a b : List Char} {mark : Char} (h : IsTrimmed (a ++ mark :: b)) :
    ∃ before after, a = trim a ++ before ∧ b = after ++ trim b ∧ Blank before ∧ Blank after := by
  obtain ⟨outer, before, ha, houter, hbefore⟩ := exists_eq_trim a
  obtain ⟨after, outer', hb, hafter, houter'⟩ := exists_eq_trim b
  have hnil : outer = [] := by
    rw [ha, List.append_assoc, List.append_assoc] at h
    exact h.eq_nil_of_prefix houter
  have hnil' : outer' = [] := by
    rw [hb, ← List.cons_append, ← List.append_assoc] at h
    exact h.eq_nil_of_suffix houter'
  rw [hnil, List.nil_append] at ha
  rw [hnil', List.append_nil] at hb
  exact ⟨before, after, ha, hb, hbefore, hafter⟩

/-- In a trimmed text that begins with letters, the part before the hyphen is no numeral. -/
theorem BeginsWithAS.not_isNumeral_trim {a b : List Char} {n : Nat}
    (h : BeginsWithAS (a ++ '-' :: b)) (htrimmed : IsTrimmed (a ++ '-' :: b)) :
    ¬ IsNumeral (trim a) n := by
  intro hnumeral
  obtain ⟨before, _, ha, -⟩ := exists_trim_of_isTrimmed htrimmed
  obtain ⟨c, rest, hcons⟩ := List.exists_cons_of_ne_nil hnumeral.ne_nil
  obtain ⟨d, e, rest', heq, hd, -⟩ := h
  -- the part begins like the whole text
  have hdc : d = c := by
    rw [ha, hcons] at heq
    exact (List.cons.inj heq).1.symm
  rw [hcons] at hnumeral
  exact not_isNumeral_cons (hdc ▸ hd) hnumeral

theorem isAsnRange_of_read {u : List Char} {r : Range 32} (hu : IsTrimmed u)
    (hbegins : BeginsWithAS u) (h : readAsnRange u = .ok r) : IsAsnRange u r := by
  unfold readAsnRange at h
  split at h
  · rename_i a b hcut
    obtain ⟨rfl, -⟩ := cutAt_eq_some hcut
    obtain ⟨lo, hlo, h⟩ := bind_eq_ok.1 h
    obtain ⟨hi, hhi, h⟩ := bind_eq_ok.1 h
    obtain ⟨hrlo, hrhi⟩ := between_eq_ok_iff.1 h
    -- reading would accept a first part without letters, but the text begins with them
    have hstart : IsAsn (trim a) r.lo := by
      rw [hrlo]
      exact (readAsn_eq_ok_iff.1 hlo).resolve_left (hbegins.not_isNumeral_trim hu)
    have hstop : IsNumeral (trim b) r.hi ∨ IsAsn (trim b) r.hi := by
      rw [hrhi]
      exact readAsn_eq_ok_iff.1 hhi
    obtain ⟨before, after, ha, hb, hbefore, hafter⟩ := exists_trim_of_isTrimmed hu
    rw [ha, hb]
    exact .ends hstart hbefore hafter hstop
  · obtain ⟨n, hn, h⟩ := bind_eq_ok.1 h
    obtain ⟨hlo, hhi⟩ := single_eq_iff.1 (Except.ok.inj h)
    rw [readAsn_eq_ok_iff, hu.trim_eq_self, ← hlo] at hn
    exact .number (hn.resolve_left hbegins.not_isNumeral) hhi

theorem readAsnRange_of_isAsnRange {u : List Char} {r : Range 32} (hu : IsTrimmed u)
    (h : IsAsnRange u r) : readAsnRange u = .ok r := by
  have hlo := Nat.lt_of_le_of_lt r.lo_le_hi r.hi_lt
  cases h with
  | number hasn hhi =>
    have hhyphen : '-' ∉ u := fun h => (hasn.mem h).2 rfl
    have hn : readAsn u = .ok ⟨r.lo, hlo⟩ := by
      rw [readAsn_eq_ok_iff, hu.trim_eq_self]
      exact .inr hasn
    rw [readAsnRange, cutAt_eq_none_iff.2 hhyphen]
    exact bind_eq_ok.2 ⟨_, hn, congrArg Except.ok (single_eq_iff.2 ⟨rfl, hhi⟩)⟩
  | @ends start before after stop _ hstart hbefore hafter hstop =>
    have hhyphen : '-' ∉ start ++ before := by
      intro h
      rcases List.mem_append.1 h with h | h
      · exact (hstart.mem h).2 rfl
      · exact absurd (hbefore _ h) (by decide)
    have hfirst : readAsn (start ++ before) = .ok ⟨r.lo, hlo⟩ := by
      have htrim : trim (start ++ before) = start :=
        trim_eq hstart.isTrimmed (List.forall_mem_nil _) hbefore
      rw [readAsn_eq_ok_iff, htrim]
      exact .inr hstart
    have hsecond : readAsn (after ++ stop) = .ok ⟨r.hi, r.hi_lt⟩ := by
      have htrimmed : IsTrimmed stop := by
        rcases hstop with h | h
        · exact isTrimmed_of_forall fun _ hc => h.isBlank_eq_false hc
        · exact h.isTrimmed
      have htrim : trim (after ++ stop) = stop := by
        simpa using trim_eq htrimmed hafter (List.forall_mem_nil _)
      rw [readAsn_eq_ok_iff, htrim]
      exact hstop
    rw [readAsnRange, cutAt_append hhyphen]
    exact bind_eq_ok.2 ⟨_, hfirst, bind_eq_ok.2 ⟨_, hsecond, between_eq_ok_iff.2 ⟨rfl, rfl⟩⟩⟩

/-- Reading accepts the AS numbers and ranges of the grammar. -/
theorem readAsnRange_eq_ok_iff {u : List Char} {r : Range 32} (hu : IsTrimmed u)
    (hbegins : BeginsWithAS u) : readAsnRange u = .ok r ↔ IsAsnRange u r :=
  ⟨isAsnRange_of_read hu hbegins, readAsnRange_of_isAsnRange hu⟩

/-! ## Addresses -/

theorem readAddress_eq_ok_iff {part : List Char} {n : Fin (2 ^ w)} :
    readAddress address? part = .ok n ↔ IsAddress address? part n := by
  unfold readAddress IsAddress
  constructor
  · intro h
    split at h
    · rename_i m hm
      rw [← Except.ok.inj h]
      exact ⟨m.isLt, hm⟩
    · cases h
  · rintro ⟨_, h⟩
    rw [h]

theorem isAddressRange_of_read {u : List Char} {r : Range w}
    (h : readAddressRange address? u = .ok r) : IsAddressRange address? u r := by
  unfold readAddressRange at h
  split at h
  · rename_i a l hcut
    obtain ⟨rfl, -⟩ := cutAt_eq_some hcut
    split at h
    · cases h
    · rename_i length hlength
      split at h
      · cases h
      · obtain ⟨start, hstart, h⟩ := bind_eq_ok.1 h
        split at h
        · rename_i r' hblock
          obtain rfl := Except.ok.inj h
          obtain ⟨hlo, hblock⟩ := Range.block?_eq_some_iff_isBlock.1 hblock
          rw [readAddress_eq_ok_iff, ← hlo] at hstart
          exact .block hstart (readNat_eq_ok_iff.1 hlength) hblock
        · cases h
  · split at h
    · rename_i a b hcut
      obtain ⟨rfl, -⟩ := cutAt_eq_some hcut
      obtain ⟨lo, hlo, h⟩ := bind_eq_ok.1 h
      obtain ⟨hi, hhi, h⟩ := bind_eq_ok.1 h
      obtain ⟨hrlo, hrhi⟩ := between_eq_ok_iff.1 h
      rw [readAddress_eq_ok_iff, ← hrlo] at hlo
      rw [readAddress_eq_ok_iff, ← hrhi] at hhi
      exact .ends hlo hhi
    · obtain ⟨n, hn, h⟩ := bind_eq_ok.1 h
      obtain ⟨hlo, hhi⟩ := single_eq_iff.1 (Except.ok.inj h)
      rw [readAddress_eq_ok_iff, ← hlo] at hn
      exact .single hn hhi

section
variable (hmarks : ∀ {s n}, address? s = some n → '-' ∉ s ∧ '/' ∉ s)
include hmarks

/-- An address contains neither of the marks. -/
theorem IsAddress.marks {s : List Char} {n : Nat} (h : IsAddress address? s n) :
    '-' ∉ s ∧ '/' ∉ s := by
  obtain ⟨_, h⟩ := h
  have := hmarks h
  exact ⟨fun hc => this.1 (mem_trim hc (by decide)), fun hc => this.2 (mem_trim hc (by decide))⟩

theorem readAddressRange_of_isAddressRange (hw : w < 2 ^ 32) {u : List Char} {r : Range w}
    (h : IsAddressRange address? u r) : readAddressRange address? u = .ok r := by
  have hlo := Nat.lt_of_le_of_lt r.lo_le_hi r.hi_lt
  have hread : ∀ {part n} (h : n < 2 ^ w), IsAddress address? part n →
      readAddress address? part = .ok ⟨n, h⟩ := fun _ h => readAddress_eq_ok_iff.2 h
  cases h with
  | @block a l length _ ha hl hblock =>
    have hlength : readNat 32 (trim l) = .ok ⟨length, Nat.lt_of_le_of_lt hblock.le hw⟩ :=
      readNat_eq_ok_iff.2 hl
    have hsome : Range.block? r.lo length = some r :=
      Range.block?_eq_some_iff_isBlock.2 ⟨rfl, hblock⟩
    rw [readAddressRange, cutAt_append (ha.marks hmarks).2]
    simp only [hlength, if_neg (Nat.not_lt.2 hblock.le)]
    refine bind_eq_ok.2 ⟨_, hread hlo ha, ?_⟩
    simp only [hsome]
  | @ends a b _ ha hb =>
    -- reading looks for a slash first, so there must be none in either address
    have hslash : '/' ∉ a ++ '-' :: b := by
      simp [(ha.marks hmarks).2, (hb.marks hmarks).2]
    rw [readAddressRange, cutAt_eq_none_iff.2 hslash]
    simp only [cutAt_append (ha.marks hmarks).1]
    exact bind_eq_ok.2 ⟨_, hread hlo ha,
      bind_eq_ok.2 ⟨_, hread r.hi_lt hb, between_eq_ok_iff.2 ⟨rfl, rfl⟩⟩⟩
  | single ha hhi =>
    rw [readAddressRange, cutAt_eq_none_iff.2 (ha.marks hmarks).2]
    simp only [cutAt_eq_none_iff.2 (ha.marks hmarks).1]
    exact bind_eq_ok.2 ⟨_, hread hlo ha, congrArg Except.ok (single_eq_iff.2 ⟨rfl, hhi⟩)⟩

/-- Reading accepts the address ranges of the grammar. -/
theorem readAddressRange_eq_ok_iff (hw : w < 2 ^ 32) {u : List Char} {r : Range w} :
    readAddressRange address? u = .ok r ↔ IsAddressRange address? u r :=
  ⟨isAddressRange_of_read, readAddressRange_of_isAddressRange hmarks hw⟩

end

theorem marks_of_v6 {s : List Char} {n : Fin (2 ^ 128)} (h : Address.V6.read? s = some n) :
    '-' ∉ s ∧ '/' ∉ s := by
  have hhyphen : ¬ Address.V6.IsReadable '-' := by
    unfold Address.V6.IsReadable
    decide
  have hslash : ¬ Address.V6.IsReadable '/' := by
    unfold Address.V6.IsReadable
    decide
  exact ⟨fun hc => hhyphen (Address.V6.mem_of_read? h hc),
    fun hc => hslash (Address.V6.mem_of_read? h hc)⟩

theorem marks_of_v4 {s : List Char} {n : Fin (2 ^ 32)} (h : Address.V4.read? s = some n) :
    '-' ∉ s ∧ '/' ∉ s :=
  ⟨fun hc => absurd (Address.V4.mem_of_read? h hc) (by decide),
    fun hc => absurd (Address.V4.mem_of_read? h hc) (by decide)⟩

/-! ## Resources -/

/-- Reading accepts the trimmed texts of the grammar. -/
theorem readTrimmed_eq_ok_iff {u : List Char} {r : Resource} (hu : IsTrimmed u) :
    readTrimmed u = .ok r ↔ IsNotation u r := by
  have hv6 : ∀ r, readAddressRange Address.V6.read? u = .ok r ↔
      IsAddressRange Address.V6.read? u r :=
    fun _ => readAddressRange_eq_ok_iff marks_of_v6 (by decide)
  have hv4 : ∀ r, readAddressRange Address.V4.read? u = .ok r ↔
      IsAddressRange Address.V4.read? u r :=
    fun _ => readAddressRange_eq_ok_iff marks_of_v4 (by decide)
  unfold readTrimmed
  constructor
  · intro h
    split at h
    · rename_i hstarts
      have hbegins := startsWithAS_iff.1 hstarts
      obtain ⟨r', hr, rfl⟩ := map_eq_ok.1 h
      exact .asn hbegins ((readAsnRange_eq_ok_iff hu hbegins).1 hr)
    · rename_i hstarts
      rw [startsWithAS_iff] at hstarts
      split at h
      · obtain ⟨r', hr, rfl⟩ := map_eq_ok.1 h
        exact .ipv6 hstarts ‹_› ((hv6 r').1 hr)
      · obtain ⟨r', hr, rfl⟩ := map_eq_ok.1 h
        exact .ipv4 hstarts ‹_› ((hv4 r').1 hr)
  · intro h
    cases h with
    | asn hbegins hr =>
      rw [if_pos (startsWithAS_iff.2 hbegins)]
      exact map_eq_ok.2 ⟨_, (readAsnRange_eq_ok_iff hu hbegins).2 hr, rfl⟩
    | ipv6 hbegins hcolon hr =>
      rw [if_neg (startsWithAS_iff.not.2 hbegins), if_pos hcolon]
      exact map_eq_ok.2 ⟨_, (hv6 _).2 hr, rfl⟩
    | ipv4 hbegins hcolon hr =>
      rw [if_neg (startsWithAS_iff.not.2 hbegins), if_neg hcolon]
      exact map_eq_ok.2 ⟨_, (hv4 _).2 hr, rfl⟩

/-- A trimmed text denotes one resource at most. -/
theorem IsNotation.unique {u : List Char} {r s : Resource} (hu : IsTrimmed u)
    (hr : IsNotation u r) (hs : IsNotation u s) : r = s := by
  rw [← readTrimmed_eq_ok_iff hu] at hr hs
  exact Except.ok.inj (hr.symm.trans hs)

theorem not_isNotation_nil (r : Resource) : ¬ IsNotation [] r := by
  rw [← readTrimmed_eq_ok_iff (isTrimmed_of_forall (List.forall_mem_nil _))]
  intro h
  cases h

/-- What a refusal shows of a text: the text without the blanks around it, or all of a blank one. -/
def shown (text : List Char) : String := .ofList (if trim text = [] then text else trim text)

/-- Reading gives the resource that a text denotes, or a refusal that shows the text. -/
theorem readList_cases (text : List Char) :
    (∃ r, readList text = .ok r ∧ IsNotation (trim text) r) ∨
      ((∀ r, ¬ IsNotation (trim text) r) ∧
        ∃ cause, readList text = .error ⟨shown text, cause⟩) := by
  unfold readList shown
  by_cases hnil : trim text = []
  · simp only [hnil]
    exact .inr ⟨not_isNotation_nil, _, rfl⟩
  · simp only [if_neg hnil]
    cases hread : readTrimmed (trim text) with
    | ok r => exact .inl ⟨r, rfl, (readTrimmed_eq_ok_iff (isTrimmed_trim text)).1 hread⟩
    | error cause =>
      refine .inr ⟨fun r hr => ?_, cause, rfl⟩
      rw [← readTrimmed_eq_ok_iff (isTrimmed_trim text), hread] at hr
      cases hr

/-- **Reading accepts exactly the grammar.**  A text is read as a resource when the text without the
blanks around it denotes that resource, and a text that denotes none is refused as an invalid
resource. -/
theorem read_exact (text : String) :
    (∀ r, read text = .ok r ↔ IsNotation (trim text.toList) r) ∧
    ((∀ r, ¬ IsNotation (trim text.toList) r) ↔ ∃ e, read text = .error e ∧
      e.fault = .invalidResource (shown text.toList) e.cause.message) := by
  rw [read]
  rcases readList_cases text.toList with ⟨r, hread, hr⟩ | ⟨hnone, cause, hread⟩
  · rw [hread]
    refine ⟨fun s => ?_, ?_⟩
    · rw [Except.ok.injEq]
      constructor
      · rintro rfl
        exact hr
      · exact hr.unique (isTrimmed_trim _)
    · refine iff_of_false (fun h => h r hr) ?_
      rintro ⟨e, he, -⟩
      cases he
  · rw [hread]
    exact ⟨fun s => iff_of_false (by simp) (hnone s), iff_of_true hnone ⟨_, rfl, rfl⟩⟩

example : readList " as+1 - 07\t".toList = .ok (.asn ⟨1, 7, by decide, by decide⟩) := by decide

end Resource
end RpkiOverlap
