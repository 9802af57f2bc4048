import RpkiOverlap.Proofs.Address.V6
import RpkiOverlap.Proofs.Json.Value
import RpkiOverlap.Proofs.Range.Prefix
import RpkiOverlap.Proofs.Resource.Canonical

/-! # The notation of resources read back

What is written for a resource is read as that resource (`Resource.read_print`), and what is written
for a set is read as that set (`ResourceSet.read_print`).

* The family is recognised by the text: only AS numbers are written with the letters `AS`, and only
  IPv6 addresses with colons.
* A prefix is written only for a range that is one aligned block, and that block is what its lower
  end and its length stand for (`Range.prefixLength?_eq_some_iff`).
* Resources are written without blanks and commas (`Resource.mem_printList`), so the text of a set
  is cut into those of its resources (`ResourceSet.parts_intercalate`).

`ResourceSet.reads_back` puts together what the texts of resources are good for: a resource comes
back from its notation, a set comes back from its notation and from its JSON text, and so the
notation tells sets apart.
-/
namespace RpkiOverlap

namespace Resource
open Text

/-! ## Characters -/

/-- The characters that addresses are written with. -/
def IsAddressChar (c : Char) : Prop := c = ':' ∨ c = '.' ∨ ∃ d < 16, c = Nat.digitChar d

/-- The characters that resources are written with. -/
def IsNotationChar (c : Char) : Prop := c ∈ ['A', 'S', '-', '/'] ∨ IsAddressChar c

theorem IsAddressChar.not_mem {c : Char} (h : IsAddressChar c) : c ∉ ['-', '/', 'S', 's'] := by
  rcases h with rfl | rfl | ⟨d, hd, rfl⟩
  · decide
  · decide
  · decide +revert

/-- No character of the notation is a blank or a comma. -/
theorem IsNotationChar.plain {c : Char} (h : IsNotationChar c) : isBlank c = false ∧ c ≠ ',' := by
  rcases h with h | rfl | rfl | ⟨d, hd, rfl⟩
  · simp only [List.mem_cons, List.not_mem_nil, or_false] at h
    rcases h with rfl | rfl | rfl | rfl
    all_goals decide
  · decide
  · decide
  · decide +revert

theorem isAddressChar_of_mem_decimal {n : Nat} {c : Char} (h : c ∈ decimal n) :
    IsAddressChar c := by
  obtain ⟨d, hd, hc⟩ := mem_toDigits (by decide) h
  exact .inr (.inr ⟨d, by omega, hc⟩)

/-- A text of which the second letter is no `S` is no AS number. -/
theorem startsWithAS_eq_false {s : List Char} (h : ∀ c ∈ s, c ∉ ['S', 's']) :
    startsWithAS s = false := by
  unfold startsWithAS
  split
  · rename_i a b c r
    have hb := h b (by simp)
    simp only [List.mem_cons, List.not_mem_nil, or_false, not_or] at hb
    simp [hb]
  · rfl

/-! ## AS numbers -/

theorem isNotationChar_of_mem_asn {n : Nat} {c : Char} (h : c ∈ 'A' :: 'S' :: decimal n) :
    IsNotationChar c := by
  rcases List.mem_cons.1 h with rfl | h
  · exact .inl (by decide)
  · rcases List.mem_cons.1 h with rfl | h
    · exact .inl (by decide)
    · exact .inr (isAddressChar_of_mem_decimal h)

theorem startsWithAS_asn (n : Nat) (rest : List Char) :
    startsWithAS ('A' :: 'S' :: decimal n ++ rest) = true := by
  obtain ⟨c, cs, hcs⟩ := List.exists_cons_of_ne_nil (decimal_ne_nil n)
  simp [hcs, startsWithAS]

theorem readAsn_asn {n : Nat} (h : n < 2 ^ 32) :
    readAsn ('A' :: 'S' :: decimal n) = .ok ⟨n, h⟩ := by
  have hstarts : startsWithAS ('A' :: 'S' :: decimal n) = true := by
    simpa using startsWithAS_asn n []
  have htrim : trim ('A' :: 'S' :: decimal n) = 'A' :: 'S' :: decimal n :=
    trim_of_forall fun _ hc => (isNotationChar_of_mem_asn hc).plain.1
  simp only [readAsn, htrim, hstarts, ↓reduceIte, List.drop_succ_cons,
    List.drop_zero, readNat_decimal h]
  rfl

theorem hyphen_not_mem_asn (n : Nat) : '-' ∉ 'A' :: 'S' :: decimal n := by
  intro h
  rcases List.mem_cons.1 h with h | h
  · exact absurd h (by decide)
  · rcases List.mem_cons.1 h with h | h
    · exact absurd h (by decide)
    · exact (isAddressChar_of_mem_decimal h).not_mem (by decide)

theorem between_eq {w : Nat} (r : Range w) :
    between ⟨r.lo, Nat.lt_of_le_of_lt r.lo_le_hi r.hi_lt⟩ ⟨r.hi, r.hi_lt⟩ = .ok r := by
  rw [between, dif_pos r.lo_le_hi]

theorem readAsnRange_print (r : Range 32) : readAsnRange (printAsnRange r) = .ok r := by
  have hlo : r.lo < 2 ^ 32 := Nat.lt_of_le_of_lt r.lo_le_hi r.hi_lt
  by_cases heq : r.lo = r.hi
  · rw [printAsnRange, if_pos heq, readAsnRange, cutAt_eq_none_iff.2 (hyphen_not_mem_asn r.lo)]
    simp only [readAsn_asn hlo]
    exact congrArg Except.ok (Range.ext_ends rfl heq)
  · rw [printAsnRange, if_neg heq, readAsnRange, cutAt_append (hyphen_not_mem_asn r.lo)]
    simp only [readAsn_asn hlo, readAsn_asn r.hi_lt]
    exact between_eq r

/-! ## Addresses -/

/-- An address range is written in addresses, marks and a length. -/
theorem mem_printAddressRange {w : Nat} {address : Nat → List Char} {r : Range w} {c : Char}
    (h : c ∈ printAddressRange address r) :
    c ∈ ['-', '/'] ∨ (∃ n, c ∈ decimal n) ∨ ∃ n, c ∈ address n := by
  unfold printAddressRange at h
  split at h
  · rcases List.mem_append.1 h with h | h
    · exact .inr (.inr ⟨_, h⟩)
    · rcases List.mem_cons.1 h with rfl | h
      · exact .inl (by decide)
      · exact .inr (.inl ⟨_, h⟩)
  · rcases List.mem_append.1 h with h | h
    · exact .inr (.inr ⟨_, h⟩)
    · rcases List.mem_cons.1 h with rfl | h
      · exact .inl (by decide)
      · exact .inr (.inr ⟨_, h⟩)

section
variable {w : Nat} {address : Nat → List Char}
  (hchars : ∀ n, ∀ c ∈ address n, IsAddressChar c)
include hchars

theorem isNotationChar_of_mem_printAddressRange {r : Range w} {c : Char}
    (h : c ∈ printAddressRange address r) : IsNotationChar c := by
  rcases mem_printAddressRange h with h | ⟨n, h⟩ | ⟨n, h⟩
  · exact .inl (List.mem_append_right ['A', 'S'] h)
  · exact .inr (isAddressChar_of_mem_decimal h)
  · exact .inr (hchars n c h)

theorem startsWithAS_printAddressRange (r : Range w) :
    startsWithAS (printAddressRange address r) = false := by
  refine startsWithAS_eq_false fun c hc => ?_
  have hnot : IsAddressChar c → c ∉ ['S', 's'] := fun h hmem =>
    h.not_mem (List.mem_append_right ['-', '/'] hmem)
  rcases mem_printAddressRange hc with h | ⟨n, h⟩ | ⟨n, h⟩
  · simp only [List.mem_cons, List.not_mem_nil, or_false] at h
    rcases h with rfl | rfl
    all_goals decide
  · exact hnot (isAddressChar_of_mem_decimal h)
  · exact hnot (hchars n c h)

variable {address? : List Char → Option (Fin (2 ^ w))}
  (hread : ∀ n (h : n < 2 ^ w), address? (address n) = some ⟨n, h⟩)
include hread

theorem readAddress_print {n : Nat} (h : n < 2 ^ w) :
    readAddress address? (address n) = .ok ⟨n, h⟩ := by
  have htrim : trim (address n) = address n :=
    trim_of_forall fun c hc => (IsNotationChar.plain (.inr (hchars n c hc))).1
  rw [readAddress, htrim, hread n h]

/-- Address ranges are read back in either notation. -/
theorem readAddressRange_print (hw : w < 2 ^ 32) (r : Range w) :
    readAddressRange address? (printAddressRange address r) = .ok r := by
  have hlo : r.lo < 2 ^ w := Nat.lt_of_le_of_lt r.lo_le_hi r.hi_lt
  have hnot : ∀ n, '-' ∉ address n ∧ '/' ∉ address n := fun n =>
    ⟨fun h => (hchars n _ h).not_mem (by decide), fun h => (hchars n _ h).not_mem (by decide)⟩
  unfold printAddressRange
  split
  · rename_i l hl
    have hblock := Range.prefixLength?_eq_some_iff.1 hl
    have hle : l ≤ w := (Range.block?_eq_some_iff.1 hblock).1
    have htrim : trim (decimal l) = decimal l :=
      trim_of_forall fun c hc => isBlank_of_isDigit (isDigit_of_mem_decimal hc)
    have hnotlt : ¬ w < l := by omega
    rw [readAddressRange, cutAt_append (hnot r.lo).2]
    simp only [htrim, readNat_decimal (Nat.lt_of_le_of_lt hle hw), if_neg hnotlt,
      readAddress_print hchars hread hlo, bind, Except.bind, hblock]
  · have hslash : '/' ∉ address r.lo ++ '-' :: address r.hi := by
      simp [(hnot r.lo).2, (hnot r.hi).2]
    rw [readAddressRange, cutAt_eq_none_iff.2 hslash]
    simp only [cutAt_append (hnot r.lo).1, readAddress_print hchars hread hlo,
      readAddress_print hchars hread r.hi_lt]
    exact between_eq r

end

theorem isAddressChar_v4 (n : Nat) : ∀ c ∈ Address.V4.print n, IsAddressChar c := by
  intro c hc
  rcases Address.V4.mem_print hc with h | ⟨d, hd, h⟩
  · exact .inr (.inl h)
  · exact .inr (.inr ⟨d, by omega, h⟩)

theorem isAddressChar_v6 (n : Nat) : ∀ c ∈ Address.V6.print n, IsAddressChar c :=
  fun _ => Address.V6.mem_print

theorem read?_v4 (n : Nat) (h : n < 2 ^ 32) :
    Address.V4.read? (Address.V4.print n) = some ⟨n, h⟩ := by
  rw [Address.V4.read?_print]
  exact congrArg some (Fin.ext (Nat.mod_eq_of_lt h))

theorem read?_v6 (n : Nat) (h : n < 2 ^ 128) :
    Address.V6.read? (Address.V6.print n) = some ⟨n, h⟩ := by
  rw [Address.V6.read?_print]
  exact congrArg some (Fin.ext (Nat.mod_eq_of_lt h))

/-! ## Resources -/

/-- Resources are written in the characters of the notation. -/
theorem mem_printList {r : Resource} {c : Char} (h : c ∈ r.printList) : IsNotationChar c := by
  cases r with
  | asn r =>
    rw [printList, printAsnRange] at h
    split at h
    · exact isNotationChar_of_mem_asn h
    · rcases List.mem_append.1 h with h | h
      · exact isNotationChar_of_mem_asn h
      · rcases List.mem_cons.1 h with rfl | h
        · exact .inl (by decide)
        · exact isNotationChar_of_mem_asn h
  | ipv4 r => exact isNotationChar_of_mem_printAddressRange isAddressChar_v4 h
  | ipv6 r => exact isNotationChar_of_mem_printAddressRange isAddressChar_v6 h

theorem colon_mem_printAddressRange (r : Range 128) :
    ':' ∈ printAddressRange Address.V6.print r := by
  unfold printAddressRange
  split
  · exact List.mem_append_left _ (Address.V6.colon_mem_print r.lo)
  · exact List.mem_append_left _ (Address.V6.colon_mem_print r.lo)

theorem colon_not_mem_printAddressRange (r : Range 32) :
    ':' ∉ printAddressRange Address.V4.print r := by
  intro h
  rcases mem_printAddressRange h with h | ⟨n, h⟩ | ⟨n, h⟩
  · exact absurd h (by decide)
  · exact absurd (isDigit_of_mem_decimal h) (by decide)
  · exact Address.V4.colon_not_mem_print n h

theorem readTrimmed_printList (r : Resource) : readTrimmed r.printList = .ok r := by
  cases r with
  | asn r =>
    have hstarts : startsWithAS (printAsnRange r) = true := by
      unfold printAsnRange
      split
      · simpa using startsWithAS_asn r.lo []
      · exact startsWithAS_asn r.lo _
    rw [printList, readTrimmed, if_pos hstarts, readAsnRange_print]
    rfl
  | ipv4 r =>
    have hread := readAddressRange_print isAddressChar_v4 read?_v4 (by decide) r
    have hstarts := startsWithAS_printAddressRange isAddressChar_v4 r
    rw [printList, readTrimmed, hstarts, if_neg Bool.false_ne_true,
      if_neg (colon_not_mem_printAddressRange r), hread]
    rfl
  | ipv6 r =>
    have hread := readAddressRange_print isAddressChar_v6 read?_v6 (by decide) r
    have hstarts := startsWithAS_printAddressRange isAddressChar_v6 r
    rw [printList, readTrimmed, hstarts, if_neg Bool.false_ne_true,
      if_pos (colon_mem_printAddressRange r), hread]
    rfl

theorem printList_ne_nil (r : Resource) : r.printList ≠ [] := by
  intro h
  have hread := readTrimmed_printList r
  rw [h] at hread
  cases hread

theorem trim_printList (r : Resource) : trim r.printList = r.printList :=
  trim_of_forall fun _ hc => (mem_printList hc).plain.1

/-- What is written for a resource is read as that resource. -/
theorem readList_printList (r : Resource) : readList r.printList = .ok r := by
  rw [readList, trim_printList]
  simp only [if_neg (printList_ne_nil r), readTrimmed_printList]
  rfl

theorem read_print (r : Resource) : read r.print = .ok r := by
  rw [read, print, String.toList_ofList, readList_printList]

end Resource

namespace ResourceSet
open Text

/-! ## Sets -/

/-- A comma and a blank between texts are a comma between texts that begin with a blank. -/
theorem intercalate_comma (t : List Char) (ts : List (List Char)) :
    [',', ' '].intercalate (t :: ts) = [','].intercalate (t :: ts.map (' ' :: ·)) := by
  induction ts generalizing t with
  | nil => simp
  | cons t' ts ih =>
    rw [List.intercalate_cons_cons, ih t', List.map_cons, List.intercalate_cons_cons,
      List.intercalate_cons_cons_left]
    simp

/-- The parts of texts that are joined by commas and blanks are the texts. -/
theorem parts_intercalate {ts : List (List Char)}
    (h : ∀ t ∈ ts, t ≠ [] ∧ trim t = t ∧ ',' ∉ t) : parts ([',', ' '].intercalate ts) = ts := by
  cases ts with
  | nil => decide
  | cons t ts =>
    obtain ⟨⟨hne, htrim, hcomma⟩, hts⟩ := List.forall_mem_cons.1 h
    have hcommas : ∀ u ∈ t :: ts.map (' ' :: ·), ',' ∉ u := by
      intro u hu
      rcases List.mem_cons.1 hu with rfl | hu
      · exact hcomma
      · obtain ⟨t', ht', rfl⟩ := List.mem_map.1 hu
        simpa using (hts t' ht').2.2
    have htrims : (ts.map (' ' :: ·)).map trim = ts := by
      rw [List.map_map, List.map_congr_left (g := id), List.map_id]
      intro t' ht'
      exact (trim_cons_of_isBlank (by decide)).trans (hts t' ht').2.1
    rw [parts, intercalate_comma, List.splitOn_intercalate ',' hcommas (by simp), List.map_cons,
      htrims, htrim, List.filter_eq_self]
    intro u hu
    simpa using (h u hu).1

/-- Among the runs of a set, those of a family are the runs of its numbers. -/
theorem filterMap_toList (s : ResourceSet) (f : Family) :
    s.toList.filterMap (rangeIn? f) = (s.part f).ranges :=
  filterMap_ofRanges (fun f => (s.part f).ranges) f

/-- The runs of a set make the set again. -/
theorem ofList_toList (s : ResourceSet) : ofList s.toList = s :=
  ext_has fun f n => by
    rw [has_iff_mem_part, has_iff_mem_part, part_ofList, filterMap_toList, RangeSet.ofList_ranges]

theorem mapM_readList (rs : List Resource) :
    (rs.map Resource.printList).mapM Resource.readList = .ok rs := by
  induction rs with
  | nil => rfl
  | cons r rs ih =>
    rw [List.map_cons, List.mapM_cons, Resource.readList_printList, ih]
    rfl

/-- What is written for a set is read as that set. -/
theorem readList_printList (s : ResourceSet) : readList s.printList = .ok s := by
  have hparts : parts s.printList = s.toList.map Resource.printList := by
    refine parts_intercalate fun t ht => ?_
    obtain ⟨r, _, rfl⟩ := List.mem_map.1 ht
    exact ⟨r.printList_ne_nil, r.trim_printList,
      fun h => (Resource.mem_printList h).plain.2 rfl⟩
  rw [readList, hparts, mapM_readList]
  exact congrArg Except.ok s.ofList_toList

theorem read_print (s : ResourceSet) : read s.print = .ok s := by
  rw [read, print, String.toList_ofList, readList_printList]

/-- The JSON text of a set is read as that set. -/
theorem ofJson?_toJson (s : ResourceSet) : ofJson? s.toJson = some s := by
  have hstring : Json.read? s.toJson = some (.string s.print) :=
    (Json.IsText.string s.print).read?_eq
  simp only [ofJson?, hstring, read_print, Except.toOption]

/-- Sets with the same notation are the same set. -/
theorem print_inj {s t : ResourceSet} (h : s.print = t.print) : s = t := by
  have hread : (.ok s : Except _ ResourceSet) = .ok t :=
    calc .ok s = read s.print := (read_print s).symm
      _ = read t.print := by rw [h]
      _ = .ok t := read_print t
  exact Except.ok.inj hread

/-- **Resources come back from their texts.**  This holds for every resource in its notation and
for every set in its notation and in JSON; two notations of sets are the same only for the same
set. -/
theorem reads_back :
    (∀ r : Resource, Resource.read r.print = .ok r) ∧
      (∀ s : ResourceSet, read s.print = .ok s) ∧
      (∀ s : ResourceSet, ofJson? s.toJson = some s) ∧
      ∀ s t : ResourceSet, s.print = t.print ↔ s = t := by
  refine ⟨Resource.read_print, read_print, ofJson?_toJson, fun s t => ⟨print_inj, ?_⟩⟩
  rintro rfl
  rfl

end ResourceSet
end RpkiOverlap
