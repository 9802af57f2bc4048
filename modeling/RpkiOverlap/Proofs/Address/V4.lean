import RpkiOverlap.Address.V4
import RpkiOverlap.Proofs.Text.Numeral

/-! # IPv4 address text read back

The text that is written for a number is read as that number (`read?_print`).  Any text that is read
as a number is made of decimal digits and points (`mem_of_read?`).
-/
namespace RpkiOverlap.Address.V4
open Text

theorem readOctet?_decimal {n : Nat} (h : n < 256) : readOctet? (decimal n) = some n := by
  have hlength : (decimal n).length ≤ 3 := length_decimal_le (by decide) (by omega)
  have hdigits : (decimal n).all Char.isDigit = true :=
    List.all_eq_true.2 fun c => isDigit_of_mem_decimal
  have hzero : (decimal n).head? = some '0' → (decimal n).length = 1 := by
    intro hhead
    rw [eq_zero_of_head?_decimal hhead]
    rfl
  rw [readOctet?, ofDigitChars_decimal, if_pos ⟨decimal_ne_nil n, hlength, hdigits, hzero, h⟩]

/-- The octets of a number make its low 32 bits. -/
theorem ofOctets_octets (n : Nat) :
    ofOctets (n / 256 ^ 3 % 256) (n / 256 ^ 2 % 256) (n / 256 % 256) (n % 256) = .ofNat _ n := by
  refine Fin.ext ?_
  show _ % 2 ^ 32 = n % 2 ^ 32
  omega

theorem read?_print (n : Nat) : read? (print n) = some (.ofNat _ n) := by
  have hpoint : ∀ l ∈ (octets n).map decimal, '.' ∉ l := by
    intro l hl hmem
    obtain ⟨m, _, rfl⟩ := List.mem_map.1 hl
    exact absurd (isDigit_of_mem_decimal hmem) (by decide)
  have hsplit : (print n).splitOn '.' = (octets n).map decimal :=
    List.splitOn_intercalate '.' hpoint (by simp [octets])
  have hlt : ∀ m : Nat, m % 256 < 256 := fun m => Nat.mod_lt m (by decide)
  simp only [read?, hsplit, octets, List.map_cons, List.map_nil, readOctet?_decimal (hlt _),
    Option.bind_eq_bind, Option.bind_some, Option.pure_def, ofOctets_octets]

/-- The characters of an address are decimal digits and points. -/
theorem mem_print {n : Nat} {c : Char} (h : c ∈ print n) :
    c = '.' ∨ ∃ d < 10, c = Nat.digitChar d := by
  rcases mem_intercalate h with h | ⟨t, ht, h⟩
  · exact .inl (List.mem_singleton.1 h)
  · obtain ⟨m, _, rfl⟩ := List.mem_map.1 ht
    exact .inr (mem_toDigits (by decide) h)

theorem colon_not_mem_print (n : Nat) : ':' ∉ print n := by
  intro h
  rcases mem_print h with heq | ⟨d, hd, heq⟩
  · exact absurd heq (by decide)
  · revert heq
    decide +revert

/-! ## Texts that are read -/

theorem isDigit_of_readOctet? {s : List Char} {n : Nat} (h : readOctet? s = some n) :
    ∀ c ∈ s, c.isDigit = true := by
  rw [readOctet?, Option.ite_none_right_eq_some] at h
  exact List.all_eq_true.1 h.1.2.2.1

/-- A text that is read as an address is made of decimal digits and points. -/
theorem mem_of_read? {s : List Char} {n : Fin (2 ^ 32)} (h : read? s = some n) {c : Char}
    (hc : c ∈ s) : c = '.' ∨ c.isDigit = true := by
  have hoctets : ∀ t ∈ s.splitOn '.', ∀ c ∈ t, c.isDigit = true := by
    unfold read? at h
    split at h
    · rename_i a b c d hsplit
      simp only [Option.bind_eq_bind, Option.bind_eq_some_iff] at h
      obtain ⟨_, ha, _, hb, _, hc, _, hd, -⟩ := h
      rw [hsplit]
      simp only [List.forall_mem_cons]
      exact ⟨isDigit_of_readOctet? ha, isDigit_of_readOctet? hb, isDigit_of_readOctet? hc,
        isDigit_of_readOctet? hd, List.forall_mem_nil _⟩
    · cases h
  exact (eq_or_mem_splitOn hc).imp_right fun ⟨t, ht, hct⟩ => hoctets t ht c hct

end RpkiOverlap.Address.V4
