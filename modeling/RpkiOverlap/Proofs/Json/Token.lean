import RpkiOverlap.Json.Printer
import RpkiOverlap.Json.Token
import RpkiOverlap.Proofs.Text.Numeral

/-! # JSON tokens read back

A string between its quotes is one unit for each character (`readUnits?_printChar`), so a written
string is one token with the text that was written (`Token.read?_printString`).

`Tokenized text ts` says that a text is cut into the tokens `ts` whatever comes after it.  Texts of
this kind can be put one after the other, and alone they are cut into just these tokens
(`Tokenized.tokens?_eq`).
-/
namespace RpkiOverlap.Json
open Text

/-! ## Strings -/

/-- The unit as which a character is written. -/
def unitOf (c : Char) : StringUnit :=
  if c.toNat < 0x20 ∧ c ∉ ['\x08', '\x0c', '\n', '\r', '\t'] then .code c.toNat else .char c

/-- The characters that are written with four hexadecimal digits have small codes. -/
theorem hex4?_of_lt {n : Nat} (h : n < 0x20) :
    hex4? '0' '0' (Nat.digitChar (n / 16)) (Nat.digitChar (n % 16)) = some n := by
  decide +revert

/-- A character after a backslash is one unit. -/
theorem readUnits?_escape {c e : Char} (he : e ≠ 'u') (hsimple : simpleEscape? e = some c)
    (r : List Char) :
    readUnits? ('\\' :: e :: r) = (readUnits? r).map fun p => (.char c :: p.1, p.2) := by
  rw [readUnits?, hsimple]
  · cases readUnits? r <;> rfl
  · simp [he]

theorem readUnits?_printChar (c : Char) (r : List Char) :
    readUnits? (printChar c ++ r) = (readUnits? r).map fun p => (unitOf c :: p.1, p.2) := by
  -- The three ways of writing: a short escape, a code, and the character itself.
  by_cases hshort : c ∈ ['"', '\\', '\x08', '\x0c', '\n', '\r', '\t']
  · simp only [List.mem_cons, List.not_mem_nil, or_false] at hshort
    rcases hshort with rfl | rfl | rfl | rfl | rfl | rfl | rfl
    all_goals exact readUnits?_escape (by decide) rfl r
  · simp only [List.mem_cons, List.not_mem_nil, or_false, not_or] at hshort
    obtain ⟨hquote, hslash, hb, hf, hn, hr, ht⟩ := hshort
    by_cases hcontrol : c.toNat < 0x20
    · have hunit : unitOf c = .code c.toNat := by simp [unitOf, hcontrol, hb, hf, hn, hr, ht]
      have hprint : printChar c =
          ['\\', 'u', '0', '0', Nat.digitChar (c.toNat / 16), Nat.digitChar (c.toNat % 16)] := by
        simp [printChar, *]
      rw [hprint, hunit]
      simp only [List.cons_append, List.nil_append, readUnits?, hex4?_of_lt hcontrol]
      cases readUnits? r <;> rfl
    · have hunit : unitOf c = .char c := by simp [unitOf, hcontrol]
      have hprint : printChar c = [c] := by simp [printChar, *]
      have hself : ¬ (c.toNat < 0x20 ∨ c = '\\') := not_or.2 ⟨hcontrol, hslash⟩
      rw [hprint, hunit, List.cons_append, List.nil_append, readUnits?, if_neg hself]
      · exact hquote
      · intro _ _ _ _ _ h
        exact absurd h hslash
      · intro _ _ h
        exact absurd h hslash

theorem joinUnits?_unitOf (cs : List Char) : joinUnits? (cs.map unitOf) = some cs := by
  induction cs with
  | nil => rfl
  | cons c cs ih =>
    rw [List.map_cons, unitOf]
    split
    · rename_i h
      -- Only control characters are written as codes, and these are no halves of pairs.
      have hfirst : ¬ (0xD800 ≤ c.toNat ∧ c.toNat ≤ 0xDBFF) := by omega
      have hsecond : ¬ (0xDC00 ≤ c.toNat ∧ c.toNat ≤ 0xDFFF) := by omega
      unfold joinUnits?
      simp only [if_neg hfirst, if_neg hsecond, ih, Option.map_some, Char.ofNat_toNat]
    · rw [joinUnits?, ih, Option.map_some]

theorem readUnits?_print (cs r : List Char) :
    readUnits? (cs.flatMap printChar ++ '"' :: r) = some (cs.map unitOf, r) := by
  induction cs with
  | nil => rfl
  | cons c cs ih =>
    rw [List.flatMap_cons, List.append_assoc, readUnits?_printChar, ih]
    rfl

/-- A written string is one token. -/
theorem Token.read?_printString (s : String) (r : List Char) :
    Token.read? (printString s ++ r) = some (.string (some s), r) := by
  have hunits : readString? (s.toList.flatMap printChar ++ '"' :: r) = some (some s, r) := by
    simp [readString?, readUnits?_print, joinUnits?_unitOf]
  simp [printString, Token.read?, hunits]

/-! ## Texts and their tokens -/

/-- One token is taken after the blanks, and one step with it. -/
theorem tokensWithin?_succ {s u : List Char} {steps : Nat} (hdrop : s.dropWhile isBlank = u)
    (hne : u ≠ []) :
    tokensWithin? (steps + 1) s =
      (Token.read? u).bind fun p => (tokensWithin? steps p.2).map (p.1 :: ·) := by
  obtain ⟨c, cs, rfl⟩ := List.exists_cons_of_ne_nil hne
  rw [tokensWithin?.eq_def]
  simp only [hdrop, Option.map_eq_bind, Function.comp_def, bind, pure]

theorem tokensWithin?_nil (steps : Nat) : tokensWithin? steps [] = some [] := by
  cases steps <;> simp [tokensWithin?.eq_def]

/-- The text is cut into the tokens, whatever comes after it. -/
structure Tokenized (text : List Char) (ts : List Token) : Prop where
  length_le : ts.length ≤ text.length
  append : ∀ steps rest, tokensWithin? (ts.length + steps) (text ++ rest) =
    (tokensWithin? steps rest).map (ts ++ ·)

namespace Tokenized
variable {text text' : List Char} {ts ts' : List Token}

/-- A text that is read as one token. -/
theorem one {c : Char} {cs : List Char} {t : Token} (hblank : isBlank c = false)
    (hread : ∀ rest, Token.read? (c :: cs ++ rest) = some (t, rest)) : Tokenized (c :: cs) [t] where
  length_le := by simp
  append steps rest := by
    have hdrop : (c :: cs ++ rest).dropWhile isBlank = c :: cs ++ rest := by simp [hblank]
    rw [List.length_singleton, Nat.add_comm, tokensWithin?_succ hdrop (List.cons_ne_nil _ _),
      hread rest]
    rfl

/-- A mark is one token. -/
theorem mark {c : Char} {t : Token}
    (h : (c, t) ∈ [('[', .openBracket), (']', .closeBracket), ('{', .openBrace), ('}', .closeBrace),
      (',', .comma), (':', .colon)]) : Tokenized [c] [t] := by
  simp only [List.mem_cons, Prod.mk.injEq, List.not_mem_nil, or_false] at h
  rcases h with ⟨rfl, rfl⟩ | ⟨rfl, rfl⟩ | ⟨rfl, rfl⟩ | ⟨rfl, rfl⟩ | ⟨rfl, rfl⟩ | ⟨rfl, rfl⟩
  all_goals exact one (by decide) fun _ => rfl

/-- Texts may be put one after the other. -/
theorem concat (h : Tokenized text ts) (h' : Tokenized text' ts') :
    Tokenized (text ++ text') (ts ++ ts') where
  length_le := by
    have := h.length_le
    have := h'.length_le
    simp only [List.length_append]
    omega
  append steps rest := by
    rw [List.length_append, Nat.add_assoc, List.append_assoc, h.append, h'.append, Option.map_map]
    simp only [Function.comp_def, List.append_assoc]

/-- Such a text alone is cut into just these tokens. -/
theorem tokens?_eq (h : Tokenized text ts) : tokens? text = some ts := by
  obtain ⟨k, hk⟩ := Nat.le.dest h.length_le
  have happend := h.append k []
  rwa [List.append_nil, hk, tokensWithin?_nil, Option.map_some, List.append_nil] at happend

theorem printString (s : String) : Tokenized (printString s) [.string (some s)] :=
  one (by decide) fun rest => Token.read?_printString s rest

end Tokenized
end RpkiOverlap.Json
