import Mathlib.Data.List.Forall2
import RpkiOverlap.Json.Reader
import RpkiOverlap.Proofs.Json.Token

/-! # JSON values read back

`IsText depth text x` says that a text is one value, with containers nested no deeper than `depth`,
and that it is read as that value whatever comes after it.  There is one rule for each way in which
values are written, and a text of a value is a document with that value (`IsText.read?_eq`).

The readers return what is left together with a proof that it is shorter; `result` leaves the proof
out, and the readers are described by what they return without it.
-/
namespace RpkiOverlap.Json

/-! ## The readers -/

/-- The value and the tokens after it. -/
def result {α : Type} {ts : List Token} (r : ReadFrom α ts) : Option (α × List Token) :=
  r.map fun p => (p.1, p.2.val)

section
variable (strict : Bool) (depth : Nat)

theorem result_value?_openBracket (ts : List Token) (h : ∀ us, ts ≠ .closeBracket :: us) :
    result (value? strict (depth + 1) (.openBracket :: ts)) =
      (result (elements? strict depth ts)).map fun p => (.array p.1, p.2) := by
  rw [value?]
  · cases elements? strict depth ts <;> rfl
  · exact h

theorem result_value?_openBrace (ts : List Token) (h : ∀ us, ts ≠ .closeBrace :: us) :
    result (value? strict (depth + 1) (.openBrace :: ts)) =
      (result (members? strict depth ts)).map fun p => (.object p.1, p.2) := by
  rw [value?]
  · cases members? strict depth ts <;> rfl
  · exact h

/-- The last element is followed by the closing bracket. -/
theorem result_elements?_last {ts rest : List Token} {x : Json}
    (h : result (value? strict depth ts) = some (x, .closeBracket :: rest)) :
    result (elements? strict depth ts) = some ([x], rest) := by
  obtain ⟨⟨y, us, hus⟩, hv, heq⟩ := Option.map_eq_some_iff.1 h
  obtain ⟨rfl, rfl⟩ := Prod.mk.inj heq
  rw [elements?, hv]
  rfl

/-- Every other element is followed by a comma and further elements. -/
theorem result_elements?_comma {ts us rest : List Token} {x : Json} {xs : List Json}
    (h : result (value? strict depth ts) = some (x, .comma :: us))
    (hrest : result (elements? strict depth us) = some (xs, rest)) :
    result (elements? strict depth ts) = some (x :: xs, rest) := by
  obtain ⟨⟨y, vs, hvs⟩, hv, heq⟩ := Option.map_eq_some_iff.1 h
  obtain ⟨⟨ys, ws, hws⟩, he, heq'⟩ := Option.map_eq_some_iff.1 hrest
  obtain ⟨rfl, rfl⟩ := Prod.mk.inj heq
  obtain ⟨rfl, rfl⟩ := Prod.mk.inj heq'
  rw [elements?, hv]
  simp only [he]
  rfl

/-- The last member is followed by the closing brace. -/
theorem result_members?_last {name : String} {ts rest : List Token} {x : Json}
    (h : result (value? strict depth ts) = some (x, .closeBrace :: rest)) :
    result (members? strict depth (.string (some name) :: .colon :: ts)) =
      some ([(name, x)], rest) := by
  obtain ⟨⟨y, us, hus⟩, hv, heq⟩ := Option.map_eq_some_iff.1 h
  obtain ⟨rfl, rfl⟩ := Prod.mk.inj heq
  rw [members?, hv]
  rfl

/-- Every other member is followed by a comma and further members. -/
theorem result_members?_comma {name : String} {ts us rest : List Token} {x : Json}
    {ms : List (String × Json)} (h : result (value? strict depth ts) = some (x, .comma :: us))
    (hrest : result (members? strict depth us) = some (ms, rest)) :
    result (members? strict depth (.string (some name) :: .colon :: ts)) =
      some ((name, x) :: ms, rest) := by
  obtain ⟨⟨y, vs, hvs⟩, hv, heq⟩ := Option.map_eq_some_iff.1 h
  obtain ⟨⟨ys, ws, hws⟩, hm, heq'⟩ := Option.map_eq_some_iff.1 hrest
  obtain ⟨rfl, rfl⟩ := Prod.mk.inj heq
  obtain ⟨rfl, rfl⟩ := Prod.mk.inj heq'
  rw [members?, hv]
  simp only [stringOf?, hm]
  rfl

end

/-- The tokens are read as the value, whatever comes after them. -/
def Denotes (depth : Nat) (ts : List Token) (x : Json) : Prop :=
  ∀ rest, result (value? true depth (ts ++ rest)) = some (x, rest)

/-- Tokens of a value begin with a token that closes nothing. -/
theorem Denotes.exists_cons {depth : Nat} {ts : List Token} {x : Json} (h : Denotes depth ts x) :
    ∃ t us, ts = t :: us ∧ t ≠ .closeBracket := by
  have hv := h []
  cases ts with
  | nil => simp [value?, result] at hv
  | cons t us =>
    refine ⟨t, us, rfl, ?_⟩
    rintro rfl
    simp [value?, result] at hv

/-! ## Values and their texts -/

/-- The text is read as the value. -/
def IsText (depth : Nat) (text : List Char) (x : Json) : Prop :=
  ∃ ts, Tokenized text ts ∧ Denotes depth ts x

/-- The text is read as a member with a name and a value. -/
def IsMember (depth : Nat) (text : List Char) (m : String × Json) : Prop :=
  ∃ value, text = printMember m.1 value ∧ IsText depth value m.2

namespace IsText
variable {depth : Nat}

theorem string (s : String) : IsText depth (printString s) (.string s) :=
  ⟨_, .printString s, fun rest => by simp [value?, stringOf?, result]⟩

theorem null : IsText depth ['n', 'u', 'l', 'l'] .null :=
  ⟨[.null], .one (by decide) fun _ => by simp [Token.read?, dropWord?],
    fun rest => by simp [value?, result]⟩

/-- An optional string is written as a string or as nothing. -/
theorem optional (s : Option String) : IsText depth (printOptional s) (s.elim .null .string) := by
  cases s with
  | none => exact null
  | some s => exact string s

/-! ### Arrays -/

/-- Texts between commas are the elements of an array. -/
theorem exists_elements {texts : List (List Char)} {xs : List Json}
    (h : List.Forall₂ (IsText depth) texts xs) (hne : texts ≠ []) :
    ∃ t ts, t ≠ .closeBracket ∧ Tokenized ([','].intercalate texts) (t :: ts) ∧
      ∀ rest, result (elements? true depth (t :: ts ++ .closeBracket :: rest)) =
        some (xs, rest) := by
  induction h with
  | nil => exact absurd rfl hne
  | @cons text x texts xs htext hrest ih =>
    obtain ⟨ts, htokens, hvalue⟩ := htext
    obtain ⟨t, us, rfl, ht⟩ := hvalue.exists_cons
    -- What follows the first value decides: the closing bracket, or a comma and the others.
    cases hrest with
    | nil =>
      refine ⟨t, us, ht, by simpa using htokens, fun rest => ?_⟩
      exact result_elements?_last true depth (hvalue (.closeBracket :: rest))
    | @cons text' x' texts xs htext' hrest =>
      obtain ⟨t', us', _, htokens', helements⟩ := ih (by simp)
      have hcomma : Tokenized [','] [.comma] := .mark (by simp)
      refine ⟨t, us ++ .comma :: t' :: us', ht, ?_, fun rest => ?_⟩
      · rw [List.intercalate_cons_cons]
        simpa using (htokens.concat hcomma).concat htokens'
      · have hcut := hvalue (.comma :: (t' :: us' ++ .closeBracket :: rest))
        rw [← List.cons_append, List.append_assoc]
        exact result_elements?_comma true depth hcut (helements rest)

theorem array {texts : List (List Char)} {xs : List Json}
    (h : List.Forall₂ (IsText depth) texts xs) :
    IsText (depth + 1) ('[' :: [','].intercalate texts ++ [']']) (.array xs) := by
  -- An empty array is read by a rule of its own; a nonempty one must not be taken for it.
  have hopen : Tokenized ['['] [.openBracket] := .mark (by simp)
  have hclose : Tokenized [']'] [.closeBracket] := .mark (by simp)
  by_cases hne : texts = []
  · subst hne
    cases h
    exact ⟨_, hopen.concat hclose, fun rest => by simp [value?, result]⟩
  · obtain ⟨t, ts, ht, htokens, helements⟩ := exists_elements h hne
    refine ⟨_, (hopen.concat htokens).concat hclose, fun rest => ?_⟩
    have hfirst : ∀ us, t :: ts ++ .closeBracket :: rest ≠ .closeBracket :: us := by
      simp [ht]
    rw [List.append_assoc, List.append_assoc, List.singleton_append, List.singleton_append,
      result_value?_openBracket true depth _ hfirst, helements rest, Option.map_some]

theorem strings (ss : List String) :
    IsText (depth + 1) (printStrings ss) (.array (ss.map .string)) := by
  refine array ?_
  induction ss with
  | nil => exact .nil
  | cons s ss ih => exact .cons (string s) ih

/-! ### Objects -/

/-- The tokens of a member are its name, a colon and the tokens of its value. -/
theorem exists_tokens_of_isMember {text : List Char} {m : String × Json}
    (h : IsMember depth text m) :
    ∃ ts, Tokenized text (.string (some m.1) :: .colon :: ts) ∧ Denotes depth ts m.2 := by
  obtain ⟨value, rfl, ts, htokens, hvalue⟩ := h
  have hcolon : Tokenized [':'] [.colon] := .mark (by simp)
  refine ⟨ts, ?_, hvalue⟩
  simpa [printMember] using ((Tokenized.printString m.1).concat hcolon).concat htokens

/-- Members between commas are the members of an object. -/
theorem exists_members {texts : List (List Char)} {ms : List (String × Json)}
    (h : List.Forall₂ (IsMember depth) texts ms) (hne : texts ≠ []) :
    ∃ s ts, Tokenized ([','].intercalate texts) (.string s :: ts) ∧
      ∀ rest, result (members? true depth (.string s :: ts ++ .closeBrace :: rest)) =
        some (ms, rest) := by
  induction h with
  | nil => exact absurd rfl hne
  | @cons text m texts ms hmember hrest ih =>
    obtain ⟨ts, htokens, hvalue⟩ := exists_tokens_of_isMember hmember
    cases hrest with
    | nil =>
      refine ⟨some m.1, .colon :: ts, by simpa using htokens, fun rest => ?_⟩
      exact result_members?_last true depth (hvalue (.closeBrace :: rest))
    | @cons text' m' texts ms hmember' hrest =>
      obtain ⟨s, us, htokens', hmembers⟩ := ih (by simp)
      have hcomma : Tokenized [','] [.comma] := .mark (by simp)
      refine ⟨some m.1, .colon :: ts ++ .comma :: .string s :: us, ?_, fun rest => ?_⟩
      · rw [List.intercalate_cons_cons]
        simpa using (htokens.concat hcomma).concat htokens'
      · have hcut := hvalue (.comma :: (.string s :: us ++ .closeBrace :: rest))
        rw [← List.cons_append, List.append_assoc]
        exact result_members?_comma true depth hcut (hmembers rest)

theorem object {texts : List (List Char)} {ms : List (String × Json)}
    (h : List.Forall₂ (IsMember depth) texts ms) :
    IsText (depth + 1) (printMembers texts) (.object ms) := by
  have hopen : Tokenized ['{'] [.openBrace] := .mark (by simp)
  have hclose : Tokenized ['}'] [.closeBrace] := .mark (by simp)
  by_cases hne : texts = []
  · subst hne
    cases h
    exact ⟨_, hopen.concat hclose, fun rest => by simp [value?, result]⟩
  · obtain ⟨s, ts, htokens, hmembers⟩ := exists_members h hne
    refine ⟨_, (hopen.concat htokens).concat hclose, fun rest => ?_⟩
    have hfirst : ∀ us, .string s :: ts ++ .closeBrace :: rest ≠ .closeBrace :: us := by
      simp
    rw [List.append_assoc, List.append_assoc, List.singleton_append, List.singleton_append,
      result_value?_openBrace true depth _ hfirst, hmembers rest, Option.map_some]

/-! ### Documents -/

/-- A text of a value is a document with that value. -/
theorem read?_eq {text : List Char} {x : Json} (h : IsText maxDepth text x) :
    read? text = some x := by
  obtain ⟨ts, htokens, hvalue⟩ := h
  have hresult := hvalue []
  rw [List.append_nil] at hresult
  obtain ⟨⟨y, us, hus⟩, hv, heq⟩ := Option.map_eq_some_iff.1 hresult
  obtain ⟨rfl, rfl⟩ := Prod.mk.inj heq
  rw [read?, htokens.tokens?_eq, Option.bind_some, ofTokens?, hv]

end IsText
end RpkiOverlap.Json
