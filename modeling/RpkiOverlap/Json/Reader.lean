import RpkiOverlap.Json.Token

/-! # Reading JSON

A reader over tokens.  Containers may be nested up to a depth; deeper documents are refused.
The members of an object stay in order, and a name may occur more than once.

* `Json` is a value.
* `Json.read?` reads a document of at most `maxDepth` nested containers.
* `Json.value?` reads one value from the front of a list of tokens.  With `strict` it accepts
  only tokens that denote values; without, it checks the form of the value and no more, which
  is how a value is skipped that nobody asks for.
-/
namespace RpkiOverlap

/-- A JSON value. -/
inductive Json where
  | null
  | bool (value : Bool)
  | number (value : JsonNumber)
  | string (text : String)
  | array (elements : List Json)
  | object (members : List (String × Json))

namespace Json

/-- The deepest nesting of containers in a document. -/
def maxDepth : Nat := 127

/-- The text of a string token; a text that denotes no string is empty unless the reader is
strict. -/
def stringOf? (strict : Bool) : Option String → Option String
  | some text => some text
  | none => if strict then none else some ""

/-- The kind of a number token, in the same way. -/
def numberOf? (strict : Bool) : Option JsonNumber → Option JsonNumber
  | some n => some n
  | none => if strict then none else some .real

/-- A value and the tokens after it, which are fewer than before. -/
abbrev ReadFrom (α : Type) (ts : List Token) : Type :=
  Option (α × { rest : List Token // rest.length < ts.length })

mutual

/-- Reads one value. -/
def value? (strict : Bool) (depth : Nat) (ts : List Token) : ReadFrom Json ts :=
  match ts with
  | .null :: r => some (.null, ⟨r, by simp⟩)
  | .bool b :: r => some (.bool b, ⟨r, by simp⟩)
  | .string text :: r => (stringOf? strict text).map fun s => (.string s, ⟨r, by simp⟩)
  | .number n :: r => (numberOf? strict n).map fun n => (.number n, ⟨r, by simp⟩)
  | .openBracket :: r =>
    match depth with
    | 0 => none
    | depth + 1 =>
      match r with
      | .closeBracket :: r => some (.array [], ⟨r, by simp only [List.length_cons]; omega⟩)
      | r =>
        match elements? strict depth r with
        | none => none
        | some (xs, ⟨r', h⟩) => some (.array xs, ⟨r', by simp; omega⟩)
  | .openBrace :: r =>
    match depth with
    | 0 => none
    | depth + 1 =>
      match r with
      | .closeBrace :: r => some (.object [], ⟨r, by simp only [List.length_cons]; omega⟩)
      | r =>
        match members? strict depth r with
        | none => none
        | some (ms, ⟨r', h⟩) => some (.object ms, ⟨r', by simp; omega⟩)
  | _ => none
termination_by (ts.length, 0)

/-- Reads the elements of an array up to its closing bracket. -/
def elements? (strict : Bool) (depth : Nat) (ts : List Token) : ReadFrom (List Json) ts :=
  match value? strict depth ts with
  | none => none
  | some (x, ⟨.closeBracket :: r, h⟩) =>
    some ([x], ⟨r, by simp at h; omega⟩)
  | some (x, ⟨.comma :: r, h⟩) =>
    match elements? strict depth r with
    | none => none
    | some (xs, ⟨r', h'⟩) => some (x :: xs, ⟨r', by simp at h; omega⟩)
  | some _ => none
termination_by (ts.length, 1)
decreasing_by
  · exact Prod.Lex.right _ (by decide)
  · exact Prod.Lex.left _ _ (by simp at h; omega)

/-- Reads the members of an object up to its closing brace. -/
def members? (strict : Bool) (depth : Nat) (ts : List Token) :
    ReadFrom (List (String × Json)) ts :=
  match ts with
  | .string name :: .colon :: r =>
    match stringOf? strict name, value? strict depth r with
    | some name, some (x, ⟨.closeBrace :: r', h⟩) =>
      some ([(name, x)], ⟨r', by simp at h ⊢; omega⟩)
    | some name, some (x, ⟨.comma :: r', h⟩) =>
      match members? strict depth r' with
      | none => none
      | some (ms, ⟨r'', h'⟩) => some ((name, x) :: ms, ⟨r'', by simp at h ⊢; omega⟩)
    | _, _ => none
  | _ => none
termination_by (ts.length, 1)
decreasing_by
  · exact Prod.Lex.left _ _ (by simp only [List.length_cons]; omega)
  · exact Prod.Lex.left _ _ (by simp at h ⊢; omega)

end

/-- The value of tokens that are one value and nothing else. -/
def ofTokens? (ts : List Token) : Option Json :=
  match value? true maxDepth ts with
  | some (x, ⟨[], _⟩) => some x
  | _ => none

/-- Reads a document. -/
def read? (text : List Char) : Option Json := (tokens? text).bind ofTokens?

end Json
end RpkiOverlap
