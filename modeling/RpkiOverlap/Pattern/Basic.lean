import RpkiOverlap.Pattern.Reader
import RpkiOverlap.Pattern.Search

/-! # Patterns

A `Pattern` is a regular expression that has to fit a whole text.

* `Pattern.compile?` reads one.  The source is read between signs for the start and the end of
  the text, and refused when the whole is no expression, or too deep or too large.
* `Pattern.fits` tests a text.
* Patterns are equal when their sources are.
-/
namespace RpkiOverlap

namespace Pattern

/-- The greatest height of the notation of a pattern. -/
def maxHeight : Nat := 250

/-- The greatest cost of a pattern: ten mebibytes.  What a pattern costs is only estimated. -/
def maxCost : Nat := 10 * 2 ^ 20

/-- A source as a group between the start and the end of the text. -/
def anchored (source : List Char) : List Char :=
  ['^', '(', '?', ':'] ++ source ++ [')', '$']

/-- The expression of a source, within the limits. -/
def read? (source : String) : Option Expr :=
  (Term.read? (anchored source.toList)).bind fun t =>
    if t.height ≤ maxHeight ∧ t.expr.cost ≤ maxCost then some t.expr else none

end Pattern

/-- A regular expression for whole texts. -/
structure Pattern where
  source : String
  expr : Expr
  read : Pattern.read? source = some expr

namespace Pattern

/-- Equal sources have equal expressions. -/
theorem eq_of_source_eq {p q : Pattern} (h : p.source = q.source) : p = q := by
  obtain ⟨s, e, hp⟩ := p
  obtain ⟨_, f, hq⟩ := q
  cases h
  cases Option.some.inj (hp.symm.trans hq)
  rfl

instance : DecidableEq Pattern := fun p q =>
  decidable_of_iff (p.source = q.source) ⟨eq_of_source_eq, fun h => h ▸ rfl⟩

/-- The pattern with a given source. -/
def compile? (source : String) : Option Pattern :=
  match h : read? source with
  | some expr => some ⟨source, expr, h⟩
  | none => none

/-- Whether a pattern fits a text. -/
def fits (p : Pattern) (text : String) : Bool := p.expr.fits text.toList

end Pattern
end RpkiOverlap
