import RpkiOverlap.Text.Numeral

/-! # Paths in the manifest tree

A `Path` is the position of a certificate below a trust anchor, such as `/0/3/1/`.  The root
is `/`, and a child appends its index among the certificates of its parent's manifest,
counted from 0.

* `Path.of` makes a path of any text by adding the slashes that are missing at its ends.
* `Path.child` goes down one step, and `Path.depth` counts the steps.
* `Path.related` says that two distinct paths lie on one line from the root: the text of one
  begins with the text of the other.  The slash at the end keeps `/1/` apart from `/10/`.
-/
namespace RpkiOverlap

/-- A position in the manifest tree. -/
structure Path where
  text : String
  deriving DecidableEq, Repr, Hashable

namespace Path

/-- The position of the trust anchor. -/
def root : Path := ⟨"/"⟩

/-- A text with a slash in front, if it has none there. -/
def withLeadingSlash (s : List Char) : List Char :=
  if s.head? = some '/' then s else '/' :: s

/-- A text with a slash at the end, if it has none there. -/
def withTrailingSlash (s : List Char) : List Char :=
  if s.getLast? = some '/' then s else s ++ ['/']

/-- The path of a text: slashes are added at its ends where they are missing. -/
def of (text : String) : Path := ⟨.ofList (withTrailingSlash (withLeadingSlash text.toList))⟩

/-- The position of the child with a given index. -/
def child (p : Path) (index : Nat) : Path :=
  ⟨.ofList (p.text.toList ++ Text.decimal index ++ ['/'])⟩

/-- How many steps the position is below the root. -/
def depth (p : Path) : Nat := p.text.toList.count '/' - 1

/-- Whether two distinct paths lie on one line from the root. -/
def related (p q : Path) : Bool :=
  p != q &&
    (p.text.toList.isPrefixOf q.text.toList || q.text.toList.isPrefixOf p.text.toList)

/-- The order of paths: the lexicographic order of their texts. -/
def order (p q : Path) : Ordering := compareOfLessAndEq p.text q.text

/-- Whether a path comes no later than another. -/
def le (p q : Path) : Bool := decide (p.text ≤ q.text)

end Path
end RpkiOverlap
