import RpkiOverlap.Range.Set
import RpkiOverlap.Text.Numeral
import RpkiOverlap.Unicode.Casing

/-! # Sets of characters

A `CharSet` is a set of code points.  It has all operations of sets of numbers; what is
particular to characters is here.

* `CharSet.has` decides membership.
* `CharSet.ofLines` reads a table of ranges: hexadecimal code points separated by spaces,
  with a hyphen between the ends of a range.
* `CharSet.folded` adds what differs in letter case only.
-/
namespace RpkiOverlap.Unicode

/-- A set of code points, which are numbers of 21 bits. -/
abbrev CharSet := RangeSet 21

namespace CharSet

/-- Whether a code point lies in one of some ascending ranges. -/
def hasCode : List (Range 21) → Nat → Bool
  | [], _ => false
  | r :: rs, code => if code ≤ r.hi then r.lo ≤ code else hasCode rs code

/-- Whether a character belongs to a set. -/
def has (s : CharSet) (c : Char) : Bool := hasCode s.ranges c.toNat

/-- The set of the code points in some ranges. -/
def ofRanges (ranges : List (Nat × Nat)) : CharSet :=
  RangeSet.ofList (ranges.filterMap fun r => Range.of? r.1 r.2)

/-- The code points from `first` to `last`. -/
def range (first last : Nat) : CharSet := ofRanges [(first, last)]

/-- The set of one character. -/
def single (c : Char) : CharSet := range c.toNat c.toNat

/-- All code points. -/
def all : CharSet := range 0 0x10FFFF

/-- The code points that do not belong to a set. -/
def compl (s : CharSet) : CharSet := all.diff s

/-- The union of some sets. -/
def unions (sets : List CharSet) : CharSet := RangeSet.ofList (sets.flatMap (·.ranges))

/-! ### Tables -/

/-- A table that is being read: the complete ranges, latest first, the start of an open range,
and the value of the digits since. -/
structure Reading where
  complete : List (Nat × Nat) := []
  start : Option Nat := none
  value : Nat := 0

/-- Completes a range. -/
def Reading.close (r : Reading) : Reading :=
  { complete := (r.start.getD r.value, r.value) :: r.complete }

/-- Reads one character of a table. -/
def Reading.step (r : Reading) (c : Char) : Reading :=
  match Text.digitValue? 16 c with
  | some d => { r with value := 16 * r.value + d }
  | none => if c = '-' then { r with start := some r.value, value := 0 } else r.close

/-- Reads one line of a table. -/
def Reading.line (r : Reading) (text : String) : Reading :=
  (text.toList.foldl Reading.step r).close

/-- The set of a table. -/
def ofLines (lines : List String) : CharSet :=
  ofRanges (lines.foldl Reading.line {}).complete.reverse

/-! ### Letter case -/

/-- Adds the classes of paired characters that have a member in the set. -/
def foldedBy (pairs : List (Nat × Nat)) (s : CharSet) : CharSet :=
  let hit := pairs.filter fun p => hasCode s.ranges p.1 || hasCode s.ranges p.2
  let least := ofRanges (hit.map fun p => (p.1, p.1))
  let others := pairs.filter fun p => hasCode least.ranges p.1
  unions [s, least, ofRanges (others.map fun p => (p.2, p.2))]

/-- Adds the characters that differ from one in the set only in letter case. -/
def folded (s : CharSet) : CharSet := s.foldedBy casePairs

/-- Adds the letters of ASCII that differ from one in the set only in letter case. -/
def asciiFolded (s : CharSet) : CharSet := s.foldedBy asciiCasePairs

end CharSet
end RpkiOverlap.Unicode
