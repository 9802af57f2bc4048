import RpkiOverlap.Unicode.Property

/-! # Regular expressions

An `Expr` describes texts.  Its atoms are characters out of a set, and looks, which test a
place in a text without taking anything from it.

* `Look.holds` tests a place by the characters before and after it.
* `Expr.Spans` is the meaning of an expression: between which places of a text it fits.
* `Expr.cost` estimates the memory for a machine that searches for an expression.
-/
namespace RpkiOverlap
open Unicode (CharSet)

/-- What a look tests at a place that lies next to a word or inside of one. -/
inductive WordEdge where
  /-- A word starts or ends here. -/
  | boundary
  | noBoundary
  | opening
  | closing
  /-- No word character comes before. -/
  | openingHalf
  /-- No word character follows. -/
  | closingHalf
  deriving DecidableEq, Repr

/-- A test of a place in a text. -/
inductive Look where
  | textStart
  | textEnd
  | lineStart
  | lineEnd
  /-- The start of a line, where lines end in a line feed, a carriage return or both. -/
  | anyLineStart
  | anyLineEnd
  | word (ascii : Bool) (edge : WordEdge)
  deriving DecidableEq, Repr

namespace Look

/-- The characters of ASCII that words are made of. -/
def asciiWord : CharSet :=
  CharSet.ofRanges [(0x30, 0x39), (0x41, 0x5A), (0x5F, 0x5F), (0x61, 0x7A)]

/-- Whether there is a character and words are made of it. -/
def isWord (ascii : Bool) : Option Char → Bool
  | none => false
  | some c => if ascii then CharSet.has asciiWord c else CharSet.has Unicode.wordCharacter c

/-- Whether a place with the given neighbours passes the test. -/
def holds (before after : Option Char) : Look → Bool
  | textStart => before.isNone
  | textEnd => after.isNone
  | lineStart => before.isNone || before == some '\n'
  | lineEnd => after.isNone || after == some '\n'
  | anyLineStart =>
    before.isNone || before == some '\n' || (before == some '\r' && after != some '\n')
  | anyLineEnd =>
    after.isNone || after == some '\r' || (after == some '\n' && before != some '\r')
  | word ascii edge =>
    let b := isWord ascii before
    let a := isWord ascii after
    match edge with
    | .boundary => b != a
    | .noBoundary => b == a
    | .opening => !b && a
    | .closing => b && !a
    | .openingHalf => !b
    | .closingHalf => !a

end Look

/-- A regular expression. -/
inductive Expr where
  | empty
  | set (s : CharSet)
  | look (l : Look)
  | cat (a b : Expr)
  | alt (a b : Expr)
  /-- At least `min` times, and at most `max` times if that is given. -/
  | rep (e : Expr) (min : Nat) (max : Option Nat)
  deriving DecidableEq

namespace Expr

/-! ### Meaning -/

/-- The character before a place. -/
def before? (text : List Char) : Nat → Option Char
  | 0 => none
  | i + 1 => text[i]?

/-- Whether an expression fits between two places of a text. -/
inductive Spans (text : List Char) : Expr → Nat → Nat → Prop where
  | empty {i : Nat} : i ≤ text.length → Spans text .empty i i
  | set {s : CharSet} {i : Nat} {c : Char} : text[i]? = some c → s.has c →
      Spans text (.set s) i (i + 1)
  | look {l : Look} {i : Nat} : i ≤ text.length → l.holds (before? text i) text[i]? →
      Spans text (.look l) i i
  | cat {a b : Expr} {i j k : Nat} : Spans text a i j → Spans text b j k →
      Spans text (.cat a b) i k
  | left {a b : Expr} {i j : Nat} : Spans text a i j → Spans text (.alt a b) i j
  | right {a b : Expr} {i j : Nat} : Spans text b i j → Spans text (.alt a b) i j
  | stop {e : Expr} {max : Option Nat} {i : Nat} : i ≤ text.length →
      Spans text (.rep e 0 max) i i
  | again {e : Expr} {min : Nat} {max : Option Nat} {i j k : Nat} : max ≠ some 0 →
      Spans text e i j → Spans text (.rep e (min - 1) (max.map (· - 1))) j k →
      Spans text (.rep e min max) i k

/-! ### Cost -/

/-- Whether an expression can take a character. -/
def takes : Expr → Bool
  | empty => false
  | set _ => true
  | look _ => false
  | cat a b => a.takes || b.takes
  | alt a b => a.takes || b.takes
  | rep e _ max => e.takes && max != some 0

/-- The bytes for one state of a machine. -/
def stateCost : Nat := 32

/-- The bytes for a set of characters.  The machine reads the bytes of UTF-8, and needs about
two states for every range beyond ASCII. -/
def setCost (s : CharSet) : Nat :=
  match s.ranges with
  | [r] =>
    if r.lo = r.hi then stateCost * (Char.ofNat r.lo).utf8Size else 4 * stateCost
  | rs =>
    if rs.all fun r => r.hi < 0x80 then 2 * stateCost + 8 * rs.length
    else 2 * stateCost * (rs.length + 1)

/-- The bytes for a machine that searches for an expression.  What is repeated is copied, but
what takes no character is needed at most once. -/
def cost : Expr → Nat
  | empty => stateCost
  | set s => setCost s
  | look _ => stateCost
  | cat a b => a.cost + b.cost
  | alt a b => a.cost + b.cost + 2 * stateCost
  | rep e min max =>
    if !e.takes then e.cost + stateCost
    else
      match max with
      | none => Nat.max min 1 * e.cost + stateCost
      | some max => max * e.cost + (max - min) * stateCost

end Expr
end RpkiOverlap
