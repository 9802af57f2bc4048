import RpkiOverlap.Pattern.Expr

/-! # Searching a text

Whether an expression fits somewhere in a text.  The search follows all possibilities at once:
it keeps the set of places that the part of the expression so far may have reached.

* A set of places is a number, whose bit `i` stands for the place before the `i`-th character.
* `Expr.route` replaces the atoms of an expression by the places of one text where they fit.
* `Route.reach` gives the places that are reached from some places.
-/
namespace RpkiOverlap
open Unicode (CharSet)

/-- The places of a text with a property of their neighbours; `before` is the neighbour of the
first place. -/
def placesWhere (p : Option Char → Option Char → Bool) (before : Option Char) :
    List Char → Nat
  | [] => (p before none).toNat
  | c :: r => (p before (some c)).toNat + 2 * placesWhere p (some c) r

/-- What is reached from `s` by a given number of steps. -/
def reachAfter (step : Nat → Nat) : (count s : Nat) → Nat
  | 0, s => s
  | n + 1, s => if step s = s then s else reachAfter step n (step s)

/-- What is reached from `s` by at most a given number of steps. -/
def reachWithin (step : Nat → Nat) : (count s : Nat) → Nat
  | 0, s => s
  | n + 1, s => if s ||| step s = s then s else reachWithin step n (s ||| step s)

/-- An expression prepared for one text. -/
inductive Route where
  | stay
  /-- Takes a character after one of the places. -/
  | advance (places : Nat)
  /-- Goes on from the places alone. -/
  | pass (places : Nat)
  | cat (a b : Route)
  | alt (a b : Route)
  /-- A number of times, and up to `more` times after that. -/
  | rep (r : Route) (min more : Nat)
  deriving DecidableEq, Repr

/-- The places that a route reaches from some places. -/
def Route.reach : Route → Nat → Nat
  | stay, s => s
  | advance places, s => 2 * (s &&& places)
  | pass places, s => s &&& places
  | cat a b, s => b.reach (a.reach s)
  | alt a b, s => a.reach s ||| b.reach s
  | rep r min more, s => reachWithin r.reach more (reachAfter r.reach min s)

namespace Expr

/-- The places of a text before a character from a set. -/
def placesBefore (s : CharSet) (text : List Char) : Nat :=
  placesWhere (fun _ after => after.any s.has) none text

/-- Prepares an expression for a text.  A repetition without a bound reaches nothing new after
as many steps as there are places. -/
def route (text : List Char) : Expr → Route
  | empty => .stay
  | set s => .advance (placesBefore s text)
  | look l => .pass (placesWhere (fun before after => l.holds before after) none text)
  | cat a b => .cat (a.route text) (b.route text)
  | alt a b => .alt (a.route text) (b.route text)
  | rep e min max =>
    .rep (e.route text) min (match max with
      | none => text.length + 1
      | some max => max - min)

/-- Whether an expression fits somewhere in a text. -/
def fits (e : Expr) (text : List Char) : Bool :=
  (e.route text).reach (2 ^ (text.length + 1) - 1) != 0

end Expr
end RpkiOverlap
