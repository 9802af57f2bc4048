import RpkiOverlap.Pattern.Expr
import RpkiOverlap.Text.Blank
import RpkiOverlap.Unicode.Query

/-! # Flags of patterns

`Flags` are the settings that a pattern can change on its way; they decide what its signs
mean.  The functions here give the meaning of single signs under some flags.

Without the flag `unicode` only sets of ASCII characters can be written, so whatever would
reach beyond them is refused.
-/
namespace RpkiOverlap
open Unicode (CharSet)

/-- The settings that decide what the signs of a pattern mean. -/
structure Flags where
  ignoreCase : Bool := false
  multiLine : Bool := false
  dotAll : Bool := false
  unicode : Bool := true
  /-- Lines end in a line feed, a carriage return or both. -/
  anyLineEnd : Bool := false
  /-- Blanks and remarks do not count. -/
  spaced : Bool := false
  deriving DecidableEq, Repr

namespace Flags

/-- Sets the flag with a given letter.  The flag `U` asks for the shortest fit, which makes no
difference to what fits. -/
def set? (f : Flags) (letter : Char) (on : Bool) : Option Flags :=
  match letter with
  | 'i' => some { f with ignoreCase := on }
  | 'm' => some { f with multiLine := on }
  | 's' => some { f with dotAll := on }
  | 'u' => some { f with unicode := on }
  | 'R' => some { f with anyLineEnd := on }
  | 'x' => some { f with spaced := on }
  | 'U' => some f
  | _ => none

/-- Adds what differs in letter case only, if that does not count. -/
def fold (f : Flags) (s : CharSet) : CharSet :=
  if !f.ignoreCase then s else if f.unicode then s.folded else s.asciiFolded

/-- The complement of a set, or the set itself. -/
def negate? (f : Flags) (negated : Bool) (s : CharSet) : Option CharSet :=
  if !negated then some s else if f.unicode then some s.compl else none

/-- Whether a character can belong to a set. -/
def admits (f : Flags) (c : Char) : Bool := f.unicode || c.toNat < 0x80

/-- A character that stands for itself. -/
def literal (f : Flags) (c : Char) : Expr := .set (f.fold (CharSet.single c))

/-- Any character. -/
def dot? (f : Flags) : Option Expr :=
  if !f.unicode then none
  else if f.dotAll then some (.set CharSet.all)
  else if f.anyLineEnd then some (.set (CharSet.ofRanges [(0x0A, 0x0A), (0x0D, 0x0D)]).compl)
  else some (.set (CharSet.single '\n').compl)

/-- The start of the text or of a line. -/
def start (f : Flags) : Look :=
  if !f.multiLine then .textStart else if f.anyLineEnd then .anyLineStart else .lineStart

/-- The end of the text or of a line. -/
def stop (f : Flags) : Look :=
  if !f.multiLine then .textEnd else if f.anyLineEnd then .anyLineEnd else .lineEnd

/-- A test for the edge of a word. -/
def edge (f : Flags) (e : WordEdge) : Look := .word (!f.unicode) e

/-- The set with a given letter: digits, blanks or word characters. -/
def letterSet? (f : Flags) (letter : Char) : Option CharSet :=
  match letter with
  | 'd' => some (if f.unicode then Unicode.decimalNumber else CharSet.range 0x30 0x39)
  | 's' =>
    some (if f.unicode then Unicode.whiteSpace
      else CharSet.ofRanges [(0x09, 0x0D), (0x20, 0x20)])
  | 'w' => some (if f.unicode then Unicode.wordCharacter else Look.asciiWord)
  | _ => none

/-- The set with a given name.  In the name, a property can be separated from its value. -/
def namedSet? (f : Flags) (negated : Bool) (name : List Char) : Option CharSet :=
  let find : Option CharSet :=
    match splitAtSign name with
    | some (property, value) => Unicode.valued? property value
    | none => Unicode.named? name
  if f.unicode then find.bind fun s => f.negate? negated (f.fold s) else none
where
  /-- The parts of a name before and after the first `!=`, or else `:`, or else `=`. -/
  splitAtSign (name : List Char) : Option (List Char × List Char) :=
    splitAtUnequal name <|> Text.cutAt ':' name <|> Text.cutAt '=' name
  /-- The parts of a name before and after the first `!=`. -/
  splitAtUnequal : List Char → Option (List Char × List Char)
    | '!' :: '=' :: r => some ([], r)
    | c :: r => (splitAtUnequal r).map fun p => (c :: p.1, p.2)
    | [] => none

end Flags
end RpkiOverlap
