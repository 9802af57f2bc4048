import RpkiOverlap.Pattern.Flags

/-! # Sets in brackets

A `Bracket` is a set of characters that is being read: what stands between brackets so far.

* Sets stand side by side for their union; operators between unions apply from left to right.
* If letter case does not count, operands are extended before an operator and the whole
  before it is negated.
* A nested bracket whose text is `:name:` or `:^name:` stands for a set of ASCII characters
  if it has one of their names.
-/
namespace RpkiOverlap
open Unicode (CharSet)

/-- The operators between sets. -/
inductive SetOperator where
  | inter
  | diff
  | symmDiff
  deriving DecidableEq, Repr

namespace SetOperator

/-- The operator that is written with two of a character. -/
def ofChar? : Char → Option SetOperator
  | '&' => some inter
  | '-' => some diff
  | '~' => some symmDiff
  | _ => none

/-- The result of an operator. -/
def apply : SetOperator → CharSet → CharSet → CharSet
  | inter, a, b => a.inter b
  | diff, a, b => a.diff b
  | symmDiff, a, b => a.symmDiff b

end SetOperator

/-- A set and the height of its notation. -/
structure SizedSet where
  set : CharSet
  height : Nat
  deriving DecidableEq

/-- A set in brackets that is being read. -/
structure Bracket where
  negated : Bool := false
  /-- The text so far, the last character first. -/
  text : List Char := []
  /-- The operand before the last operator. -/
  before : Option (SizedSet × SetOperator) := none
  /-- The union since the last operator. -/
  union : CharSet := RangeSet.empty
  /-- How many sets the union is made of. -/
  count : Nat := 0
  /-- The greatest height among them. -/
  height : Nat := 0
  deriving DecidableEq

namespace Bracket

/-- Adds a set to the union. -/
def add (b : Bracket) (s : SizedSet) : Bracket :=
  { b with
    union := b.union.union s.set
    count := b.count + 1
    height := max b.height s.height }

/-- The union since the last operator. -/
def operand (b : Bracket) : SizedSet :=
  ⟨b.union, if b.count < 2 then b.height else b.height + 1⟩

/-- What has been read as one set. -/
def value (b : Bracket) (f : Flags) : SizedSet :=
  match b.before with
  | none => b.operand
  | some (left, operator) =>
    ⟨operator.apply (f.fold left.set) (f.fold b.operand.set),
      max left.height b.operand.height + 1⟩

/-- Takes what has been read as the left operand of an operator. -/
def operate (b : Bracket) (f : Flags) (operator : SetOperator) : Bracket :=
  { negated := b.negated, text := b.text, before := some (b.value f, operator) }

/-- The set in the brackets. -/
def close? (b : Bracket) (f : Flags) : Option SizedSet :=
  (f.negate? b.negated (f.fold (b.value f).set)).map fun s => ⟨s, (b.value f).height + 1⟩

/-! ### Names for ASCII characters -/

/-- The sets of ASCII characters that have names. -/
def asciiSets : List (String × List (Nat × Nat)) :=
  [("alnum", [(0x30, 0x39), (0x41, 0x5A), (0x61, 0x7A)]),
    ("alpha", [(0x41, 0x5A), (0x61, 0x7A)]),
    ("ascii", [(0x00, 0x7F)]),
    ("blank", [(0x09, 0x09), (0x20, 0x20)]),
    ("cntrl", [(0x00, 0x1F), (0x7F, 0x7F)]),
    ("digit", [(0x30, 0x39)]),
    ("graph", [(0x21, 0x7E)]),
    ("lower", [(0x61, 0x7A)]),
    ("print", [(0x20, 0x7E)]),
    ("punct", [(0x21, 0x2F), (0x3A, 0x40), (0x5B, 0x60), (0x7B, 0x7E)]),
    ("space", [(0x09, 0x0D), (0x20, 0x20)]),
    ("upper", [(0x41, 0x5A)]),
    ("word", [(0x30, 0x39), (0x41, 0x5A), (0x5F, 0x5F), (0x61, 0x7A)]),
    ("xdigit", [(0x30, 0x39), (0x41, 0x46), (0x61, 0x66)])]

/-- The set that the text up to the closing bracket names, and whether it is negated. -/
def asciiSet? (b : Bracket) : Option (Bool × CharSet) :=
  match b.text.reverse with
  | ':' :: name =>
    let negated := name.head? = some '^'
    let name := if negated then name.tail else name
    let entry := asciiSets.find? fun entry => (entry.1 ++ ":]").toList = name
    entry.map fun entry => (negated, CharSet.ofRanges entry.2)
  | _ => none

/-- The set in brackets that are nested in other ones. -/
def closeNested? (b : Bracket) (f : Flags) : Option SizedSet :=
  match b.asciiSet? with
  | some (negated, s) => (f.negate? negated (f.fold s)).map fun s => ⟨s, 0⟩
  | none => b.close? f

end Bracket
end RpkiOverlap
