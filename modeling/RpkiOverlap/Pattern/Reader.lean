import RpkiOverlap.Pattern.Bracket

/-! # Reading patterns

A pattern is read from left to right, one character at a time, by a machine with a stack.

* `Branches` are the part of a pattern inside of one group: alternatives and their items.
* A `Mode` says what the last characters have begun, and so what the next one means.
* `Reader.step` reads one character, and `Reader.result?` takes the expression at the end.

Blanks and remarks are skipped, if the flags say so, in the modes that `Mode.allowsBlanks`
lists.  What follows an item is known only from the next character; until then the mode
*awaits* that character, and settles for the item as it is when another one comes.
-/
namespace RpkiOverlap
open Unicode (CharSet)

/-- An expression, the height of its notation, and whether it can be repeated. -/
structure Term where
  expr : Expr
  height : Nat := 0
  repeatable : Bool := true
  deriving DecidableEq

namespace Term

/-- The height of a notation made of several terms. -/
def heightOf (ts : List Term) : Nat := ts.foldl (fun h t => max h t.height) 0

/-- Expressions one after another. -/
def catExprs : List Term → Expr
  | [] => .empty
  | [t] => t.expr
  | t :: ts => .cat t.expr (catExprs ts)

/-- Expressions as alternatives. -/
def altExprs : List Term → Expr
  | [] => .empty
  | [t] => t.expr
  | t :: ts => .alt t.expr (altExprs ts)

/-- Terms one after another. -/
def cat (ts : List Term) : Term :=
  { expr := catExprs ts, height := if ts.length < 2 then heightOf ts else heightOf ts + 1 }

/-- Terms as alternatives. -/
def alt (ts : List Term) : Term :=
  { expr := altExprs ts, height := if ts.length < 2 then heightOf ts else heightOf ts + 1 }

end Term

/-- What has been read inside of a group, the last parts first. -/
structure Branches where
  /-- The complete alternatives. -/
  complete : List Term := []
  /-- The items of the last alternative. -/
  items : List Term := []
  deriving DecidableEq

namespace Branches

/-- Adds an item. -/
def push (b : Branches) (t : Term) : Branches := { b with items := t :: b.items }

/-- Begins another alternative. -/
def begin (b : Branches) : Branches := ⟨Term.cat b.items.reverse :: b.complete, []⟩

/-- What has been read as one term. -/
def term (b : Branches) : Term := Term.alt b.begin.complete.reverse

/-- Repeats the last item. -/
def repeat? (b : Branches) (min : Nat) (max : Option Nat) : Option Branches :=
  match b.items with
  | t :: ts =>
    if t.repeatable then
      some { b with items := { expr := .rep t.expr min max, height := t.height + 1 } :: ts }
    else none
  | [] => none

end Branches

/-- What stands in brackets: a character or a set of them. -/
inductive Member where
  | char (c : Char)
  | set (s : CharSet)
  deriving DecidableEq

/-- Where an escape belongs: among the items of a branch, or among the members of a bracket, as
the end of a range or not. -/
inductive Place where
  | item
  | member
  | rangeEnd (first : Char)
  deriving DecidableEq, Repr

/-- A number that is being read, and whether a blank came after its last digit. -/
structure Amount where
  value : Option Nat := none
  blank : Bool := false
  deriving DecidableEq, Repr

/-- What the last characters have begun. -/
inductive Mode where
  | item
  /-- An item has been repeated, and a question mark may follow. -/
  | repeated
  /-- An item has been repeated a given number of times. -/
  | counted
  /-- A test for a word boundary, which a name in braces may follow. -/
  | boundary
  | boundaryBrace
  | boundaryName (name : List Char)
  /-- In braces, the least number of repetitions. -/
  | countMin (n : Amount)
  /-- In braces, the greatest number of repetitions. -/
  | countMax (min : Nat) (n : Amount)
  /-- A parenthesis has been opened. -/
  | group
  | groupMark
  | groupP
  | groupName (name : List Char)
  /-- Letters of flags that are set on or off. -/
  | flags (seen : List Char) (on : Bool) (flags : Flags)
  | escape (p : Place)
  /-- A code of so many hexadecimal digits, or of any number of them in braces. -/
  | code (p : Place) (digits : Nat)
  | codeDigits (p : Place) (byte : Bool) (left value : Nat)
  | codeBrace (p : Place) (value : Option Nat)
  | property (p : Place) (negated : Bool)
  | propertyName (p : Place) (negated : Bool) (name : List Char)
  /-- A bracket has been opened. -/
  | bracket
  /-- A bracket has been opened, and has no members but hyphens. -/
  | bracketStart
  | member
  /-- The first of two characters that may be an operator. -/
  | operator (c : Char)
  | afterMember (m : Member)
  | afterHyphen (m : Member)
  /-- As before, but no operator can follow any more. -/
  | afterHyphenBlank (m : Member)
  /-- A hyphen, blanks, and a remark from its `#`, which may have ended. -/
  | afterHyphenRemark (m : Member) (inside : Bool)
  | rangeEnd (first : Char)
  deriving DecidableEq

namespace Mode

/-- The character that a mode awaits without a blank before it. -/
def awaited? : Mode → Option Char
  | repeated => some '?'
  | boundary => some '\x7b'
  | operator c => some c
  | afterHyphen _ => some '-'
  | _ => none

/-- The mode when another character comes. -/
def settled : Mode → Mode
  | repeated => item
  | boundary => item
  | operator c => afterMember (.char c)
  | afterHyphen m => afterHyphenBlank m
  | m => m

/-- Whether blanks and remarks can be skipped. -/
def allowsBlanks : Mode → Bool
  | groupMark | groupP | groupName _ | flags .. | escape _ | afterHyphenRemark .. => false
  | _ => true

/-- Whether a pattern can end. -/
def isFinal : Mode → Bool
  | item | repeated | counted | boundary => true
  | _ => false

end Mode

/-- A pattern that is being read. -/
structure Reader where
  /-- What has been read inside of the innermost open group. -/
  inner : Branches := {}
  flags : Flags := {}
  /-- What has been read outside of each open group, the innermost first, with the flags there. -/
  outer : List (Branches × Flags) := []
  /-- The names of groups. -/
  names : List (List Char) := []
  /-- The open brackets, the innermost first. -/
  brackets : List Bracket := []
  inRemark : Bool := false
  mode : Mode := .item
  deriving DecidableEq

namespace Reader

/-! ### Items and groups -/

/-- Goes on in another mode. -/
def into (r : Reader) (mode : Mode) : Reader := { r with mode }

/-- Adds an item. -/
def push (r : Reader) (t : Term) : Reader := { r with inner := r.inner.push t, mode := .item }

/-- Opens a group in which the given flags hold. -/
def openGroup (r : Reader) (flags : Flags) : Reader :=
  { r with outer := (r.inner, r.flags) :: r.outer, inner := {}, flags, mode := .item }

/-- Closes the innermost group.  The flags from before it hold again. -/
def closeGroup? (r : Reader) : Option Reader :=
  match r.outer with
  | [] => none
  | (outside, flags) :: outer =>
    let term := r.inner.term
    some { r with
      inner := outside.push { expr := term.expr, height := term.height + 1 }
      flags, outer, mode := .item }

/-- Repeats the last item. -/
def repeat? (r : Reader) (min : Nat) (max : Option Nat) (mode : Mode) : Option Reader :=
  (r.inner.repeat? min max).map fun inner => { r with inner, mode }

/-- Whether the last item can be repeated. -/
def canRepeat (r : Reader) : Bool := r.inner.items.head?.any Term.repeatable

/-- Opens a bracket. -/
def openBracket (r : Reader) : Reader :=
  { r with brackets := {} :: r.brackets, mode := .bracket }

/-- Reads a character where an item or an operator is expected. -/
def onItem? (r : Reader) (c : Char) : Option Reader :=
  match c with
  | '(' => some (r.into .group)
  | ')' => r.closeGroup?
  | '|' => some { r with inner := r.inner.begin, mode := .item }
  | '[' => some r.openBracket
  | '?' => r.repeat? 0 (some 1) .repeated
  | '*' => r.repeat? 0 none .repeated
  | '+' => r.repeat? 1 none .repeated
  | '\x7b' => if r.canRepeat then some (r.into (.countMin {})) else none
  | '\\' => some (r.into (.escape .item))
  | '.' => r.flags.dot?.map fun e => r.push ⟨e, 0, true⟩
  | '^' => some (r.push ⟨.look r.flags.start, 0, true⟩)
  | '$' => some (r.push ⟨.look r.flags.stop, 0, true⟩)
  | c => some (r.push ⟨r.flags.literal c, 0, true⟩)

/-! ### Numbers of repetitions -/

/-- The numbers of repetitions are below this one. -/
def countBound : Nat := 2 ^ 32

/-- Adds a digit; a blank inside of a number is refused. -/
def Amount.addDigit? (n : Amount) (d : Nat) : Option Amount :=
  match n.value with
  | none => some ⟨some d, false⟩
  | some value => if n.blank then none else some ⟨some (10 * value + d), false⟩

/-- The number that has been read. -/
def Amount.bounded? (n : Amount) : Option Nat := n.value.filter (· < countBound)

/-- Reads a character of the least number of repetitions. -/
def onCountMin? (r : Reader) (n : Amount) (c : Char) : Option Reader :=
  match Text.digitValue? 10 c with
  | some d => (Amount.addDigit? n d).map fun n => r.into (.countMin n)
  | none =>
    if Text.isBlank c then some (r.into (.countMin { n with blank := true }))
    else if c = ',' then (Amount.bounded? n).map fun min => r.into (.countMax min {})
    else if c = '\x7d' then (Amount.bounded? n).bind fun min => r.repeat? min (some min) .counted
    else none

/-- Reads a character of the greatest number of repetitions.  Without a number there is no
bound; then no blank comes before the brace. -/
def onCountMax? (r : Reader) (min : Nat) (n : Amount) (c : Char) : Option Reader :=
  match Text.digitValue? 10 c with
  | some d => (Amount.addDigit? n d).map fun n => r.into (.countMax min n)
  | none =>
    if Text.isBlank c then some (r.into (.countMax min { n with blank := true }))
    else if c ≠ '\x7d' then none
    else if n.value.isNone then if n.blank then none else r.repeat? min none .counted
    else (Amount.bounded? n).bind fun max =>
      if min ≤ max then r.repeat? min (some max) .counted else none

/-! ### Names and flags of groups -/

/-- Whether a character can occur in the name of a group. -/
def isNameChar (first : Bool) (c : Char) : Bool :=
  c == '_' || CharSet.has Unicode.alphabetic c ||
    (!first && (c == '.' || c == '[' || c == ']' || CharSet.has Unicode.number c))

/-- Reads a character of the name of a group.  Two groups cannot have one name. -/
def onGroupName? (r : Reader) (name : List Char) (c : Char) : Option Reader :=
  if c = '>' then
    if name = [] ∨ name ∈ r.names then none
    else some ({ r with names := name :: r.names }.openGroup r.flags)
  else if isNameChar name.isEmpty c then some (r.into (.groupName (c :: name)))
  else none

/-- Reads a character of the flags of a group or of the rest of one.  No letter occurs
twice, a hyphen is followed by a letter, and there are flags unless a group follows. -/
def onFlags? (r : Reader) (seen : List Char) (on : Bool) (flags : Flags) (c : Char) :
    Option Reader :=
  if c = ':' then if seen.head? = some '-' then none else some (r.openGroup flags)
  else if c = ')' then
    if seen = [] ∨ seen.head? = some '-' then none
    else some ({ r with flags }.push ⟨.empty, 0, false⟩)
  else if c ∈ seen then none
  else if c = '-' then some (r.into (.flags (c :: seen) false flags))
  else (flags.set? c on).map fun flags => r.into (.flags (c :: seen) on flags)

/-- Reads the character after the question mark that follows a parenthesis. -/
def onGroupMark? (r : Reader) (c : Char) : Option Reader :=
  match c with
  | 'P' => some (r.into .groupP)
  | '<' => some (r.into (.groupName []))
  | c => r.onFlags? [] true r.flags c

/-- Reads the character after a parenthesis. -/
def onGroup? (r : Reader) (c : Char) : Option Reader :=
  if c = '?' then some (r.into .groupMark) else (r.openGroup r.flags).onItem? c

/-! ### Members of brackets -/

/-- Changes the innermost bracket and goes on to the next member. -/
def inBracket? (r : Reader) (change : Bracket → Bracket) : Option Reader :=
  match r.brackets with
  | [] => none
  | b :: outer => some { r with brackets := change b :: outer, mode := .member }

/-- Adds a member. -/
def addMember? (r : Reader) : Member → Option Reader
  | .char c =>
    if r.flags.admits c then r.inBracket? (·.add ⟨CharSet.single c, 0⟩) else none
  | .set s => r.inBracket? (·.add ⟨s, 0⟩)

/-- Adds a range. -/
def addRange? (r : Reader) (first last : Char) : Option Reader :=
  if first ≤ last ∧ r.flags.admits first ∧ r.flags.admits last then
    r.inBracket? (·.add ⟨CharSet.range first.toNat last.toNat, 0⟩)
  else none

/-- Closes the innermost bracket. -/
def closeBracket? (r : Reader) : Option Reader :=
  match r.brackets with
  | [] => none
  | [b] =>
    (b.close? r.flags).map fun s =>
      { r with brackets := [] }.push ⟨.set s.set, s.height, true⟩
  | b :: outer :: rest =>
    (b.closeNested? r.flags).map fun s =>
      { r with brackets := outer.add s :: rest, mode := .member }

/-- Reads a character where a member is expected. -/
def onMember? (r : Reader) (c : Char) : Option Reader :=
  match c with
  | '[' => some r.openBracket
  | ']' => r.closeBracket?
  | '\\' => some (r.into (.escape .member))
  | c =>
    if (SetOperator.ofChar? c).isSome then some (r.into (.operator c))
    else some (r.into (.afterMember (.char c)))

/-- Reads a character after a member. -/
def onAfterMember? (r : Reader) (m : Member) (c : Char) : Option Reader :=
  if c = '-' then some (r.into (.afterHyphen m))
  else (r.addMember? m).bind fun r => r.onMember? c

/-- Reads the last character of a range. -/
def onRangeEnd? (r : Reader) (first c : Char) : Option Reader :=
  if c = '\\' then some (r.into (.escape (.rangeEnd first))) else r.addRange? first c

/-- Decides by the character `c` what a hyphen after a member is: before a hyphen or the
closing bracket it is a member, and otherwise the sign of a range. -/
def decideHyphen? (r : Reader) (m : Member) (c : Char) : Option Reader :=
  if c = ']' ∨ c = '-' then
    (r.addMember? m).map fun r => r.into (.afterMember (.char '-'))
  else
    match m with
    | .char first => some (r.into (.rangeEnd first))
    | .set _ => none

/-- Reads a character in one of the modes that deciding about a hyphen leads to. -/
def onDecided? (r : Reader) (c : Char) : Option Reader :=
  match r.mode with
  | .afterMember m => r.onAfterMember? m c
  | .rangeEnd first => r.onRangeEnd? first c
  | _ => none

/-- Reads a character after a member and a hyphen. -/
def onAfterHyphen? (r : Reader) (m : Member) (c : Char) : Option Reader :=
  (r.decideHyphen? m c).bind fun r => r.onDecided? c

/-- Reads a character after a member, a hyphen and a `#`.  The first one that is no blank
decides about the hyphen, even when it belongs to the remark. -/
def onAfterHyphenRemark? (r : Reader) (m : Member) (inside : Bool) (c : Char) :
    Option Reader :=
  if Text.isBlank c then some (r.into (.afterHyphenRemark m (inside && c != '\n')))
  else (r.decideHyphen? m c).bind fun r =>
    if inside || c = '#' then some { r with inRemark := true } else r.onDecided? c

/-- Reads the second character of an operator. -/
def onOperator? (r : Reader) (c : Char) : Option Reader :=
  (SetOperator.ofChar? c).bind fun operator =>
    r.inBracket? fun b => b.operate r.flags operator

/-- Reads a character after an opening bracket and possibly a `^` or hyphens. -/
def onBracketStart? (r : Reader) (c : Char) : Option Reader :=
  let isFirst := (r.brackets.head?.map Bracket.count) = some 0
  if c = '-' then (r.addMember? (.char c)).map fun r => r.into .bracketStart
  else if c = ']' ∧ isFirst then r.addMember? (.char c)
  else r.onMember? c

/-- Reads a character after an opening bracket. -/
def onBracket? (r : Reader) (c : Char) : Option Reader :=
  if c = '^' then
    (r.inBracket? fun b => { b with negated := true }).map fun r => r.into .bracketStart
  else r.onBracketStart? c

/-! ### Escapes -/

/-- Adds a character at a place. -/
def putChar? (r : Reader) (p : Place) (c : Char) : Option Reader :=
  match p with
  | .item => some (r.push ⟨r.flags.literal c, 0, true⟩)
  | .member => some (r.into (.afterMember (.char c)))
  | .rangeEnd first => r.addRange? first c

/-- Adds a set at a place. -/
def putSet? (r : Reader) (p : Place) (s : CharSet) : Option Reader :=
  match p with
  | .item => some (r.push ⟨.set s, 0, true⟩)
  | .member => some (r.into (.afterMember (.set s)))
  | .rangeEnd _ => none

/-- Adds a look at a place. -/
def putLook? (r : Reader) (p : Place) (l : Look) (mode : Mode) : Option Reader :=
  match p with
  | .item => some ((r.push ⟨.look l, 0, true⟩).into mode)
  | _ => none

/-- Adds the character with a code at a place.  Codes of two digits are bytes, which are no
characters beyond ASCII unless the flags say so. -/
def putCode? (r : Reader) (p : Place) (byte : Bool) (code : Nat) : Option Reader :=
  if code.isValidChar ∧ (!byte ∨ r.flags.admits (Char.ofNat code)) then
    r.putChar? p (Char.ofNat code)
  else none

/-- The control character with a given letter. -/
def controlChar? : Char → Option Char
  | 'a' => some '\x07'
  | 'f' => some '\x0c'
  | 't' => some '\t'
  | 'n' => some '\n'
  | 'r' => some '\r'
  | 'v' => some '\x0b'
  | _ => none

/-- The look with a given sign. -/
def look? (f : Flags) : Char → Option Look
  | 'A' => some .textStart
  | 'z' => some .textEnd
  | 'b' => some (f.edge .boundary)
  | 'B' => some (f.edge .noBoundary)
  | '<' => some (f.edge .opening)
  | '>' => some (f.edge .closing)
  | _ => none

/-- How many digits a code with a given letter has. -/
def codeLength? : Char → Option Nat
  | 'x' => some 2
  | 'u' => some 4
  | 'U' => some 8
  | _ => none

/-- Reads the character after a backslash.  A sign of ASCII stands for itself. -/
def onEscape? (r : Reader) (p : Place) (c : Char) : Option Reader :=
  match codeLength? c, controlChar? c, look? r.flags c, r.flags.letterSet? c.toLower with
  | some digits, _, _, _ => some (r.into (.code p digits))
  | _, some control, _, _ => r.putChar? p control
  | _, _, some look, _ => r.putLook? p look (if c = 'b' then .boundary else .item)
  | _, _, _, some s => (r.flags.negate? c.isUpper s).bind (r.putSet? p)
  | none, none, none, none =>
    if c = 'p' ∨ c = 'P' then some (r.into (.property p (c = 'P')))
    else if c.toNat < 0x80 ∧ !c.isAlphanum then r.putChar? p c
    else none

/-- Reads a digit of a code. -/
def onCodeDigit? (r : Reader) (p : Place) (byte : Bool) (left value : Nat) (c : Char) :
    Option Reader :=
  (Text.digitValue? 16 c).bind fun d =>
    if left ≤ 1 then r.putCode? p byte (16 * value + d)
    else some (r.into (.codeDigits p byte (left - 1) (16 * value + d)))

/-- Reads the character after the letter of a code. -/
def onCode? (r : Reader) (p : Place) (digits : Nat) (c : Char) : Option Reader :=
  if c = '\x7b' then some (r.into (.codeBrace p none))
  else r.onCodeDigit? p (digits = 2) digits 0 c

/-- Reads a character of a code in braces. -/
def onCodeBrace? (r : Reader) (p : Place) (value : Option Nat) (c : Char) : Option Reader :=
  if c = '\x7d' then value.bind (r.putCode? p false)
  else (Text.digitValue? 16 c).map fun d => r.into (.codeBrace p (some (16 * value.getD 0 + d)))

/-- Adds the set with a given name at a place. -/
def putNamed? (r : Reader) (p : Place) (negated : Bool) (name : List Char) : Option Reader :=
  (r.flags.namedSet? negated name).bind (r.putSet? p)

/-- Reads the character after the letter of a property. -/
def onProperty? (r : Reader) (p : Place) (negated : Bool) (c : Char) : Option Reader :=
  if c = '\x7b' then some (r.into (.propertyName p negated []))
  else if c = '\\' then none
  else r.putNamed? p negated [c]

/-- Reads a character of the name of a property. -/
def onPropertyName? (r : Reader) (p : Place) (negated : Bool) (name : List Char) (c : Char) :
    Option Reader :=
  if c = '\x7d' then r.putNamed? p negated name.reverse
  else some (r.into (.propertyName p negated (c :: name)))

/-! ### Word boundaries with names -/

/-- The edges of words with names. -/
def edge? (name : String) : Option WordEdge :=
  match name with
  | "start" => some .opening
  | "end" => some .closing
  | "start-half" => some .openingHalf
  | "end-half" => some .closingHalf
  | _ => none

/-- Whether a character can occur in the name of an edge. -/
def isEdgeChar (c : Char) : Bool := c.isAlpha || c == '-'

/-- Reads the character after the brace that follows a word boundary.  If no name follows, the
brace is that of a number of repetitions. -/
def onBoundaryBrace? (r : Reader) (c : Char) : Option Reader :=
  if isEdgeChar c then some (r.into (.boundaryName [c])) else r.onCountMin? {} c

/-- Reads a character of the name of an edge, which takes the place of the boundary. -/
def onBoundaryName? (r : Reader) (name : List Char) (c : Char) : Option Reader :=
  if isEdgeChar c then some (r.into (.boundaryName (c :: name)))
  else if c = '\x7d' then
    (edge? (.ofList name.reverse)).map fun e =>
      { r with inner := { r.inner with items := r.inner.items.tail } }.push
        ⟨.look (r.flags.edge e), 0, true⟩
  else none

/-! ### Steps -/

/-- Reads the character that the mode awaits. -/
def onAwaited? (r : Reader) (c : Char) : Option Reader :=
  match r.mode with
  | .boundary => some (r.into .boundaryBrace)
  | .operator _ => r.onOperator? c
  | .afterHyphen m => (r.addMember? m).bind fun r => r.onOperator? c
  | _ => some (r.into .item)

/-- Reads a character that is neither awaited nor skipped. -/
def onOther? (r : Reader) (c : Char) : Option Reader :=
  match r.mode with
  | .counted => if c = '?' then some (r.into .item) else r.onItem? c
  | .boundaryBrace => r.onBoundaryBrace? c
  | .boundaryName name => r.onBoundaryName? name c
  | .countMin n => r.onCountMin? n c
  | .countMax min n => r.onCountMax? min n c
  | .group => r.onGroup? c
  | .groupMark => r.onGroupMark? c
  | .groupP => if c = '<' then some (r.into (.groupName [])) else none
  | .groupName name => r.onGroupName? name c
  | .flags seen on flags => r.onFlags? seen on flags c
  | .escape p => r.onEscape? p c
  | .code p digits => r.onCode? p digits c
  | .codeDigits p byte left value => r.onCodeDigit? p byte left value c
  | .codeBrace p value => r.onCodeBrace? p value c
  | .property p negated => r.onProperty? p negated c
  | .propertyName p negated name => r.onPropertyName? p negated name c
  | .bracket => r.onBracket? c
  | .bracketStart => r.onBracketStart? c
  | .member => r.onMember? c
  | .afterMember m => r.onAfterMember? m c
  | .afterHyphenBlank m => r.onAfterHyphen? m c
  | .afterHyphenRemark m inside => r.onAfterHyphenRemark? m inside c
  | .rangeEnd first => r.onRangeEnd? first c
  | .item | .repeated | .boundary | .operator _ | .afterHyphen _ => r.onItem? c

/-- Begins a remark. -/
def beginRemark (r : Reader) : Reader :=
  match r.mode with
  | .afterHyphenBlank m => r.into (.afterHyphenRemark m true)
  | _ => { r with inRemark := true }

/-- Adds a character to the text of the innermost bracket. -/
def note (r : Reader) (c : Char) : Reader :=
  match r.brackets with
  | [] => r
  | b :: outer => { r with brackets := { b with text := c :: b.text } :: outer }

/-- Reads a character outside of remarks. -/
def read? (r : Reader) (c : Char) : Option Reader :=
  if r.mode.awaited? = some c then r.onAwaited? c
  else
    let r := r.into r.mode.settled
    if r.flags.spaced ∧ r.mode.allowsBlanks then
      if Text.isBlank c then some r
      else if c = '#' then some r.beginRemark
      else r.onOther? c
    else r.onOther? c

/-- Reads one character. -/
def step (r : Reader) (c : Char) : Option Reader :=
  let r := r.note c
  if r.inRemark then some { r with inRemark := c != '\n' } else r.read? c

/-- The term that has been read, if the pattern can end here. -/
def result? (r : Reader) : Option Term :=
  if r.mode.isFinal ∧ r.brackets = [] ∧ r.outer = [] then some r.inner.term else none

end Reader

/-- Reads a regular expression. -/
def Term.read? (source : List Char) : Option Term :=
  (source.foldlM Reader.step ({} : Reader)).bind Reader.result?

end RpkiOverlap
