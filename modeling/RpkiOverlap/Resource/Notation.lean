import RpkiOverlap.Address.V6
import RpkiOverlap.Fault
import RpkiOverlap.Json.Printer
import RpkiOverlap.Json.Reader
import RpkiOverlap.Resource.Basic
import RpkiOverlap.Text.Blank

/-! # The notation of resources

Resources are written as people write them: `AS64496`, `AS64496-AS64511`, `192.0.2.0/24`,
`10.0.0.0-10.0.2.255`, `2001:db8::/32`.  A set is written as its resources joined by commas.

* `Resource.read` accepts one resource.  A text that starts with `AS` is a range of AS
  numbers; any other text with a colon is IPv6, and one without is IPv4.
* `Resource.print` writes an address range as a prefix when it is one aligned block, and
  as a pair of ends otherwise.
* `ResourceSet.read` and `ResourceSet.print` are the same for sets.  Empty parts are
  ignored, and the first part that is no resource is reported.
* `NotationError` names what was read and why it was refused.
* The JSON form of a set is a string with its notation (`ResourceSet.toJson`,
  `ResourceSet.ofJson?`).
-/
namespace RpkiOverlap

/-- Why a text is not a resource. -/
inductive NotationCause where
  | emptyResource
  | badAsn (part : String) (cause : Text.NumeralError)
  | startAfterEnd
  | badPrefixLength
  | prefixTooLong
  | badAddress (part : String)
  | hostBitsSet
  deriving DecidableEq, Repr

/-- The wording of a cause. -/
def NotationCause.message : NotationCause → String
  | emptyResource => "empty resource"
  | badAsn part cause => s!"bad AS number '{part}': {cause.message}"
  | startAfterEnd => "range start is after range end"
  | badPrefixLength => "bad prefix length"
  | prefixTooLong => "prefix length exceeds address width"
  | badAddress part => s!"bad address '{part}'"
  | hostBitsSet => "host bits set in prefix"

/-- A refused resource text and the reason. -/
structure NotationError where
  input : String
  cause : NotationCause
  deriving DecidableEq, Repr

/-- A refused resource text as a fault. -/
def NotationError.fault (e : NotationError) : Fault := .invalidResource e.input e.cause.message

namespace Resource
open Text

/-! ### Reading -/

/-- Whether a text starts with the letters `AS`, in either case, and goes on after them. -/
def startsWithAS : List Char → Bool
  | a :: s :: _ :: _ => (a == 'A' || a == 'a') && (s == 'S' || s == 's')
  | _ => false

/-- Reads one AS number, with or without the letters `AS`. -/
def readAsn (part : List Char) : Except NotationCause (Fin (2 ^ 32)) :=
  let part := trim part
  let digits := if startsWithAS part then part.drop 2 else part
  (readNat 32 digits).mapError fun cause => .badAsn (.ofList part) cause

/-- The range between two numbers of the space. -/
def between {w : Nat} (lo hi : Fin (2 ^ w)) : Except NotationCause (Range w) :=
  if h : lo.val ≤ hi.val then .ok ⟨lo, hi, h, hi.isLt⟩ else .error .startAfterEnd

/-- Reads one AS number, or two joined by a hyphen. -/
def readAsnRange (text : List Char) : Except NotationCause (Range 32) :=
  match cutAt '-' text with
  | some (start, stop) => do between (← readAsn start) (← readAsn stop)
  | none => do
    let n ← readAsn text
    return .single n n.isLt

/-- Reads one address by the given reader of its family. -/
def readAddress {w : Nat} (address? : List Char → Option (Fin (2 ^ w))) (part : List Char) :
    Except NotationCause (Fin (2 ^ w)) :=
  match address? (trim part) with
  | some n => .ok n
  | none => .error (.badAddress (.ofList part))

/-- Reads a prefix, a pair of addresses joined by a hyphen, or one address. -/
def readAddressRange {w : Nat} (address? : List Char → Option (Fin (2 ^ w)))
    (text : List Char) : Except NotationCause (Range w) :=
  match cutAt '/' text with
  | some (start, length) =>
    match readNat 32 (trim length) with
    | .error _ => .error .badPrefixLength
    | .ok length =>
      if w < length.val then .error .prefixTooLong
      else do
        match Range.block? (← readAddress address? start).val length.val with
        | some r => .ok r
        | none => .error .hostBitsSet
  | none =>
    match cutAt '-' text with
    | some (start, stop) => do
      between (← readAddress address? start) (← readAddress address? stop)
    | none => do
      let n ← readAddress address? text
      return .single n n.isLt

/-- Reads one resource from a text without blanks at its ends. -/
def readTrimmed (text : List Char) : Except NotationCause Resource :=
  if startsWithAS text then asn <$> readAsnRange text
  else if ':' ∈ text then ipv6 <$> readAddressRange Address.V6.read? text
  else ipv4 <$> readAddressRange Address.V4.read? text

/-- Reads one resource.  Blanks around it are no part of it, and an error shows the text
without them; a blank text is shown as it is. -/
def readList (text : List Char) : Except NotationError Resource :=
  let inner := trim text
  if inner = [] then .error ⟨.ofList text, .emptyResource⟩
  else (readTrimmed inner).mapError fun cause => ⟨.ofList inner, cause⟩

/-- Reads one resource from a string. -/
def read (text : String) : Except NotationError Resource := readList text.toList

/-! ### Writing -/

/-- Writes an address range by the given writer of its family. -/
def printAddressRange {w : Nat} (address : Nat → List Char) (r : Range w) : List Char :=
  match r.prefixLength? with
  | some length => address r.lo ++ '/' :: decimal length
  | none => address r.lo ++ '-' :: address r.hi

/-- Writes a range of AS numbers. -/
def printAsnRange (r : Range 32) : List Char :=
  if r.lo = r.hi then 'A' :: 'S' :: decimal r.lo
  else 'A' :: 'S' :: decimal r.lo ++ '-' :: 'A' :: 'S' :: decimal r.hi

/-- Writes one resource. -/
def printList : Resource → List Char
  | asn r => printAsnRange r
  | ipv4 r => printAddressRange Address.V4.print r
  | ipv6 r => printAddressRange Address.V6.print r

/-- Writes one resource as a string. -/
def print (r : Resource) : String := .ofList r.printList

end Resource

namespace ResourceSet

/-- The parts of a set's text: what stands between commas and is not blank. -/
def parts (text : List Char) : List (List Char) :=
  ((text.splitOn ',').map Text.trim).filter fun part => !part.isEmpty

/-- Reads a set: resources separated by commas. -/
def readList (text : List Char) : Except NotationError ResourceSet :=
  ofList <$> (parts text).mapM Resource.readList

/-- Reads a set from a string. -/
def read (text : String) : Except NotationError ResourceSet := readList text.toList

/-- Writes a set: its maximal runs, joined by a comma and a space. -/
def printList (s : ResourceSet) : List Char :=
  [',', ' '].intercalate (s.toList.map Resource.printList)

/-- Writes a set as a string. -/
def print (s : ResourceSet) : String := .ofList s.printList

/-- The JSON text of a set. -/
def toJson (s : ResourceSet) : List Char := Json.printString s.print

/-- Reads the JSON text of a set. -/
def ofJson? (text : List Char) : Option ResourceSet :=
  match Json.read? text with
  | some (.string s) => (read s).toOption
  | _ => none

end ResourceSet
end RpkiOverlap
