import RpkiOverlap.Json.Printer
import RpkiOverlap.Json.Reader

/-! # Identifiers of runs

Every run has a `RunId`, and a `TraceId` if the job that started it has one.  Both are opaque
texts, and in JSON they are strings.

Fresh identifiers are UUIDs in the order of time: 48 bits of milliseconds, then random bits
around the marks of version 7.
-/
namespace RpkiOverlap

/-- The identifier of a run. -/
structure RunId where
  text : String
  deriving DecidableEq, Repr

/-- The identifier of the job that started a run. -/
structure TraceId where
  text : String
  deriving DecidableEq, Repr

namespace RunId

/-- The JSON text of an identifier. -/
def toJson (id : RunId) : List Char := Json.printString id.text

/-- Reads the JSON text of an identifier. -/
def ofJson? (text : List Char) : Option RunId :=
  match Json.read? text with
  | some (.string s) => some ⟨s⟩
  | _ => none

end RunId

namespace TraceId

/-- The JSON text of an identifier. -/
def toJson (id : TraceId) : List Char := Json.printString id.text

/-- Reads the JSON text of an identifier. -/
def ofJson? (text : List Char) : Option TraceId :=
  match Json.read? text with
  | some (.string s) => some ⟨s⟩
  | _ => none

end TraceId

namespace Uuid
open Text (hexadecimal)

/-- The lengths of the groups of digits. -/
def groups : List Nat := [8, 4, 4, 4, 12]

/-- The text of a number of 128 bits, as groups of hexadecimal digits with hyphens between. -/
def print (n : Nat) : List Char :=
  let digits := hexadecimal n
  let digits := List.replicate (32 - digits.length) '0' ++ digits
  let cut := groups.foldl (fun (p : List (List Char) × List Char) length =>
    (p.1 ++ [p.2.take length], p.2.drop length)) ([], digits)
  ['-'].intercalate cut.1

/-- The number for a time in milliseconds and random bits. -/
def timeOrdered (milliseconds random : Nat) : Nat :=
  (milliseconds % 2 ^ 48) * 2 ^ 80 + 7 * 2 ^ 76 + (random / 2 ^ 62 % 2 ^ 12) * 2 ^ 64 +
    2 * 2 ^ 62 + random % 2 ^ 62

/-- Whether a text is such a UUID in lower case. -/
def isTimeOrdered (text : List Char) : Bool :=
  let parts := text.splitOn '-'
  parts.map List.length == groups &&
    text.all (fun c => c == '-' || c.isDigit || ('a' ≤ c && c ≤ 'f')) &&
    text[14]? == some '7' && ['8', '9', 'a', 'b'].any fun c => text[19]? == some c

end Uuid

/-- A fresh identifier of a run. -/
def RunId.fresh (milliseconds random : Nat) : RunId :=
  ⟨.ofList (Uuid.print (Uuid.timeOrdered milliseconds random))⟩

/-- A fresh identifier of a job. -/
def TraceId.fresh (milliseconds random : Nat) : TraceId :=
  ⟨.ofList (Uuid.print (Uuid.timeOrdered milliseconds random))⟩

end RpkiOverlap
