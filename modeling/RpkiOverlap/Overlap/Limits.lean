import RpkiOverlap.Json.Printer
import RpkiOverlap.Json.Reader

/-! # Limits of a comparison

`Limits` protects a comparison against data in which almost everything overlaps.

* A certificate with more than `perCertificate` overlaps is left out.
* A comparison with more than `total` overlaps is given up.

The limits have a JSON form, an object or an array of the two numbers in order.  What is
missing has its default, and unknown members are skipped without a look at their values.
-/
namespace RpkiOverlap

/-- The most overlaps of one certificate, and of all. -/
structure Limits where
  perCertificate : Nat := 32
  total : Nat := 65536
  deriving DecidableEq, Repr

namespace Limits

/-- The name of the limit on the overlaps of one certificate, in documents. -/
def perCertificateName : String := "max_pairs_per_certificate"

/-- The name of the limit on all overlaps, in documents. -/
def totalName : String := "max_total_pairs"

/-- The JSON text of the limits. -/
def print (l : Limits) : List Char :=
  Json.printMembers
    [Json.printMember perCertificateName (Text.decimal l.perCertificate),
      Json.printMember totalName (Text.decimal l.total)]

/-- A natural number. -/
def natural? : Json → Option Nat
  | .number (.natural n) => some n
  | _ => none

/-- The limits of given numbers, where there are any. -/
def ofOptions (perCertificate total : Option Nat) : Limits :=
  { perCertificate := perCertificate.getD { : Limits }.perCertificate
    total := total.getD { : Limits }.total }

/-- The limits of an array. -/
def ofValues? : List Json → Option Limits
  | [] => some {}
  | [a] => do return ofOptions (← natural? a) none
  | [a, b] => do return ofOptions (← natural? a) (← natural? b)
  | _ => none

open Json (Token)

/-- The limits that have been read so far. -/
structure Found where
  perCertificate : Option Nat := none
  total : Option Nat := none

/-- Sets a limit that has not been set yet. -/
def set? (limit : Option Nat) (x : Json) : Option (Option Nat) :=
  if limit.isSome then none else (natural? x).map some

/-- Adds the member with a given name; a name that is no limit's adds nothing. -/
def Found.add? (p : Found) (name : String) (x : Json) : Option Found :=
  if name = perCertificateName then
    (set? p.perCertificate x).map fun limit => { p with perCertificate := limit }
  else if name = totalName then (set? p.total x).map fun limit => { p with total := limit }
  else some p

/-- Reads the value of the member with a given name: a limit's in full, any other only by its
form, however deep it is. -/
def value? (name : String) (ts : List Token) : Json.ReadFrom Json ts :=
  if name = perCertificateName ∨ name = totalName then Json.value? true Json.maxDepth ts
  else Json.value? false ts.length ts

/-- Reads the members of an object after its opening brace, up to the end of the document. -/
def members? (p : Found) (ts : List Token) : Option Limits :=
  match ts with
  | .string (some name) :: .colon :: r =>
    match value? name r with
    | some (x, ⟨.comma :: r', _⟩) => do
      let p ← p.add? name x
      members? p r'
    | some (x, ⟨[.closeBrace], _⟩) => do
      let p ← p.add? name x
      return ofOptions p.perCertificate p.total
    | _ => none
  | _ => none
termination_by ts.length
decreasing_by rename_i h; simp at h ⊢; omega

/-- Reads the JSON text of limits. -/
def read? (text : List Char) : Option Limits := do
  match ← Json.tokens? text with
  | [.openBrace, .closeBrace] => return {}
  | .openBrace :: ts => members? {} ts
  | ts =>
    match ← Json.ofTokens? ts with
    | .array xs => ofValues? xs
    | _ => none

end Limits
end RpkiOverlap
