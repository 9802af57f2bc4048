import RpkiOverlap.Unicode.Property
import RpkiOverlap.Unicode.Script

/-! # Sets of characters by name

How the sets of Unicode are named in patterns.  Letter case, spaces, hyphens and underscores
of a name do not matter, nor does a leading `is`.

* `named?` finds a binary property, a general category or a script, in this order.
* `valued?` finds the characters for which a property has a given value.  The properties are the
  general category, the script and the script extensions.

Patterns may also ask for values of `Age`, `Grapheme_Cluster_Break`, `Word_Break` and
`Sentence_Break`.  There are no tables of these four here, so an expression with one of them, such
as `\p{Age=6.0}`, is refused.
-/
namespace RpkiOverlap.Unicode

/-- Whether a character of a name counts. -/
def countsInName (c : Char) : Bool := c.toNat < 0x80 && c != ' ' && c != '_' && c != '-'

/-- The part of a name that counts, in lower case.  A leading `is` does not count, except in
the name `isc` of a property of its own. -/
def normalName (name : List Char) : String :=
  let lower (s : List Char) : String := .ofList ((s.filter countsInName).map Char.toLower)
  match name with
  | i :: s :: r =>
    if i.toLower = 'i' ∧ s.toLower = 's' then
      if lower r = "c" then "isc" else lower r
    else lower name
  | _ => lower name

/-- Names of general categories that are also short for properties without binary values. -/
def categoryFirst : List String := ["cf", "sc", "lc"]

/-- The characters with a binary property, in a general category or of a script. -/
def named? (name : List Char) : Option CharSet :=
  let name := normalName name
  let property := if categoryFirst.contains name then none else property? name
  property <|> category? name <|> (Script.find? name).map Script.own

/-- The characters for which a property has a given value. -/
def valued? (property value : List Char) : Option CharSet :=
  let property := normalName property
  let value := normalName value
  if property = "gc" ∨ property = "generalcategory" then category? value
  else if property = "sc" ∨ property = "script" then (Script.find? value).map Script.own
  else if property = "scx" ∨ property = "scriptextensions" then
    (Script.find? value).map Script.extensions
  else none

end RpkiOverlap.Unicode
