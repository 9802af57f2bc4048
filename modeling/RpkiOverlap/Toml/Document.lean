import RpkiOverlap.Toml.Quoted
import RpkiOverlap.Toml.Scalar

/-! # TOML documents

A document is a list of `Statement`s: headers of tables, and assignments to keys.

* `statements?` reads the statements of a text, each on lines of its own.
* `Entries.run?` carries them out.  A table is defined once: a header can define a table that
  was only implied before, a dotted key can add to tables of dotted keys alone, and nothing
  can be added to a table in braces.
* `read?` reads the entries of a document.
-/
namespace RpkiOverlap.Toml

/-! ### Blanks and line ends -/

/-- Drops a comment and the line break after it; the end of the text also ends a line. -/
def dropLineEnd? (s : List Char) : Option (List Char) :=
  let s := s.dropWhile isSpace
  let s := if s.head? = some '#' then s.dropWhile isText else s
  if s = [] then some [] else dropBreak? s

/-- Drops spaces, comments and line breaks; there are at most `steps` lines of them. -/
def dropLines : (steps : Nat) → List Char → List Char
  | 0, s => s
  | steps + 1, s =>
    let s := s.dropWhile isSpace
    match dropLineEnd? s with
    | some r => if r = [] then s else dropLines steps r
    | none => s

/-! ### Values -/

/-- Adds an entry under a key of a table in braces or of a statement.  The tables on the way
come about by dotted keys. -/
def Entries.assign? (entries : Entries) (path : List String) (key : String) (item : Item) :
    Option Entries :=
  match path with
  | [] => if entries.any fun e => e.1 == key then none else some (entries ++ [(key, item)])
  | name :: path =>
    match entries.lookup name with
    | none => (assign? [] path key item).map fun es => entries ++ [(name, .table .dotted es)]
    | some (.table kind es) =>
      if kind = .dotted ∨ (kind = .implied ∧ path ≠ []) then
        (assign? es path key item).map fun es => replace entries name (.table kind es)
      else none
    | some (.tables elements) =>
      match elements.getLast? with
      | some es =>
        if path = [] then none
        else (assign? es path key item).map fun es =>
          replace entries name (.tables (elements.dropLast ++ [es]))
      | none => none
    | some _ => none
where
  /-- Replaces the item of a key. -/
  replace (entries : Entries) (name : String) (item : Item) : Entries :=
    entries.map fun e => if e.1 = name then (name, item) else e

/-- Adds an entry under a dotted key. -/
def Entries.put? (entries : Entries) (keys : List String) (item : Item) : Option Entries :=
  keys.getLast?.bind fun key => entries.assign? keys.dropLast key item

/-- Reads the values of an array after its opening bracket; `value?` reads one of them. -/
def elements? (value? : List Char → Option (Item × List Char)) :
    (steps : Nat) → List Char → Option (List Item × List Char)
  | 0, _ => none
  | steps + 1, s =>
    match dropLines s.length s with
    | ']' :: r => some ([], r)
    | s => do
      let (item, r) ← value? s
      match dropLines r.length r with
      | ',' :: r =>
        let (items, r) ← elements? value? steps r
        return (item :: items, r)
      | ']' :: r => return ([item], r)
      | _ => none

/-- Reads the entries of a table in braces after its first brace; `value?` reads one value. -/
def pairs? (value? : List Char → Option (Item × List Char)) :
    (steps : Nat) → Entries → List Char → Option (Entries × List Char)
  | 0, _, _ => none
  | steps + 1, entries, s => do
    let (keys, r) ← key? s
    let r ← dropChar? '=' r
    let (item, r) ← value? (r.dropWhile isSpace)
    let entries ← entries.put? keys item
    match r.dropWhile isSpace with
    | ',' :: r => pairs? value? steps entries r
    | '\x7d' :: r => return (entries, r)
    | _ => none

/-- Reads a value in which arrays and tables in braces are nested at most `depth` deep. -/
def value? : (depth : Nat) → List Char → Option (Item × List Char)
  | _, '"' :: r => (string? ('"' :: r)).map fun p => (.string p.1, p.2)
  | _, '\'' :: r => (string? ('\'' :: r)).map fun p => (.string p.1, p.2)
  | depth + 1, '[' :: r =>
    (elements? (value? depth) (r.length + 1) r).map fun p => (.array p.1, p.2)
  | depth + 1, '\x7b' :: r =>
    match r.dropWhile isSpace with
    | '\x7d' :: r => some (.table .inline [], r)
    | _ => (pairs? (value? depth) (r.length + 1) [] r).map fun p => (.table .inline p.1, p.2)
  | _, s => boolean? s <|> number? s

/-! ### Statements -/

/-- A header or an assignment. -/
inductive Statement where
  | header (keys : List String)
  /-- The header of another element of an array of tables. -/
  | element (keys : List String)
  | assign (keys : List String) (item : Item)
  deriving Repr

/-- Reads a statement up to the end of its line. -/
def statement? (s : List Char) : Option (Statement × List Char) :=
  match s with
  | '[' :: '[' :: r => do
    let (keys, r) ← key? r
    let r ← dropChar? ']' r
    let r ← dropChar? ']' r
    return (.element keys, ← dropLineEnd? r)
  | '[' :: r => do
    let (keys, r) ← key? r
    let r ← dropChar? ']' r
    return (.header keys, ← dropLineEnd? r)
  | s => do
    let (keys, r) ← key? s
    let r ← dropChar? '=' r
    let (item, r) ← value? (depthBound - 1) (r.dropWhile isSpace)
    return (.assign keys item, ← dropLineEnd? r)

/-- Reads the statements of a text; there are at most `steps` lines. -/
def statementsWithin? : (steps : Nat) → List Char → Option (List Statement)
  | steps, s =>
    match s.dropWhile isSpace, steps with
    | [], _ => some []
    | _, 0 => none
    | s, steps + 1 =>
      match dropLineEnd? s with
      | some r => statementsWithin? steps r
      | none => do
        let (statement, r) ← statement? s
        return statement :: (← statementsWithin? steps r)

/-- Reads the statements of a text.  A byte order mark at its start does not count. -/
def statements? (s : List Char) : Option (List Statement) :=
  let s := if s.head? = some '\ufeff' then s.tail else s
  statementsWithin? s.length s

/-! ### Tables -/

namespace Entries

/-- Changes the table at a path of keys.  Missing tables are implied; of an array of tables the
last one is meant. -/
def update? (entries : Entries) (path : List String) (change : Entries → Option Entries) :
    Option Entries :=
  match path with
  | [] => change entries
  | name :: path =>
    match entries.lookup name with
    | none => (update? [] path change).map fun es => entries ++ [(name, .table .implied es)]
    | some (.table kind es) =>
      if kind = .inline then none
      else (update? es path change).map fun es => assign?.replace entries name (.table kind es)
    | some (.tables elements) =>
      elements.getLast?.bind fun es => (update? es path change).map fun es =>
        assign?.replace entries name (.tables (elements.dropLast ++ [es]))
    | some _ => none

/-- Defines the table with a given name, which may have been implied. -/
def define? (name : String) (entries : Entries) : Option Entries :=
  match entries.lookup name with
  | none => some (entries ++ [(name, .table .header [])])
  | some (.table .implied es) => some (assign?.replace entries name (.table .header es))
  | some _ => none

/-- Adds an element to the array of tables with a given name. -/
def extend? (name : String) (entries : Entries) : Option Entries :=
  match entries.lookup name with
  | none => some (entries ++ [(name, .tables [[]])])
  | some (.tables elements) => some (assign?.replace entries name (.tables (elements ++ [[]])))
  | some _ => none

/-- Carries out statements; `current` is the path of the last header. -/
def run? (current : List String) (entries : Entries) : List Statement → Option Entries
  | [] => some entries
  | .header keys :: rest => do
    let name ← keys.getLast?
    run? keys (← entries.update? keys.dropLast (define? name)) rest
  | .element keys :: rest => do
    let name ← keys.getLast?
    run? keys (← entries.update? keys.dropLast (extend? name)) rest
  | .assign keys item :: rest => do
    run? current (← entries.update? current fun es => es.put? keys item) rest

end Entries

/-- Reads the entries of a document. -/
def read? (text : List Char) : Option Entries := (statements? text).bind (Entries.run? [] [])

end RpkiOverlap.Toml
