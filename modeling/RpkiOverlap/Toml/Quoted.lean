import RpkiOverlap.Text.Numeral

/-! # Strings and keys of TOML

* Basic strings stand in quotes and have escapes; literal strings stand in apostrophes and
  have none.
* Both have a form over several lines, in three quotes or apostrophes.  A line break is always
  one line feed in the value.
* A key is a string of one line, or bare: letters, digits, hyphens and underscores.

Control characters other than tabs cannot occur anywhere.
-/
namespace RpkiOverlap.Toml

/-- Whether a character may occur in a text: no control character but the tab. -/
def isText (c : Char) : Bool := c == '\t' || (0x20 ≤ c.toNat && c.toNat != 0x7F)

/-- The spaces and tabs between the parts of a line. -/
def isSpace (c : Char) : Bool := c == ' ' || c == '\t'

/-- Drops a line break from the front. -/
def dropBreak? : List Char → Option (List Char)
  | '\n' :: r => some r
  | '\r' :: '\n' :: r => some r
  | _ => none

/-- A text without its line break is shorter. -/
theorem length_dropBreak? {s r : List Char} (h : dropBreak? s = some r) :
    r.length < s.length := by
  unfold dropBreak? at h
  split at h
  · cases h
    exact Nat.lt_succ_self _
  · cases h
    exact Nat.lt_succ_of_lt (Nat.lt_succ_self _)
  · cases h

/-- Drops a line break from the front, if there is one. -/
def dropBreak (s : List Char) : List Char := (dropBreak? s).getD s

/-- Drops spaces and line breaks from the front. -/
def dropSpaces : List Char → List Char
  | '\r' :: '\n' :: r => dropSpaces r
  | c :: r => if isSpace c || c == '\n' then dropSpaces r else c :: r
  | [] => []

theorem length_dropSpaces_le (s : List Char) : (dropSpaces s).length ≤ s.length := by
  fun_induction dropSpaces s <;> simp_all <;> omega

/-- Drops the rest of a line that ends in a backslash, and the spaces and line breaks before
the next character. -/
def dropContinued? (s : List Char) : Option (List Char) :=
  (dropBreak? (s.dropWhile isSpace)).map dropSpaces

theorem length_dropContinued? {s r : List Char} (h : dropContinued? s = some r) :
    r.length ≤ s.length := by
  obtain ⟨t, ht, rfl⟩ := Option.map_eq_some_iff.1 h
  have h₁ := length_dropBreak? ht
  have h₂ := length_dropSpaces_le t
  have h₃ := (List.dropWhile_suffix (l := s) isSpace).length_le
  omega

/-! ### Escapes -/

/-- The character of an escape with one letter. -/
def simpleEscape? : Char → Option Char
  | 'b' => some '\x08'
  | 't' => some '\t'
  | 'n' => some '\n'
  | 'f' => some '\x0c'
  | 'r' => some '\r'
  | '"' => some '"'
  | '\\' => some '\\'
  | _ => none

/-- The character with a code in hexadecimal digits. -/
def codeChar? (digits : List Char) : Option Char := do
  let digits ← digits.mapM (Text.digitValue? 16)
  let code := digits.foldl (fun n d => 16 * n + d) 0
  if code.isValidChar then some (Char.ofNat code) else none

/-- Reads what follows a backslash. -/
def escape? : List Char → Option (Char × List Char)
  | 'u' :: r => if 4 ≤ r.length then (codeChar? (r.take 4)).map (·, r.drop 4) else none
  | 'U' :: r => if 8 ≤ r.length then (codeChar? (r.take 8)).map (·, r.drop 8) else none
  | c :: r => (simpleEscape? c).map (·, r)
  | [] => none

theorem length_escape? {s r : List Char} {c : Char} (h : escape? s = some (c, r)) :
    r.length ≤ s.length := by
  unfold escape? at h
  split at h
  · split at h <;> simp at h
    obtain ⟨_, _, _, rfl⟩ := h
    simp; omega
  · split at h <;> simp at h
    obtain ⟨_, _, _, rfl⟩ := h
    simp; omega
  · simp at h
    obtain ⟨_, _, _, rfl⟩ := h
    simp
  · simp at h

/-! ### Strings

Each function reads from behind the opening quotes up to behind the closing ones. -/

/-- Puts a character in front of what follows it. -/
def andThen (c : Char) (p : List Char × List Char) : List Char × List Char := (c :: p.1, p.2)

/-- Reads a basic string. -/
def basic? (s : List Char) : Option (List Char × List Char) :=
  match s with
  | [] => none
  | '"' :: r => some ([], r)
  | '\\' :: r =>
    match h : escape? r with
    | none => none
    | some (c, r') =>
      have := length_escape? h
      (basic? r').map (andThen c)
  | c :: r => if isText c then (basic? r).map (andThen c) else none
termination_by s.length

/-- Reads a literal string. -/
def literal? : List Char → Option (List Char × List Char)
  | [] => none
  | c :: r =>
    if c = '\'' then some ([], r)
    else if isText c then (literal? r).map (andThen c)
    else none

/-- The end of a string over several lines: up to two more quotes belong to the string. -/
def closing (quote : Char) : List Char → List Char × List Char
  | c :: d :: r =>
    if c = quote then if d = quote then ([c, d], r) else ([c], d :: r) else ([], c :: d :: r)
  | [c] => if c = quote then ([c], []) else ([], [c])
  | [] => ([], [])

/-- Reads a basic string over several lines. -/
def basicLines? (s : List Char) : Option (List Char × List Char) :=
  match s with
  | [] => none
  | '"' :: '"' :: '"' :: r => some (closing '"' r)
  | '\\' :: r =>
    match h : dropContinued? r with
    | some r' =>
      have := length_dropContinued? h
      basicLines? r'
    | none =>
      match h : escape? r with
      | none => none
      | some (c, r') =>
        have := length_escape? h
        (basicLines? r').map (andThen c)
  | '\r' :: '\n' :: r => (basicLines? r).map (andThen '\n')
  | c :: r => if isText c || c == '\n' then (basicLines? r).map (andThen c) else none
termination_by s.length

/-- Reads a literal string over several lines. -/
def literalLines? : List Char → Option (List Char × List Char)
  | [] => none
  | '\'' :: '\'' :: '\'' :: r => some (closing '\'' r)
  | '\r' :: '\n' :: r => (literalLines? r).map (andThen '\n')
  | c :: r => if isText c || c == '\n' then (literalLines? r).map (andThen c) else none

/-- Reads a string with its quotes.  A line break directly after three quotes is dropped. -/
def string? : List Char → Option (String × List Char)
  | '"' :: '"' :: '"' :: r => (basicLines? (dropBreak r)).map fun p => (.ofList p.1, p.2)
  | '"' :: r => (basic? r).map fun p => (.ofList p.1, p.2)
  | '\'' :: '\'' :: '\'' :: r => (literalLines? (dropBreak r)).map fun p => (.ofList p.1, p.2)
  | '\'' :: r => (literal? r).map fun p => (.ofList p.1, p.2)
  | _ => none

/-! ### Keys -/

/-- Whether a character may occur in a bare key. -/
def isBare (c : Char) : Bool := c.isAlphanum || c == '-' || c == '_'

/-- Reads a key without dots. -/
def simpleKey? : List Char → Option (String × List Char)
  | '"' :: r => (basic? r).map fun p => (.ofList p.1, p.2)
  | '\'' :: r => (literal? r).map fun p => (.ofList p.1, p.2)
  | s =>
    let bare := s.takeWhile isBare
    if bare = [] then none else some (.ofList bare, s.dropWhile isBare)

/-- Reads keys with dots between them, and spaces around them; `count` is how many there may
be. -/
def keys? : (count : Nat) → List Char → Option (List String × List Char)
  | 0, _ => none
  | count + 1, s => do
    let (key, r) ← simpleKey? (s.dropWhile isSpace)
    match r.dropWhile isSpace with
    | '.' :: r =>
      let (keys, r) ← keys? count r
      return (key :: keys, r)
    | r => return ([key], r)

/-- The nesting of values and of dotted keys stays below this bound. -/
def depthBound : Nat := 80

/-- Reads a key, dotted or not. -/
def key? (s : List Char) : Option (List String × List Char) := keys? (depthBound - 1) s

end RpkiOverlap.Toml
