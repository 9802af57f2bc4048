import RpkiOverlap.Proofs.Resource.Components
import RpkiOverlap.Proofs.Result
import RpkiOverlap.Proofs.Text.Blank
import RpkiOverlap.Resource.Notation

/-! # The parts of a set's notation

A set is written as parts between commas, and reading goes through the parts in order.

* The parts of two texts with a comma between them are those of the one and then those of the other
  (`parts_append`), and blanks at the ends of a text are no matter (`parts_blank_append`,
  `parts_append_blank`).
* So a comma between two texts stands for the union of the sets that they denote
  (`readList_append`), and a text without parts denotes no numbers (`readList_of_blank`).
* Reading fails with the error of the first part that is no resource (`readList_eq_error_iff`).
* Apart from errors only the parts count, and neither their order nor how often each is there
  (`readList_congr`).

`read_joined` puts this together.
-/
namespace RpkiOverlap.ResourceSet
open Text

/-- A text stands between commas of another with nothing but blanks around it. -/
structure IsPart (text part : List Char) : Prop where
  ne_nil : part ≠ []
  trimmed : IsTrimmed part
  between : ∃ before after, Blank before ∧ Blank after ∧ before ++ part ++ after ∈ text.splitOn ','

/-! ## Parts -/

theorem comma_not_mem_of_blank {b : List Char} (h : Blank b) : ',' ∉ b := by
  intro hmem
  cases h _ hmem

theorem parts_append (s t : List Char) : parts (s ++ ',' :: t) = parts s ++ parts t := by
  simp only [parts, List.splitOn_append_cons_self, List.map_append, List.filter_append]

/-- A text without commas has the part that is left when it is trimmed, or none. -/
theorem parts_of_not_mem {s : List Char} (h : ',' ∉ s) :
    parts s = [trim s].filter fun part => !part.isEmpty := by
  rw [parts, List.splitOn_eq_singleton h]
  rfl

theorem parts_of_blank {b : List Char} (h : Blank b) : parts b = [] := by
  rw [parts_of_not_mem (comma_not_mem_of_blank h), trim_eq_nil_iff.2 h]
  rfl

/-- Blanks around a text without commas are no part of it. -/
theorem parts_pad_of_not_mem {before s after : List Char} (hbefore : Blank before)
    (hafter : Blank after) (h : ',' ∉ s) : parts (before ++ s ++ after) = parts s := by
  have hnone : ',' ∉ before ++ s ++ after :=
    List.not_mem_append (List.not_mem_append (comma_not_mem_of_blank hbefore) h)
      (comma_not_mem_of_blank hafter)
  rw [parts_of_not_mem hnone, parts_of_not_mem h, trim_append_append s hbefore hafter]

/-- Blanks around a text are no part of it. -/
theorem parts_pad {before after : List Char} (hbefore : Blank before) (hafter : Blank after)
    (s : List Char) : parts (before ++ s ++ after) = parts s := by
  by_cases hs : ',' ∈ s
  · -- the blanks in front belong to what is before the first comma, and the others behind it
    obtain ⟨q, r, heq, hq⟩ := List.eq_append_cons_of_mem hs
    have hlt : r.length < s.length := by
      rw [heq, List.length_append, List.length_cons]
      omega
    have hfront : parts (before ++ q) = parts q := by
      simpa using parts_pad_of_not_mem hbefore (List.forall_mem_nil _) hq
    have hback : parts (r ++ after) = parts r := by
      simpa using parts_pad (List.forall_mem_nil _) hafter r
    calc parts (before ++ s ++ after)
        = parts ((before ++ q) ++ ',' :: (r ++ after)) := by simp [heq]
      _ = parts q ++ parts r := by rw [parts_append, hfront, hback]
      _ = parts s := by rw [heq, parts_append]
  · exact parts_pad_of_not_mem hbefore hafter hs
termination_by s.length

theorem parts_blank_append {b : List Char} (h : Blank b) (s : List Char) :
    parts (b ++ s) = parts s := by
  simpa using parts_pad h (List.forall_mem_nil _) s

theorem parts_append_blank (s : List Char) {b : List Char} (h : Blank b) :
    parts (s ++ b) = parts s := by
  simpa using parts_pad (List.forall_mem_nil _) h s

/-- The part of a piece between commas, unless it is blank. -/
def part? (piece : List Char) : Option (List Char) :=
  if trim piece = [] then none else some (trim piece)

theorem part?_eq_some_iff {piece part : List Char} :
    part? piece = some part ↔ ¬ Blank piece ∧ trim piece = part := by
  rw [part?, Option.ite_none_left_eq_some, trim_eq_nil_iff, Option.some.injEq]

theorem parts_eq_filterMap (s : List Char) : parts s = (s.splitOn ',').filterMap part? := by
  rw [parts]
  induction s.splitOn ',' with
  | nil => rfl
  | cons piece pieces ih =>
    rw [List.map_cons, List.filterMap_cons, part?]
    by_cases h : trim piece = []
    · rw [if_pos h, List.filter_cons_of_neg (by simp [h]), ih]
    · rw [if_neg h, List.filter_cons_of_pos (by simp [h]), ih]

theorem mem_parts_iff {s part : List Char} : part ∈ parts s ↔ IsPart s part := by
  simp only [parts_eq_filterMap, List.mem_filterMap, part?_eq_some_iff, ← trim_eq_nil_iff]
  constructor
  · rintro ⟨piece, hpiece, hne, rfl⟩
    obtain ⟨before, after, heq, hbefore, hafter⟩ := exists_eq_trim piece
    exact ⟨hne, isTrimmed_trim piece, before, after, hbefore, hafter, heq ▸ hpiece⟩
  · rintro ⟨hne, htrimmed, before, after, hbefore, hafter, hpiece⟩
    have htrim : trim (before ++ part ++ after) = part := trim_eq htrimmed hbefore hafter
    exact ⟨_, hpiece, htrim.symm ▸ hne, htrim⟩

/-! ## Reading -/

theorem ofList_append (rs ss : List Resource) :
    ofList (rs ++ ss) = (ofList rs).union (ofList ss) :=
  ext_has fun f n => by
    rw [has_union, has_ofList, has_ofList, has_ofList]
    simp only [List.mem_append, or_and_right, exists_or]

theorem ofList_nil : ofList [] = empty := by
  simp only [ofList, List.filterMap_nil, RangeSet.ofList_nil, empty]

/-- A text with a comma in the middle is read as the two texts on its sides, the first one
first. -/
theorem readList_append (s t : List Char) :
    readList (s ++ ',' :: t) = do return (← readList s).union (← readList t) := by
  rw [readList, readList, readList, parts_append, List.mapM_append]
  cases (parts s).mapM Resource.readList with
  | error e => rfl
  | ok rs =>
    cases (parts t).mapM Resource.readList with
    | error e => rfl
    | ok ss => exact congrArg Except.ok (ofList_append rs ss)

theorem readList_of_blank {b : List Char} (h : Blank b) : readList b = .ok empty := by
  rw [readList, parts_of_blank h]
  exact congrArg Except.ok ofList_nil

/-- Apart from errors only the parts count, and neither their order nor their repetition. -/
theorem readList_congr {s t : List Char} (h : ∀ part, IsPart t part ↔ IsPart s part)
    {a : ResourceSet} (hs : readList s = .ok a) : readList t = .ok a := by
  simp only [← mem_parts_iff] at h
  obtain ⟨rs, hrs, rfl⟩ := map_eq_ok.1 hs
  obtain ⟨ss, hss⟩ : ∃ ss, (parts t).mapM Resource.readList = .ok ss := by
    rw [exists_mapM_eq_ok_iff]
    intro part hpart
    exact exists_mapM_eq_ok_iff.1 ⟨rs, hrs⟩ part ((h part).1 hpart)
  refine map_eq_ok.2 ⟨ss, hss, ofList_congr fun r => ?_⟩
  rw [mem_of_mapM_eq_ok hss, mem_of_mapM_eq_ok hrs]
  simp only [h]

/-- A text is read as a resource like the text without the blanks around it. -/
theorem readList_trim {piece : List Char} (h : ¬ Blank piece) :
    Resource.readList (trim piece) = Resource.readList piece := by
  rw [← trim_eq_nil_iff] at h
  simp only [Resource.readList, (isTrimmed_trim piece).trim_eq_self, if_neg h]

/-- Reading fails like the first piece between commas that is neither blank nor a resource. -/
theorem readList_eq_error_iff {s : List Char} {e : NotationError} :
    readList s = .error e ↔ ∃ before piece after, s.splitOn ',' = before ++ piece :: after ∧
      (∀ p ∈ before, Blank p ∨ ∃ r, Resource.readList p = .ok r) ∧ ¬ Blank piece ∧
      Resource.readList piece = .error e := by
  have hpass : readList s = .error e ↔ (parts s).mapM Resource.readList = .error e := by
    rw [readList]
    cases (parts s).mapM Resource.readList <;> simp [Functor.map, Except.map]
  rw [hpass, mapM_eq_error_iff, parts_eq_filterMap, stopsAt_filterMap]
  refine exists_congr fun before => exists_congr fun piece => exists_congr fun after =>
    and_congr_right fun _ => and_congr (forall₂_congr fun p _ => ?_) ?_
  · by_cases h : Blank p
    · simp [part?_eq_some_iff, h]
    · simp [part?_eq_some_iff, h, readList_trim h]
  · by_cases h : Blank piece
    · simp [part?_eq_some_iff, h]
    · simp [part?_eq_some_iff, h, readList_trim h]

/-- **Commas between texts are unions, errors included.**

* A text with a comma in the middle denotes the union of what the texts on its sides denote.  It is
  refused like the first of them when that one is refused, and otherwise like the second one.
* Blanks around a text or a comma do not matter, and neither does a blank text between commas: on
  its own it denotes no numbers.
* Texts with the same parts denote the same set, whatever the order of the parts and however often
  each is there.
* A text is refused exactly if some piece between commas is neither blank nor a resource, and it is
  refused like the first such piece. -/
theorem read_joined :
    (∀ s t a b, read s = .ok a → read t = .ok b → read (s ++ "," ++ t) = .ok (a.union b)) ∧
    (∀ s t e, read s = .error e → read (s ++ "," ++ t) = .error e) ∧
    (∀ s t a e, read s = .ok a → read t = .error e → read (s ++ "," ++ t) = .error e) ∧
    (∀ before after s t, Blank before.toList → Blank after.toList →
      read before = .ok empty ∧ read (before ++ s ++ after) = read s ∧
      read (s ++ before ++ "," ++ after ++ t) = read (s ++ "," ++ t) ∧
      read (before ++ "," ++ s) = read s ∧ read (s ++ "," ++ after) = read s ∧
      read (s ++ "," ++ before ++ "," ++ t) = read (s ++ "," ++ t)) ∧
    (∀ s t a, (∀ part, IsPart t.toList part ↔ IsPart s.toList part) →
      read s = .ok a → read t = .ok a) ∧
    (∀ s e, read s = .error e ↔ ∃ before piece after,
      s.toList.splitOn ',' = before ++ piece :: after ∧
      (∀ p ∈ before, Blank p ∨ ∃ r, Resource.readList p = .ok r) ∧ ¬ Blank piece ∧
      Resource.readList piece = .error e) := by
  have hjoin : ∀ s t, read (s ++ "," ++ t) = do return (← read s).union (← read t) := by
    intro s t
    simpa [read] using readList_append s.toList t.toList
  have hparts : ∀ s t : String, parts s.toList = parts t.toList → read s = read t := by
    intro s t h
    rw [read, read, readList, readList, h]
  have hcomma : ∀ s t : String, parts (s ++ "," ++ t).toList =
      parts s.toList ++ parts t.toList := by
    intro s t
    simpa using parts_append s.toList t.toList
  refine ⟨fun s t a b hs ht => ?_, fun s t e hs => ?_, fun s t a e hs ht => ?_,
    fun before after s t hbefore hafter => ⟨readList_of_blank hbefore, hparts _ _ ?_,
      hparts _ _ ?_, hparts _ _ ?_, hparts _ _ ?_, hparts _ _ ?_⟩,
    fun s t a h => readList_congr h, fun s e => readList_eq_error_iff⟩
  · rw [hjoin, hs, ht]
    rfl
  · rw [hjoin, hs]
    rfl
  · rw [hjoin, hs, ht]
    rfl
  · rw [String.toList_append, String.toList_append, parts_pad hbefore hafter]
  · have hassoc : s ++ before ++ "," ++ after ++ t = s ++ before ++ "," ++ (after ++ t) :=
      String.append_assoc
    rw [hassoc, hcomma, hcomma, String.toList_append, String.toList_append,
      parts_append_blank _ hbefore, parts_blank_append hafter]
  · rw [hcomma, parts_of_blank hbefore, List.nil_append]
  · rw [hcomma, parts_of_blank hafter, List.append_nil]
  · rw [hcomma, hcomma, hcomma, parts_of_blank hbefore, List.append_nil]

end RpkiOverlap.ResourceSet
