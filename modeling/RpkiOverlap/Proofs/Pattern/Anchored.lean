import RpkiOverlap.Config
import RpkiOverlap.Proofs.Pattern.Search
import RpkiOverlap.Proofs.Pattern.Within

/-! # Sources between the signs for start and end

A pattern puts its source between `^(?:` and `)$` and reads the whole.  Nearly always that is the
same as reading the source on its own and testing for the start and the end of the text around it.

There are two exceptions.

* A remark that the source does not end (`endsInRemark`) takes `)$` in.  Such a source is refused,
  even if it is an expression.
* A parenthesis in the source can close the group that has been opened around it
  (`ClosesEarly`).  Such a source is no expression, but what follows can open another group for the
  last parenthesis, and then it is accepted.

With these sources apart, the patterns are the expressions within the limits
(`compilePattern_exact`).  A pattern whose source is an expression fits a text if the expression
spans it from its start to its end (`fits_iff_spans`).
-/
namespace RpkiOverlap

namespace Reader

/-! ## The signs around a source -/

/-- What has been read outside of the source. -/
def opening : Branches × Flags := ({ items := [⟨.look .textStart, 0, true⟩] }, {})

theorem foldlM_opening : ['^', '(', '?', ':'].foldlM step ({} : Reader) =
    some (within opening {}) := rfl

/-- Where a pattern could end, a closing parenthesis closes a group. -/
theorem step_close {r : Reader} (hmode : r.mode.isFinal = true) (hbrackets : r.brackets = [])
    (hremark : r.inRemark = false) : r.step ')' = r.closeGroup? := by
  have hnote : r.note ')' = r := by simp [note, hbrackets]
  have hread : r.read? ')' = r.closeGroup? := by
    have hblank : Text.isBlank ')' = false := by decide
    unfold read?
    cases hm : r.mode with
    | item | repeated | boundary | counted =>
      simp [Mode.awaited?, Mode.settled, into, hblank, onOther?, onItem?, closeGroup?]
    | _ =>
      rw [hm] at hmode
      cases hmode
  unfold step
  dsimp only
  rw [hnote, hread, hremark]
  rfl

/-- A pattern cannot end inside of a group. -/
theorem result?_within (frame : Branches × Flags) (r : Reader) :
    (r.within frame).result? = none :=
  if_neg fun h => List.append_ne_nil_of_right_ne_nil _ (List.cons_ne_nil _ _) h.2.2

/-- No bracket is open where a pattern could end. -/
theorem Sound.brackets_eq_nil {r : Reader} (h : r.Sound) (hend : r.AtEnd) : r.brackets = [] := by
  refine h.outside ?_
  have hfinal := hend.mode
  cases hm : r.mode with
  | item | repeated | counted | boundary => rfl
  | _ =>
    rw [hm] at hfinal
    cases hfinal

/-- On its own, a text cannot go on with a closing parenthesis where it could end. -/
theorem AtEnd.step_eq_none {r : Reader} (h : r.AtEnd) (hbrackets : r.brackets = []) :
    r.step ')' = none := by
  rw [step_close h.mode hbrackets h.inRemark, closeGroup?, h.outer]

theorem AtEnd.result?_eq_some {r : Reader} (h : r.AtEnd) (hbrackets : r.brackets = []) :
    r.result? = some r.inner.term :=
  if_pos ⟨h.mode, hbrackets, h.outer⟩

theorem atEnd_of_result? {r : Reader} {t : Term} (hremark : r.inRemark = false)
    (h : r.result? = some t) : r.AtEnd := by
  obtain ⟨⟨hmode, -, houter⟩, -⟩ := Option.ite_none_right_eq_some.1 h
  exact ⟨houter, hmode, hremark⟩

end Reader

/-- A term between the tests for the start and the end of the text. -/
def Term.anchored (t : Term) : Term :=
  { expr := .cat (.look .textStart) (.cat t.expr (.look .textEnd)), height := t.height + 2 }

namespace Pattern
open Reader

/-- Whether a source ends inside of a remark. -/
def endsInRemark (source : List Char) : Bool :=
  (source.foldlM Reader.step ({} : Reader)).any Reader.inRemark

/-- Whether a part of a source is an expression already, and a parenthesis follows it. -/
def ClosesEarly (source : List Char) : Prop :=
  ∃ a b, source = a ++ ')' :: b ∧ endsInRemark a = false ∧ (Term.read? a).isSome

/-- On its own, a source that closes early is no expression. -/
theorem ClosesEarly.read?_eq_none {source : List Char} (h : ClosesEarly source) :
    Term.read? source = none := by
  obtain ⟨a, b, rfl, hremark, ha⟩ := h
  obtain ⟨t, ht⟩ := Option.isSome_iff_exists.1 ha
  obtain ⟨r, hr, hresult⟩ := Option.bind_eq_some_iff.1 ht
  rw [endsInRemark, hr] at hremark
  have hend : r.AtEnd := atEnd_of_result? hremark hresult
  rw [Term.read?, List.foldlM_append, hr]
  show ((r.step ')').bind fun r => b.foldlM Reader.step r).bind Reader.result? = none
  rw [hend.step_eq_none ((sound_initial.foldlM hr).brackets_eq_nil hend)]
  rfl

/-- Where the source could end, the parenthesis closes the group around it, and the last sign is
read with the flags from outside. -/
theorem result?_closing_of_atEnd {r : Reader} (hend : r.AtEnd) (hbrackets : r.brackets = []) :
    ([')', '$'].foldlM Reader.step (r.within opening)).bind Reader.result? =
      some r.inner.term.anchored := by
  have hclose : (r.within opening).step ')' = (r.within opening).closeGroup? :=
    step_close hend.mode hbrackets hend.inRemark
  rw [List.foldlM_cons, hclose]
  obtain ⟨inner, flags, outer, names, brackets, inRemark, mode⟩ := r
  obtain ⟨houter, -, hremark⟩ := hend
  subst houter hbrackets hremark
  rfl

/-- Anywhere else the group stays open. -/
theorem result?_closing_of_not_atEnd {r : Reader} (hend : ¬r.AtEnd) :
    ([')', '$'].foldlM Reader.step (r.within opening)).bind Reader.result? = none := by
  have hsame : [')', '$'].foldlM Reader.step (r.within opening) =
      ([')', '$'].foldlM Reader.step r).map (within opening) := by
    refine (foldlM_within opening _).resolve_right ?_
    rintro ⟨a, b, r', hab, ha, hend'⟩
    cases a with
    | nil =>
      cases ha
      exact hend hend'
    | cons c a =>
      have hmem : ')' ∈ ['$'] := by
        rw [(List.cons.inj hab).2]
        exact List.mem_append_right a List.mem_cons_self
      revert hmem
      decide
  rw [hsame, Option.bind_map]
  exact Option.bind_eq_none_iff.2 fun r' _ => result?_within opening r'

/-- What the closing signs make of a source that has been read inside of the group. -/
theorem result?_closing {r : Reader} (hsound : r.Sound) :
    ([')', '$'].foldlM Reader.step (r.within opening)).bind Reader.result? =
      if r.inRemark then none else r.result?.map Term.anchored := by
  by_cases hend : r.AtEnd
  · have hbrackets := hsound.brackets_eq_nil hend
    rw [result?_closing_of_atEnd hend hbrackets, hend.inRemark, hend.result?_eq_some hbrackets]
    rfl
  · rw [result?_closing_of_not_atEnd hend]
    cases hremark : r.inRemark with
    | true => rfl
    | false =>
      cases hresult : r.result? with
      | none => rfl
      | some t => exact absurd (atEnd_of_result? hremark hresult) hend

/-- **A source between the signs is read as on its own**, unless it closes early. -/
theorem read?_anchored {source : List Char} (h : ¬ClosesEarly source) :
    Term.read? (anchored source) =
      if endsInRemark source then none else (Term.read? source).map Term.anchored := by
  have hsame : source.foldlM Reader.step (within opening {}) =
      (source.foldlM Reader.step ({} : Reader)).map (within opening) := by
    refine (foldlM_within opening source).resolve_right ?_
    rintro ⟨a, b, r, rfl, ha, hend⟩
    refine h ⟨a, b, rfl, ?_, ?_⟩
    · rw [endsInRemark, ha]
      exact hend.inRemark
    · rw [Term.read?, ha]
      show r.result?.isSome = true
      rw [hend.result?_eq_some ((sound_initial.foldlM ha).brackets_eq_nil hend)]
      rfl
  have hread : Term.read? (anchored source) =
      ((source.foldlM Reader.step ({} : Reader)).map (within opening)).bind fun r =>
        ([')', '$'].foldlM Reader.step r).bind Reader.result? := by
    unfold Term.read? anchored
    rw [List.foldlM_append, List.foldlM_append, foldlM_opening]
    show ((source.foldlM Reader.step (within opening {})).bind _).bind _ = _
    rw [hsame, Option.bind_assoc]
  rw [hread, endsInRemark, Term.read?]
  cases hown : source.foldlM Reader.step ({} : Reader) with
  | none => rfl
  | some r => exact result?_closing (sound_initial.foldlM hown)

end Pattern

/-! ## Which sources are patterns -/

theorem Pattern.compile?_eq_some_iff {s : String} {p : Pattern} :
    Pattern.compile? s = some p ↔ p.source = s := by
  unfold Pattern.compile?
  constructor
  · intro h
    split at h
    · cases h
      rfl
    · cases h
  · rintro rfl
    split
    · rename_i e he
      obtain rfl : e = p.expr := Option.some.inj (he.symm.trans p.read)
      rfl
    · rename_i hnone
      cases hnone.symm.trans p.read

/-- A source gives the pattern that has it. -/
theorem compilePattern_eq_ok_iff {s : String} {p : Pattern} :
    compilePattern s = .ok p ↔ p.source = s := by
  rw [← Pattern.compile?_eq_some_iff, compilePattern]
  cases Pattern.compile? s with
  | none =>
    constructor
    · intro h
      cases h
    · intro h
      cases h
  | some q => rw [Except.ok.injEq, Option.some.injEq]

theorem exists_compilePattern_iff (s : String) :
    (∃ p, compilePattern s = .ok p) ↔ (Pattern.read? s).isSome := by
  constructor
  · rintro ⟨p, hp⟩
    obtain rfl := compilePattern_eq_ok_iff.1 hp
    exact Option.isSome_iff_exists.2 ⟨_, p.read⟩
  · intro h
    obtain ⟨e, he⟩ := Option.isSome_iff_exists.1 h
    exact ⟨⟨s, e, he⟩, compilePattern_eq_ok_iff.2 rfl⟩

/-- A refusal names the source. -/
theorem eq_badPattern_of_compilePattern {s : String} {e : ConfigError}
    (h : compilePattern s = .error e) : e = .badPattern s := by
  unfold compilePattern at h
  split at h
  · cases h
  · cases h
    rfl

/-- The expression of a source that does not close early. -/
theorem Pattern.read?_eq_some_iff {s : String} {e : Expr} (h : ¬ClosesEarly s.toList) :
    Pattern.read? s = some e ↔ endsInRemark s.toList = false ∧
      ∃ t, Term.read? s.toList = some t ∧
        (t.anchored.height ≤ maxHeight ∧ t.anchored.expr.cost ≤ maxCost) ∧
        t.anchored.expr = e := by
  rw [Pattern.read?, read?_anchored h]
  cases endsInRemark s.toList with
  | true => simp
  | false =>
    cases Term.read? s.toList with
    | none => simp
    | some t => simp

/-- **Which sources are patterns.**  A refusal names the source.  A source that closes early is no
expression.  Any other source is a pattern if it does not end in a remark and is an expression
within the limits. -/
theorem compilePattern_exact (s : String) :
    (∀ e, compilePattern s = .error e → ∃ reason, e.fault = .invalidPattern s reason) ∧
    (Pattern.ClosesEarly s.toList → Term.read? s.toList = none) ∧
    (¬Pattern.ClosesEarly s.toList →
      ((∃ p, compilePattern s = .ok p) ↔
        Pattern.endsInRemark s.toList = false ∧ ∃ t, Term.read? s.toList = some t ∧
          t.anchored.height ≤ Pattern.maxHeight ∧ t.anchored.expr.cost ≤ Pattern.maxCost)) := by
  refine ⟨fun e he => ?_, Pattern.ClosesEarly.read?_eq_none, fun h => ?_⟩
  · rw [eq_badPattern_of_compilePattern he]
    exact ⟨_, rfl⟩
  · rw [exists_compilePattern_iff, Option.isSome_iff_exists]
    constructor
    · rintro ⟨e, he⟩
      obtain ⟨hremark, t, ht, hsmall, -⟩ := (Pattern.read?_eq_some_iff h).1 he
      exact ⟨hremark, t, ht, hsmall⟩
    · rintro ⟨hremark, t, ht, hsmall⟩
      exact ⟨_, (Pattern.read?_eq_some_iff h).2 ⟨hremark, t, ht, hsmall, rfl⟩⟩

/-- A source with unbalanced parentheses is a pattern, and an expression is none. -/
theorem compilePattern_unbalanced :
    (Term.read? "a)|(?:b".toList = none ∧ ∃ p, compilePattern "a)|(?:b" = .ok p) ∧
      (Term.read? "(?x)a#".toList).isSome ∧ ¬∃ p, compilePattern "(?x)a#" = .ok p := by
  simp only [exists_compilePattern_iff]
  decide +kernel

/-! ## What a pattern fits -/

/-- Between the tests for the start and the end, an expression has to span the whole text. -/
theorem Term.spans_anchored_iff {t : Term} {text : List Char} :
    (∃ i k, t.anchored.expr.Spans text i k) ↔ t.expr.Spans text 0 text.length := by
  constructor
  · rintro ⟨i, k, h⟩
    cases h with
    | cat hstart hrest =>
      cases hrest with
      | cat hspan hend =>
        cases hstart with
        | look _ hfirst =>
          cases hend with
          | look hk hlast =>
            have hlength : text.length ≤ k :=
              List.getElem?_eq_none_iff.1 (Option.isNone_iff_eq_none.1 hlast)
            have hzero : i = 0 := by
              cases i with
              | zero => rfl
              | succ i =>
                have hle : text.length ≤ i :=
                  List.getElem?_eq_none_iff.1 (Option.isNone_iff_eq_none.1 hfirst)
                have hspan := hspan.le
                omega
            rw [hzero, Nat.le_antisymm hk hlength] at hspan
            exact hspan
  · intro h
    exact ⟨0, text.length, .cat (.look (Nat.zero_le _) rfl)
      (.cat h (.look (Nat.le_refl _) (by simp [Look.holds])))⟩

/-- **A pattern fits whole texts only.**  If the source is an expression by itself, the pattern
fits a text exactly if that expression spans it from its start to its end. -/
theorem fits_iff_spans {s : String} {t : Term} {p : Pattern} (ht : Term.read? s.toList = some t)
    (hp : compilePattern s = .ok p) (text : String) :
    p.fits text = true ↔ t.expr.Spans text.toList 0 text.toList.length := by
  obtain rfl := compilePattern_eq_ok_iff.1 hp
  have hopen : ¬Pattern.ClosesEarly p.source.toList := by
    intro hcloses
    rw [hcloses.read?_eq_none] at ht
    cases ht
  have hexpr : t.anchored.expr = p.expr := by
    obtain ⟨-, u, hu, -, hexpr⟩ := (Pattern.read?_eq_some_iff hopen).1 p.read
    obtain rfl := Option.some.inj (ht.symm.trans hu)
    exact hexpr
  have hordered : p.expr.Ordered := by
    rw [← hexpr]
    exact ⟨trivial, Term.ordered_of_read? ht, trivial⟩
  rw [Pattern.fits, Expr.fits_iff hordered, ← hexpr, Term.spans_anchored_iff]

theorem fits_iff_spans_lazyAlternative :
    ∃ t p, Term.read? "(?m)a|^ab*?$".toList = some t ∧ compilePattern "(?m)a|^ab*?$" = .ok p ∧
      (p.fits "abb" = true ↔ t.expr.Spans ['a', 'b', 'b'] 0 3) := by
  have hread : (Term.read? "(?m)a|^ab*?$".toList).isSome := by decide +kernel
  have hcompile : (Pattern.read? "(?m)a|^ab*?$").isSome := by decide +kernel
  obtain ⟨t, ht⟩ := Option.isSome_iff_exists.1 hread
  obtain ⟨p, hp⟩ := (exists_compilePattern_iff _).2 hcompile
  exact ⟨t, p, ht, hp, fits_iff_spans ht hp "abb"⟩

end RpkiOverlap
