import Mathlib.Data.List.Basic
import RpkiOverlap.Pattern.Basic

/-! # What holds while a pattern is read

Two facts hold of a pattern from its first character to its last, and of every part of it that has
been read.

* In every repetition, the least number is not above the greatest one (`Expr.Ordered`).
* A bracket is open only in the modes that belong to brackets (`Mode.isOutside`).

A reader of which both hold is *sound*.  Each of the functions that read a character leads from a
sound reader to sound ones (`Reader.Keeps`), and so does a step (`Sound.step`) and a whole text
(`Sound.foldlM`).
-/
namespace RpkiOverlap
open Unicode (CharSet)

/-! ## Repetitions -/

/-- In every repetition, the least number is not above the greatest one. -/
def Expr.Ordered : Expr → Prop
  | empty | set _ | look _ => True
  | cat a b | alt a b => a.Ordered ∧ b.Ordered
  | rep e min max => e.Ordered ∧ ∀ m ∈ max, min ≤ m

namespace Term

theorem ordered_catExprs {ts : List Term} (h : ∀ t ∈ ts, t.expr.Ordered) :
    (catExprs ts).Ordered := by
  induction ts with
  | nil => trivial
  | cons t ts ih =>
    obtain ⟨ht, hts⟩ := List.forall_mem_cons.1 h
    cases ts with
    | nil => exact ht
    | cons u us => exact ⟨ht, ih hts⟩

theorem ordered_altExprs {ts : List Term} (h : ∀ t ∈ ts, t.expr.Ordered) :
    (altExprs ts).Ordered := by
  induction ts with
  | nil => trivial
  | cons t ts ih =>
    obtain ⟨ht, hts⟩ := List.forall_mem_cons.1 h
    cases ts with
    | nil => exact ht
    | cons u us => exact ⟨ht, ih hts⟩

end Term

namespace Branches

/-- All that has been read inside of a group is ordered. -/
def Ordered (b : Branches) : Prop := ∀ t ∈ b.items ++ b.complete, t.expr.Ordered

theorem Ordered.push {b : Branches} {t : Term} (hb : b.Ordered) (ht : t.expr.Ordered) :
    (b.push t).Ordered := by
  intro u hu
  rcases List.mem_cons.1 hu with rfl | hu
  · exact ht
  · exact hb u hu

theorem Ordered.tail {b : Branches} (hb : b.Ordered) :
    ({ b with items := b.items.tail } : Branches).Ordered := by
  intro u hu
  rcases List.mem_append.1 hu with hu | hu
  · exact hb u (List.mem_append_left _ (List.mem_of_mem_tail hu))
  · exact hb u (List.mem_append_right _ hu)

theorem Ordered.begin {b : Branches} (hb : b.Ordered) : b.begin.Ordered := by
  intro u hu
  rcases List.mem_cons.1 hu with rfl | hu
  · refine Term.ordered_catExprs fun t ht => hb t ?_
    exact List.mem_append_left _ (List.mem_reverse.1 ht)
  · exact hb u (List.mem_append_right _ hu)

theorem Ordered.term {b : Branches} (hb : b.Ordered) : b.term.expr.Ordered := by
  refine Term.ordered_altExprs fun t ht => hb.begin t ?_
  exact List.mem_append_right _ (List.mem_reverse.1 ht)

theorem Ordered.repeat {b b' : Branches} {min : Nat} {max : Option Nat} (hb : b.Ordered)
    (hle : ∀ m ∈ max, min ≤ m) (h : b.repeat? min max = some b') : b'.Ordered := by
  unfold repeat? at h
  split at h
  · rename_i t ts hitems
    have hb : ∀ u ∈ t :: ts ++ b.complete, u.expr.Ordered := hitems ▸ hb
    rw [Option.ite_none_right_eq_some, Option.some.injEq] at h
    obtain ⟨-, rfl⟩ := h
    intro u hu
    rcases List.mem_cons.1 hu with rfl | hu
    · exact ⟨hb t List.mem_cons_self, hle⟩
    · exact hb u (List.mem_cons_of_mem _ hu)
  · cases h

end Branches

/-! ## Sound readers -/

/-- Whether a mode belongs to no bracket. -/
def Mode.isOutside : Mode → Bool
  | .item | .repeated | .counted | .boundary | .boundaryBrace | .boundaryName _ => true
  | .countMin _ | .countMax .. | .group | .groupMark | .groupP | .groupName _ | .flags .. => true
  | .escape p | .code p _ | .codeDigits p .. | .codeBrace p _ => p = .item
  | .property p _ | .propertyName p .. => p = .item
  | _ => false

namespace Reader

/-- All that has been read is ordered. -/
structure Ordered (r : Reader) : Prop where
  inner : r.inner.Ordered
  outer : ∀ o ∈ r.outer, o.1.Ordered

/-- All that has been read is ordered, and no bracket is open outside of brackets. -/
structure Sound (r : Reader) : Prop where
  ordered : r.Ordered
  outside : r.mode.isOutside = true → r.brackets = []

/-- A sound reader, if there is one. -/
def Keeps (o : Option Reader) : Prop := ∀ r ∈ o, r.Sound

theorem keeps_none : Keeps none := fun _ h => nomatch h

theorem keeps_some {r : Reader} (h : r.Sound) : Keeps (some r) := by
  intro r' hr'
  obtain rfl := Option.some.inj hr'
  exact h

theorem keeps_map {α : Type} {o : Option α} {f : α → Reader} (h : ∀ a ∈ o, (f a).Sound) :
    Keeps (o.map f) := by
  intro r hr
  obtain ⟨a, ha, rfl⟩ := Option.map_eq_some_iff.1 hr
  exact h a ha

theorem keeps_bind {α : Type} {o : Option α} {f : α → Option Reader} (h : ∀ a ∈ o, Keeps (f a)) :
    Keeps (o.bind f) := by
  intro r hr
  obtain ⟨a, ha, har⟩ := Option.bind_eq_some_iff.1 hr
  exact h a ha r har

section
variable {r : Reader}

/-! ### Items and groups -/

theorem Ordered.into (h : r.Ordered) {m : Mode} (hb : m.isOutside = true → r.brackets = []) :
    (r.into m).Sound :=
  ⟨⟨h.inner, h.outer⟩, hb⟩

/-- Where no bracket is open, every mode is allowed. -/
theorem Ordered.intoAny (h : r.Ordered) (hb : r.brackets = []) (m : Mode) : (r.into m).Sound :=
  h.into fun _ => hb

/-- A mode of brackets is always allowed. -/
theorem Ordered.intoInside (h : r.Ordered) {m : Mode} (hm : m.isOutside = false) :
    (r.into m).Sound :=
  h.into fun htrue => Bool.noConfusion (hm.symm.trans htrue)

/-- A mode of an escape is allowed where the escape is. -/
theorem Ordered.intoPlace (h : r.Ordered) {p : Place} (hb : p = .item → r.brackets = []) {m : Mode}
    (hm : m.isOutside = decide (p = .item)) : (r.into m).Sound :=
  h.into fun htrue => hb (of_decide_eq_true (hm.symm.trans htrue))

theorem Ordered.openBracket (h : r.Ordered) : r.openBracket.Sound :=
  ⟨⟨h.inner, h.outer⟩, fun hm => nomatch hm⟩

theorem Ordered.push (h : r.Ordered) (hb : r.brackets = []) {t : Term} (ht : t.expr.Ordered) :
    (r.push t).Sound :=
  ⟨⟨h.inner.push ht, h.outer⟩, fun _ => hb⟩

theorem Ordered.openGroup (h : r.Ordered) (hb : r.brackets = []) (f : Flags) :
    (r.openGroup f).Sound := by
  refine ⟨⟨fun t ht => absurd ht List.not_mem_nil, fun o ho => ?_⟩, fun _ => hb⟩
  rcases List.mem_cons.1 ho with rfl | ho
  · exact h.inner
  · exact h.outer o ho

theorem Ordered.closeGroup (h : r.Ordered) (hb : r.brackets = []) : Keeps r.closeGroup? := by
  unfold closeGroup?
  split
  · exact keeps_none
  · rename_i outside flags outer houter
    have houtside : outside.Ordered := h.outer (outside, flags) (houter ▸ List.mem_cons_self)
    refine keeps_some ⟨⟨houtside.push h.inner.term, fun o ho => ?_⟩, fun _ => hb⟩
    exact h.outer o (houter ▸ List.mem_cons_of_mem _ ho)

theorem Ordered.repeat (h : r.Ordered) (hb : r.brackets = []) {min : Nat} {max : Option Nat}
    (hle : ∀ m ∈ max, min ≤ m) (mode : Mode) : Keeps (r.repeat? min max mode) :=
  keeps_map fun _ ha => ⟨⟨h.inner.repeat hle ha, h.outer⟩, fun _ => hb⟩

theorem ordered_dot {f : Flags} {e : Expr} (h : f.dot? = some e) : e.Ordered := by
  unfold Flags.dot? at h
  split at h
  · cases h
  · split at h
    · cases h
      trivial
    · split at h <;> cases h <;> trivial

theorem Ordered.onItem (h : r.Ordered) (hb : r.brackets = []) (c : Char) :
    Keeps (r.onItem? c) := by
  unfold onItem?
  split
  · exact keeps_some (h.intoAny hb _)
  · exact h.closeGroup hb
  · exact keeps_some ⟨⟨h.inner.begin, h.outer⟩, fun _ => hb⟩
  · exact keeps_some h.openBracket
  · exact h.repeat hb (by simp) _
  · exact h.repeat hb (by simp) _
  · exact h.repeat hb (by simp) _
  · split
    · exact keeps_some (h.intoAny hb _)
    · exact keeps_none
  · exact keeps_some (h.intoAny hb _)
  · exact keeps_map fun e he => h.push hb (ordered_dot he)
  · exact keeps_some (h.push hb trivial)
  · exact keeps_some (h.push hb trivial)
  · exact keeps_some (h.push hb trivial)

/-! ### Numbers of repetitions -/

theorem Ordered.onCountMin (h : r.Ordered) (hb : r.brackets = []) (n : Amount) (c : Char) :
    Keeps (r.onCountMin? n c) := by
  unfold onCountMin?
  split
  · exact keeps_map fun n _ => h.intoAny hb _
  · split
    · exact keeps_some (h.intoAny hb _)
    · split
      · exact keeps_map fun min _ => h.intoAny hb _
      · split
        · exact keeps_bind fun min _ => h.repeat hb (by simp) _
        · exact keeps_none

theorem Ordered.onCountMax (h : r.Ordered) (hb : r.brackets = []) (min : Nat) (n : Amount)
    (c : Char) : Keeps (r.onCountMax? min n c) := by
  unfold onCountMax?
  split
  · exact keeps_map fun n _ => h.intoAny hb _
  · split
    · exact keeps_some (h.intoAny hb _)
    · split
      · exact keeps_none
      · split
        · split
          · exact keeps_none
          · exact h.repeat hb (by simp) _
        · refine keeps_bind fun max _ => ?_
          -- the only place where two different numbers meet
          split
          · rename_i hle
            exact h.repeat hb (by simpa using hle) _
          · exact keeps_none

/-! ### Names and flags of groups -/

theorem Ordered.onGroupName (h : r.Ordered) (hb : r.brackets = []) (name : List Char) (c : Char) :
    Keeps (r.onGroupName? name c) := by
  unfold onGroupName?
  split
  · split
    · exact keeps_none
    · have hnamed : ({ r with names := name :: r.names } : Reader).Ordered := ⟨h.inner, h.outer⟩
      exact keeps_some (hnamed.openGroup hb _)
  · split
    · exact keeps_some (h.intoAny hb _)
    · exact keeps_none

theorem Ordered.onFlags (h : r.Ordered) (hb : r.brackets = []) (seen : List Char) (on : Bool)
    (flags : Flags) (c : Char) : Keeps (r.onFlags? seen on flags c) := by
  unfold onFlags?
  split
  · split
    · exact keeps_none
    · exact keeps_some (h.openGroup hb _)
  · split
    · split
      · exact keeps_none
      · have hset : ({ r with flags } : Reader).Ordered := ⟨h.inner, h.outer⟩
        exact keeps_some (hset.push hb trivial)
    · split
      · exact keeps_none
      · split
        · exact keeps_some (h.intoAny hb _)
        · exact keeps_map fun flags _ => h.intoAny hb _

theorem Ordered.onGroupMark (h : r.Ordered) (hb : r.brackets = []) (c : Char) :
    Keeps (r.onGroupMark? c) := by
  unfold onGroupMark?
  split
  · exact keeps_some (h.intoAny hb _)
  · exact keeps_some (h.intoAny hb _)
  · exact h.onFlags hb _ _ _ _

theorem Ordered.onGroup (h : r.Ordered) (hb : r.brackets = []) (c : Char) :
    Keeps (r.onGroup? c) := by
  unfold onGroup?
  split
  · exact keeps_some (h.intoAny hb _)
  · exact (h.openGroup hb _).ordered.onItem hb c

/-! ### Members of brackets -/

theorem Ordered.inBracket (h : r.Ordered) (change : Bracket → Bracket) :
    Keeps (r.inBracket? change) := by
  unfold inBracket?
  split
  · exact keeps_none
  · exact keeps_some ⟨⟨h.inner, h.outer⟩, fun hm => nomatch hm⟩

theorem Ordered.addMember (h : r.Ordered) (m : Member) : Keeps (r.addMember? m) := by
  unfold addMember?
  split
  · split
    · exact h.inBracket _
    · exact keeps_none
  · exact h.inBracket _

theorem Ordered.addRange (h : r.Ordered) (first last : Char) : Keeps (r.addRange? first last) := by
  unfold addRange?
  split
  · exact h.inBracket _
  · exact keeps_none

theorem Ordered.closeBracket (h : r.Ordered) : Keeps r.closeBracket? := by
  unfold closeBracket?
  split
  · exact keeps_none
  · refine keeps_map fun s _ => ?_
    have hclosed : ({ r with brackets := [] } : Reader).Ordered := ⟨h.inner, h.outer⟩
    exact hclosed.push rfl trivial
  · exact keeps_map fun s _ => ⟨⟨h.inner, h.outer⟩, fun hm => nomatch hm⟩

theorem Ordered.onMember (h : r.Ordered) (c : Char) : Keeps (r.onMember? c) := by
  unfold onMember?
  split
  · exact keeps_some h.openBracket
  · exact h.closeBracket
  · exact keeps_some (h.intoInside rfl)
  · split
    · exact keeps_some (h.intoInside rfl)
    · exact keeps_some (h.intoInside rfl)

theorem Ordered.onAfterMember (h : r.Ordered) (m : Member) (c : Char) :
    Keeps (r.onAfterMember? m c) := by
  unfold onAfterMember?
  split
  · exact keeps_some (h.intoInside rfl)
  · exact keeps_bind fun r' hr' => (h.addMember m r' hr').ordered.onMember c

theorem Ordered.onRangeEnd (h : r.Ordered) (first c : Char) : Keeps (r.onRangeEnd? first c) := by
  unfold onRangeEnd?
  split
  · exact keeps_some (h.intoInside rfl)
  · exact h.addRange _ _

theorem Ordered.decideHyphen (h : r.Ordered) (m : Member) (c : Char) :
    Keeps (r.decideHyphen? m c) := by
  unfold decideHyphen?
  split
  · exact keeps_map fun r' hr' => (h.addMember m r' hr').ordered.intoInside rfl
  · split
    · exact keeps_some (h.intoInside rfl)
    · exact keeps_none

theorem Ordered.onDecided (h : r.Ordered) (c : Char) : Keeps (r.onDecided? c) := by
  unfold onDecided?
  split
  · exact h.onAfterMember _ _
  · exact h.onRangeEnd _ _
  · exact keeps_none

theorem Ordered.onAfterHyphen (h : r.Ordered) (m : Member) (c : Char) :
    Keeps (r.onAfterHyphen? m c) :=
  keeps_bind fun r' hr' => (h.decideHyphen m c r' hr').ordered.onDecided c

theorem Ordered.onAfterHyphenRemark (h : r.Ordered) (m : Member) (inside : Bool) (c : Char) :
    Keeps (r.onAfterHyphenRemark? m inside c) := by
  unfold onAfterHyphenRemark?
  split
  · exact keeps_some (h.intoInside rfl)
  · refine keeps_bind fun r' hr' => ?_
    have hdecided := h.decideHyphen m c r' hr'
    split
    · exact keeps_some ⟨⟨hdecided.ordered.inner, hdecided.ordered.outer⟩, hdecided.outside⟩
    · exact hdecided.ordered.onDecided c

theorem Ordered.onOperator (h : r.Ordered) (c : Char) : Keeps (r.onOperator? c) :=
  keeps_bind fun _ _ => h.inBracket _

theorem Ordered.onBracketStart (h : r.Ordered) (c : Char) : Keeps (r.onBracketStart? c) := by
  unfold onBracketStart?
  dsimp only
  split
  · exact keeps_map fun r' hr' => (h.addMember _ r' hr').ordered.intoInside rfl
  · split
    · exact h.addMember _
    · exact h.onMember c

theorem Ordered.onBracket (h : r.Ordered) (c : Char) : Keeps (r.onBracket? c) := by
  unfold onBracket?
  split
  · exact keeps_map fun r' hr' => (h.inBracket _ r' hr').ordered.intoInside rfl
  · exact h.onBracketStart c

/-! ### Escapes -/

section
variable {p : Place}

theorem Ordered.putChar (h : r.Ordered) (hb : p = .item → r.brackets = []) (c : Char) :
    Keeps (r.putChar? p c) := by
  cases p with
  | item => exact keeps_some (h.push (hb rfl) trivial)
  | member => exact keeps_some (h.intoInside rfl)
  | rangeEnd first => exact h.addRange _ _

theorem Ordered.putSet (h : r.Ordered) (hb : p = .item → r.brackets = []) (s : CharSet) :
    Keeps (r.putSet? p s) := by
  cases p with
  | item => exact keeps_some (h.push (hb rfl) trivial)
  | member => exact keeps_some (h.intoInside rfl)
  | rangeEnd first => exact keeps_none

theorem Ordered.putLook (h : r.Ordered) (hb : p = .item → r.brackets = []) (l : Look)
    (mode : Mode) : Keeps (r.putLook? p l mode) := by
  cases p with
  | item =>
    have hpush : (r.push ⟨.look l, 0, true⟩).Sound := h.push (hb rfl) trivial
    exact keeps_some (hpush.ordered.intoAny (hb rfl) _)
  | member => exact keeps_none
  | rangeEnd first => exact keeps_none

theorem Ordered.putCode (h : r.Ordered) (hb : p = .item → r.brackets = []) (byte : Bool)
    (code : Nat) : Keeps (r.putCode? p byte code) := by
  unfold putCode?
  split
  · exact h.putChar hb _
  · exact keeps_none

theorem Ordered.onEscape (h : r.Ordered) (hb : p = .item → r.brackets = []) (c : Char) :
    Keeps (r.onEscape? p c) := by
  unfold onEscape?
  -- the meanings of the letter in the order in which they are tried
  cases codeLength? c with
  | some digits => exact keeps_some (h.intoPlace hb rfl)
  | none =>
    cases controlChar? c with
    | some control => exact h.putChar hb _
    | none =>
      cases look? r.flags c with
      | some look => exact h.putLook hb _ _
      | none =>
        cases r.flags.letterSet? c.toLower with
        | some s => exact keeps_bind fun s _ => h.putSet hb s
        | none =>
          dsimp only
          split
          · exact keeps_some (h.intoPlace hb rfl)
          · split
            · exact h.putChar hb c
            · exact keeps_none

theorem Ordered.onCodeDigit (h : r.Ordered) (hb : p = .item → r.brackets = []) (byte : Bool)
    (left value : Nat) (c : Char) : Keeps (r.onCodeDigit? p byte left value c) := by
  refine keeps_bind fun d _ => ?_
  split
  · exact h.putCode hb _ _
  · exact keeps_some (h.intoPlace hb rfl)

theorem Ordered.onCode (h : r.Ordered) (hb : p = .item → r.brackets = []) (digits : Nat)
    (c : Char) : Keeps (r.onCode? p digits c) := by
  unfold onCode?
  split
  · exact keeps_some (h.intoPlace hb rfl)
  · exact h.onCodeDigit hb _ _ _ _

theorem Ordered.onCodeBrace (h : r.Ordered) (hb : p = .item → r.brackets = [])
    (value : Option Nat) (c : Char) : Keeps (r.onCodeBrace? p value c) := by
  unfold onCodeBrace?
  split
  · exact keeps_bind fun code _ => h.putCode hb _ _
  · exact keeps_map fun d _ => h.intoPlace hb rfl

theorem Ordered.putNamed (h : r.Ordered) (hb : p = .item → r.brackets = []) (negated : Bool)
    (name : List Char) : Keeps (r.putNamed? p negated name) :=
  keeps_bind fun s _ => h.putSet hb s

theorem Ordered.onProperty (h : r.Ordered) (hb : p = .item → r.brackets = []) (negated : Bool)
    (c : Char) : Keeps (r.onProperty? p negated c) := by
  unfold onProperty?
  split
  · exact keeps_some (h.intoPlace hb rfl)
  · split
    · exact keeps_none
    · exact h.putNamed hb _ _

theorem Ordered.onPropertyName (h : r.Ordered) (hb : p = .item → r.brackets = [])
    (negated : Bool) (name : List Char) (c : Char) :
    Keeps (r.onPropertyName? p negated name c) := by
  unfold onPropertyName?
  split
  · exact h.putNamed hb _ _
  · exact keeps_some (h.intoPlace hb rfl)

end

/-! ### Word boundaries with names -/

theorem Ordered.onBoundaryBrace (h : r.Ordered) (hb : r.brackets = []) (c : Char) :
    Keeps (r.onBoundaryBrace? c) := by
  unfold onBoundaryBrace?
  split
  · exact keeps_some (h.intoAny hb _)
  · exact h.onCountMin hb _ _

theorem Ordered.onBoundaryName (h : r.Ordered) (hb : r.brackets = []) (name : List Char)
    (c : Char) : Keeps (r.onBoundaryName? name c) := by
  unfold onBoundaryName?
  split
  · exact keeps_some (h.intoAny hb _)
  · split
    · refine keeps_map fun e _ => ?_
      have htail : ({ r with inner := { r.inner with items := r.inner.items.tail } } :
          Reader).Ordered := ⟨h.inner.tail, h.outer⟩
      exact htail.push hb trivial
    · exact keeps_none

/-! ### Steps -/

theorem Sound.onAwaited (h : r.Sound) {c : Char} (hc : r.mode.awaited? = some c) :
    Keeps (r.onAwaited? c) := by
  unfold onAwaited?
  cases hmode : r.mode with
  | boundary => exact keeps_some (h.ordered.intoAny (h.outside (hmode ▸ rfl)) _)
  | operator c => exact h.ordered.onOperator _
  | afterHyphen m =>
    exact keeps_bind fun r' hr' => (h.ordered.addMember m r' hr').ordered.onOperator _
  | repeated => exact keeps_some (h.ordered.intoAny (h.outside (hmode ▸ rfl)) _)
  | _ =>
    rw [hmode] at hc
    cases hc

/-- Reads a character in a mode that does not wait for another one. -/
theorem Sound.onOther (h : r.Sound) (hsettled : r.mode.settled = r.mode) (c : Char) :
    Keeps (r.onOther? c) := by
  -- what a mode says of brackets, for the modes with and without a place for an escape
  have hout : ∀ {m : Mode}, r.mode = m → m.isOutside = true → r.brackets = [] :=
    fun hm ho => h.outside (hm ▸ ho)
  have hplace : ∀ {m : Mode} {p : Place}, r.mode = m → m.isOutside = decide (p = .item) →
      p = .item → r.brackets = [] :=
    fun hm ho hp => hout hm (ho.trans (decide_eq_true hp))
  unfold onOther?
  cases hmode : r.mode with
  | item => exact h.ordered.onItem (hout hmode rfl) c
  | counted =>
    dsimp only
    split
    · exact keeps_some (h.ordered.intoAny (hout hmode rfl) _)
    · exact h.ordered.onItem (hout hmode rfl) c
  | boundaryBrace => exact h.ordered.onBoundaryBrace (hout hmode rfl) c
  | boundaryName name => exact h.ordered.onBoundaryName (hout hmode rfl) name c
  | countMin n => exact h.ordered.onCountMin (hout hmode rfl) n c
  | countMax min n => exact h.ordered.onCountMax (hout hmode rfl) min n c
  | group => exact h.ordered.onGroup (hout hmode rfl) c
  | groupMark => exact h.ordered.onGroupMark (hout hmode rfl) c
  | groupP =>
    dsimp only
    split
    · exact keeps_some (h.ordered.intoAny (hout hmode rfl) _)
    · exact keeps_none
  | groupName name => exact h.ordered.onGroupName (hout hmode rfl) name c
  | flags seen on flags => exact h.ordered.onFlags (hout hmode rfl) seen on flags c
  | escape p => exact h.ordered.onEscape (hplace hmode rfl) c
  | code p digits => exact h.ordered.onCode (hplace hmode rfl) digits c
  | codeDigits p byte left value =>
    exact h.ordered.onCodeDigit (hplace hmode rfl) byte left value c
  | codeBrace p value => exact h.ordered.onCodeBrace (hplace hmode rfl) value c
  | property p negated => exact h.ordered.onProperty (hplace hmode rfl) negated c
  | propertyName p negated name =>
    exact h.ordered.onPropertyName (hplace hmode rfl) negated name c
  | bracket => exact h.ordered.onBracket c
  | bracketStart => exact h.ordered.onBracketStart c
  | member => exact h.ordered.onMember c
  | afterMember m => exact h.ordered.onAfterMember m c
  | afterHyphenBlank m => exact h.ordered.onAfterHyphen m c
  | afterHyphenRemark m inside => exact h.ordered.onAfterHyphenRemark m inside c
  | rangeEnd first => exact h.ordered.onRangeEnd first c
  -- these modes have been settled before
  | repeated | boundary | operator _ | afterHyphen _ =>
    rw [hmode] at hsettled
    cases hsettled

theorem Sound.beginRemark (h : r.Sound) : r.beginRemark.Sound := by
  unfold Reader.beginRemark
  split
  · exact h.ordered.intoInside rfl
  · exact ⟨⟨h.ordered.inner, h.ordered.outer⟩, h.outside⟩

theorem Sound.note (h : r.Sound) (c : Char) : (r.note c).Sound := by
  unfold Reader.note
  split
  · exact h
  · rename_i b outer hbrackets
    refine ⟨⟨h.ordered.inner, h.ordered.outer⟩, fun hm => ?_⟩
    cases hbrackets.symm.trans (h.outside hm)

end
end Reader

theorem Mode.settled_settled (m : Mode) : m.settled.settled = m.settled := by
  cases m <;> rfl

/-- Settling does not lead out of a bracket. -/
theorem Mode.isOutside_of_settled {m : Mode} (h : m.settled.isOutside = true) :
    m.isOutside = true := by
  cases m with
  | operator c => cases h
  | afterHyphen m => cases h
  | repeated | boundary => rfl
  | _ => exact h

namespace Reader
variable {r r' : Reader}

theorem Sound.read (h : r.Sound) (c : Char) : Keeps (r.read? c) := by
  unfold read?
  split
  · rename_i hc
    exact h.onAwaited hc
  · have hsound : (r.into r.mode.settled).Sound :=
      h.ordered.into fun hm => h.outside (Mode.isOutside_of_settled hm)
    have hother := hsound.onOther (Mode.settled_settled r.mode) c
    dsimp only
    split
    · split
      · exact keeps_some hsound
      · split
        · exact keeps_some hsound.beginRemark
        · exact hother
    · exact hother

/-- **A step keeps a reader sound.** -/
theorem Sound.step (h : r.Sound) {c : Char} (hstep : r.step c = some r') : r'.Sound := by
  unfold Reader.step at hstep
  dsimp only at hstep
  split at hstep
  · cases hstep
    have hnote := h.note c
    exact ⟨⟨hnote.ordered.inner, hnote.ordered.outer⟩, hnote.outside⟩
  · exact (h.note c).read c r' hstep

/-- **Every text keeps a reader sound.** -/
theorem Sound.foldlM {cs : List Char} (h : r.Sound) (hread : cs.foldlM Reader.step r = some r') :
    r'.Sound := by
  induction cs generalizing r with
  | nil =>
    obtain rfl := Option.some.inj hread
    exact h
  | cons c cs ih =>
    obtain ⟨r₁, hstep, hrest⟩ := Option.bind_eq_some_iff.1 hread
    exact ih (h.step hstep) hrest

theorem sound_initial : ({} : Reader).Sound :=
  ⟨⟨fun _ ht => absurd ht List.not_mem_nil, fun _ ho => absurd ho List.not_mem_nil⟩, fun _ => rfl⟩

end Reader

/-- In a pattern that has been read, no repetition asks for more than it allows. -/
theorem Term.ordered_of_read? {source : List Char} {t : Term} (h : Term.read? source = some t) :
    t.expr.Ordered := by
  obtain ⟨r, hread, hresult⟩ := Option.bind_eq_some_iff.1 h
  have hsound := Reader.sound_initial.foldlM hread
  obtain ⟨-, hterm⟩ := Option.ite_none_right_eq_some.1 hresult
  obtain rfl := Option.some.inj hterm
  exact hsound.ordered.inner.term

end RpkiOverlap
