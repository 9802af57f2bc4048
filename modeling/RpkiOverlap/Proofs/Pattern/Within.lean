import Mathlib.Data.Option.Basic
import RpkiOverlap.Proofs.Pattern.Sound

/-! # Reading inside of a group

Reading a text inside of one more group (`Reader.within`) is the same as reading it on its own: no
function that reads a character looks at the groups outside of the innermost one.  The exception is
a closing parenthesis after a text that is complete on its own.  There the text on its own is at
fault, while inside of a group the parenthesis closes the group.

So either both readings agree on a text, or the text has such a parenthesis (`foldlM_within`).
-/
namespace RpkiOverlap
open Unicode (CharSet)

namespace Reader

/-- The same reader inside of one more group, with what has been read outside of it. -/
def within (frame : Branches × Flags) (r : Reader) : Reader :=
  { r with outer := r.outer ++ [frame] }

section
variable (frame : Branches × Flags) (r : Reader)

@[simp] theorem flags_within : (r.within frame).flags = r.flags := rfl

@[simp] theorem brackets_within : (r.within frame).brackets = r.brackets := rfl

@[simp] theorem inRemark_within : (r.within frame).inRemark = r.inRemark := rfl

@[simp] theorem mode_within : (r.within frame).mode = r.mode := rfl

@[simp] theorem into_within (mode : Mode) :
    (r.within frame).into mode = (r.into mode).within frame := rfl

@[simp] theorem push_within (t : Term) : (r.within frame).push t = (r.push t).within frame := rfl

@[simp] theorem openGroup_within (flags : Flags) :
    (r.within frame).openGroup flags = (r.openGroup flags).within frame := rfl

@[simp] theorem openBracket_within :
    (r.within frame).openBracket = r.openBracket.within frame := rfl

@[simp] theorem canRepeat_within : (r.within frame).canRepeat = r.canRepeat := rfl

/-! ### Items and groups -/

@[simp] theorem repeat?_within (min : Nat) (max : Option Nat) (mode : Mode) :
    (r.within frame).repeat? min max mode = (r.repeat? min max mode).map (within frame) := by
  simp [Reader.repeat?, Function.comp_def, within]

/-- An inner group is closed as it is on its own. -/
theorem closeGroup?_within (h : r.outer ≠ []) :
    (r.within frame).closeGroup? = r.closeGroup?.map (within frame) := by
  cases houter : r.outer with
  | nil => exact absurd houter h
  | cons o outer => simp [closeGroup?, houter, within]

theorem onItem?_within {c : Char} (h : r.outer = [] → c ≠ ')') :
    (r.within frame).onItem? c = (r.onItem? c).map (within frame) := by
  unfold onItem?
  split
  · rfl
  -- the closing parenthesis is the only character that looks outside of the innermost group
  · exact closeGroup?_within frame r fun houter => h houter rfl
  · rfl
  · rfl
  · exact repeat?_within ..
  · exact repeat?_within ..
  · exact repeat?_within ..
  · rw [canRepeat_within, apply_ite (Option.map _)]
    rfl
  · rfl
  · simp [Function.comp_def]
  · rfl
  · rfl
  · rfl

/-! ### Numbers of repetitions -/

@[simp] theorem onCountMin?_within (n : Amount) (c : Char) :
    (r.within frame).onCountMin? n c = (r.onCountMin? n c).map (within frame) := by
  unfold onCountMin?
  split <;> simp [apply_ite (Option.map _), Function.comp_def, Option.map_bind]

@[simp] theorem onCountMax?_within (min : Nat) (n : Amount) (c : Char) :
    (r.within frame).onCountMax? min n c = (r.onCountMax? min n c).map (within frame) := by
  unfold onCountMax?
  split <;> simp [apply_ite (Option.map _), Function.comp_def, Option.map_bind]

/-! ### Names and flags of groups -/

@[simp] theorem onGroupName?_within (name : List Char) (c : Char) :
    (r.within frame).onGroupName? name c = (r.onGroupName? name c).map (within frame) := by
  simp [onGroupName?, apply_ite (Option.map _)]
  rfl

@[simp] theorem onFlags?_within (seen : List Char) (on : Bool) (flags : Flags) (c : Char) :
    (r.within frame).onFlags? seen on flags c =
      (r.onFlags? seen on flags c).map (within frame) := by
  simp [onFlags?, apply_ite (Option.map _), Function.comp_def]
  rfl

@[simp] theorem onGroupMark?_within (c : Char) :
    (r.within frame).onGroupMark? c = (r.onGroupMark? c).map (within frame) := by
  unfold onGroupMark?
  split <;> simp

@[simp] theorem onGroup?_within (c : Char) :
    (r.within frame).onGroup? c = (r.onGroup? c).map (within frame) := by
  -- the group that has just been opened can be closed again at once
  have hopen : (r.openGroup r.flags).outer ≠ [] := List.cons_ne_nil _ _
  simp [onGroup?, apply_ite (Option.map _), onItem?_within frame _ fun hnil => absurd hnil hopen]

/-! ### Members of brackets -/

@[simp] theorem inBracket?_within (change : Bracket → Bracket) :
    (r.within frame).inBracket? change = (r.inBracket? change).map (within frame) := by
  cases h : r.brackets <;> simp [inBracket?, h, within]

@[simp] theorem addMember?_within (m : Member) :
    (r.within frame).addMember? m = (r.addMember? m).map (within frame) := by
  cases m <;> simp [addMember?, apply_ite (Option.map _)]

@[simp] theorem addRange?_within (first last : Char) :
    (r.within frame).addRange? first last = (r.addRange? first last).map (within frame) := by
  simp [addRange?, apply_ite (Option.map _)]

@[simp] theorem closeBracket?_within :
    (r.within frame).closeBracket? = r.closeBracket?.map (within frame) := by
  unfold closeBracket?
  rw [brackets_within]
  split <;> simp [Function.comp_def, within, push]

@[simp] theorem onMember?_within (c : Char) :
    (r.within frame).onMember? c = (r.onMember? c).map (within frame) := by
  unfold onMember?
  split <;> simp [apply_ite (Option.map _)]

@[simp] theorem onAfterMember?_within (m : Member) (c : Char) :
    (r.within frame).onAfterMember? m c = (r.onAfterMember? m c).map (within frame) := by
  simp [onAfterMember?, apply_ite (Option.map _), Option.map_bind, Option.bind_map]

@[simp] theorem onRangeEnd?_within (first c : Char) :
    (r.within frame).onRangeEnd? first c = (r.onRangeEnd? first c).map (within frame) := by
  simp [onRangeEnd?, apply_ite (Option.map _)]

@[simp] theorem decideHyphen?_within (m : Member) (c : Char) :
    (r.within frame).decideHyphen? m c = (r.decideHyphen? m c).map (within frame) := by
  cases m <;> simp [decideHyphen?, apply_ite (Option.map _), Function.comp_def]

@[simp] theorem onDecided?_within (c : Char) :
    (r.within frame).onDecided? c = (r.onDecided? c).map (within frame) := by
  unfold onDecided?
  rw [mode_within]
  split <;> simp

@[simp] theorem onAfterHyphen?_within (m : Member) (c : Char) :
    (r.within frame).onAfterHyphen? m c = (r.onAfterHyphen? m c).map (within frame) := by
  simp [onAfterHyphen?, Option.map_bind, Option.bind_map]

@[simp] theorem onAfterHyphenRemark?_within (m : Member) (inside : Bool) (c : Char) :
    (r.within frame).onAfterHyphenRemark? m inside c =
      (r.onAfterHyphenRemark? m inside c).map (within frame) := by
  simp [onAfterHyphenRemark?, apply_ite (Option.map _), Option.map_bind, Option.bind_map]
  rfl

@[simp] theorem onOperator?_within (c : Char) :
    (r.within frame).onOperator? c = (r.onOperator? c).map (within frame) := by
  simp [onOperator?, Option.map_bind]

@[simp] theorem onBracketStart?_within (c : Char) :
    (r.within frame).onBracketStart? c = (r.onBracketStart? c).map (within frame) := by
  simp [onBracketStart?, apply_ite (Option.map _), Function.comp_def]

@[simp] theorem onBracket?_within (c : Char) :
    (r.within frame).onBracket? c = (r.onBracket? c).map (within frame) := by
  simp [onBracket?, apply_ite (Option.map _), Function.comp_def]

/-! ### Escapes -/

@[simp] theorem putChar?_within (p : Place) (c : Char) :
    (r.within frame).putChar? p c = (r.putChar? p c).map (within frame) := by
  cases p <;> simp [putChar?]

@[simp] theorem putSet?_within (p : Place) (s : CharSet) :
    (r.within frame).putSet? p s = (r.putSet? p s).map (within frame) := by
  cases p <;> rfl

@[simp] theorem putLook?_within (p : Place) (l : Look) (mode : Mode) :
    (r.within frame).putLook? p l mode = (r.putLook? p l mode).map (within frame) := by
  cases p <;> rfl

@[simp] theorem putCode?_within (p : Place) (byte : Bool) (code : Nat) :
    (r.within frame).putCode? p byte code = (r.putCode? p byte code).map (within frame) := by
  simp [putCode?, apply_ite (Option.map _)]

@[simp] theorem onEscape?_within (p : Place) (c : Char) :
    (r.within frame).onEscape? p c = (r.onEscape? p c).map (within frame) := by
  unfold onEscape?
  rw [flags_within]
  -- the meanings of the letter in the order in which they are tried
  cases codeLength? c with
  | some digits => rfl
  | none =>
    cases controlChar? c with
    | some control => exact putChar?_within ..
    | none =>
      cases look? r.flags c with
      | some look => exact putLook?_within ..
      | none =>
        cases r.flags.letterSet? c.toLower with
        | some s => simp [Option.map_bind]
        | none => simp [apply_ite (Option.map _)]

@[simp] theorem onCodeDigit?_within (p : Place) (byte : Bool) (left value : Nat) (c : Char) :
    (r.within frame).onCodeDigit? p byte left value c =
      (r.onCodeDigit? p byte left value c).map (within frame) := by
  simp [onCodeDigit?, apply_ite (Option.map _), Option.map_bind]

@[simp] theorem onCode?_within (p : Place) (digits : Nat) (c : Char) :
    (r.within frame).onCode? p digits c = (r.onCode? p digits c).map (within frame) := by
  simp [onCode?, apply_ite (Option.map _)]

@[simp] theorem onCodeBrace?_within (p : Place) (value : Option Nat) (c : Char) :
    (r.within frame).onCodeBrace? p value c = (r.onCodeBrace? p value c).map (within frame) := by
  simp [onCodeBrace?, apply_ite (Option.map _), Option.map_bind, Function.comp_def]

@[simp] theorem putNamed?_within (p : Place) (negated : Bool) (name : List Char) :
    (r.within frame).putNamed? p negated name =
      (r.putNamed? p negated name).map (within frame) := by
  simp [putNamed?, Option.map_bind]

@[simp] theorem onProperty?_within (p : Place) (negated : Bool) (c : Char) :
    (r.within frame).onProperty? p negated c = (r.onProperty? p negated c).map (within frame) := by
  simp [onProperty?, apply_ite (Option.map _)]

@[simp] theorem onPropertyName?_within (p : Place) (negated : Bool) (name : List Char)
    (c : Char) :
    (r.within frame).onPropertyName? p negated name c =
      (r.onPropertyName? p negated name c).map (within frame) := by
  simp [onPropertyName?, apply_ite (Option.map _)]

/-! ### Word boundaries with names -/

@[simp] theorem onBoundaryBrace?_within (c : Char) :
    (r.within frame).onBoundaryBrace? c = (r.onBoundaryBrace? c).map (within frame) := by
  simp [onBoundaryBrace?, apply_ite (Option.map _)]

@[simp] theorem onBoundaryName?_within (name : List Char) (c : Char) :
    (r.within frame).onBoundaryName? name c = (r.onBoundaryName? name c).map (within frame) := by
  simp [onBoundaryName?, apply_ite (Option.map _), Function.comp_def]
  rfl

/-! ### Steps -/

@[simp] theorem onAwaited?_within (c : Char) :
    (r.within frame).onAwaited? c = (r.onAwaited? c).map (within frame) := by
  unfold onAwaited?
  rw [mode_within]
  split <;> simp [Option.map_bind, Option.bind_map]

@[simp] theorem beginRemark_within :
    (r.within frame).beginRemark = r.beginRemark.within frame := by
  unfold beginRemark
  rw [mode_within]
  split <;> rfl

@[simp] theorem note_within (c : Char) : (r.within frame).note c = (r.note c).within frame := by
  cases h : r.brackets <;> simp [note, h, within]

end
end Reader

theorem Mode.isFinal_settled (m : Mode) : m.settled.isFinal = m.isFinal := by
  cases m <;> rfl

namespace Reader
variable (frame : Branches × Flags) {r : Reader} {c : Char}

theorem onOther?_within (hsettled : r.mode.settled = r.mode)
    (h : r.outer = [] → r.mode.isFinal = true → c ≠ ')') :
    (r.within frame).onOther? c = (r.onOther? c).map (within frame) := by
  have hitem : r.mode.isFinal = true → (r.within frame).onItem? c =
      (r.onItem? c).map (within frame) :=
    fun hfinal => onItem?_within frame r fun houter => h houter hfinal
  unfold onOther?
  rw [mode_within]
  cases hmode : r.mode with
  | item => exact hitem (hmode ▸ rfl)
  | counted =>
    dsimp only
    rw [hitem (hmode ▸ rfl), apply_ite (Option.map _)]
    rfl
  -- a mode that still waits for a character has been settled before
  | repeated | boundary | operator _ | afterHyphen _ =>
    rw [hmode] at hsettled
    cases hsettled
  | groupP => simp [apply_ite (Option.map _)]
  | _ => simp

theorem read?_within (h : r.outer = [] → r.mode.isFinal = true → c ≠ ')') :
    (r.within frame).read? c = (r.read? c).map (within frame) := by
  have hother : ((r.into r.mode.settled).within frame).onOther? c =
      ((r.into r.mode.settled).onOther? c).map (within frame) := by
    refine onOther?_within frame (Mode.settled_settled r.mode) fun houter hfinal => ?_
    exact h houter ((Mode.isFinal_settled r.mode).symm.trans hfinal)
  unfold read?
  rw [mode_within, into_within, onAwaited?_within]
  dsimp only
  rw [hother]
  simp [apply_ite (Option.map _)]

@[simp] theorem outer_note (r : Reader) (c : Char) : (r.note c).outer = r.outer := by
  cases h : r.brackets <;> simp [note, h]

@[simp] theorem mode_note (r : Reader) (c : Char) : (r.note c).mode = r.mode := by
  cases h : r.brackets <;> simp [note, h]

@[simp] theorem inRemark_note (r : Reader) (c : Char) : (r.note c).inRemark = r.inRemark := by
  cases h : r.brackets <;> simp [note, h]

/-- Whether a pattern could end here, outside of all groups. -/
structure AtEnd (r : Reader) : Prop where
  outer : r.outer = []
  mode : r.mode.isFinal = true
  inRemark : r.inRemark = false

/-- **A step is the same inside of a group**, unless it closes the group. -/
theorem step_within (h : r.AtEnd → c ≠ ')') :
    (r.within frame).step c = (r.step c).map (within frame) := by
  unfold step
  rw [note_within]
  dsimp only
  cases hremark : r.inRemark with
  | true =>
    rw [inRemark_within, inRemark_note, hremark, if_pos rfl, if_pos rfl]
    rfl
  | false =>
    have hnote : (r.note c).outer = [] → (r.note c).mode.isFinal = true → c ≠ ')' := by
      rw [outer_note, mode_note]
      exact fun houter hmode => h ⟨houter, hmode, hremark⟩
    rw [inRemark_within, inRemark_note, hremark, read?_within frame hnote]
    rfl

/-- **A text is read the same inside of a group**, unless a parenthesis in it closes the group. -/
theorem foldlM_within (cs : List Char) :
    cs.foldlM step (r.within frame) = (cs.foldlM step r).map (within frame) ∨
      ∃ a b r', cs = a ++ ')' :: b ∧ a.foldlM step r = some r' ∧ r'.AtEnd := by
  -- the readings part at the first parenthesis that closes the group, if there is one
  induction cs generalizing r with
  | nil => exact .inl rfl
  | cons c cs ih =>
    by_cases hend : r.AtEnd ∧ c = ')'
    · obtain ⟨hend, rfl⟩ := hend
      exact .inr ⟨[], cs, r, rfl, rfl, hend⟩
    · have hstep : (r.within frame).step c = (r.step c).map (within frame) :=
        step_within frame fun hat hc => hend ⟨hat, hc⟩
      rw [List.foldlM_cons, List.foldlM_cons, hstep]
      cases hr : r.step c with
      | none => exact .inl rfl
      | some r₁ =>
        rcases ih (r := r₁) with hsame | ⟨a, b, r', rfl, ha, hend⟩
        · exact .inl hsame
        · refine .inr ⟨c :: a, b, r', rfl, ?_, hend⟩
          rw [List.foldlM_cons, hr]
          exact ha

end Reader
end RpkiOverlap
