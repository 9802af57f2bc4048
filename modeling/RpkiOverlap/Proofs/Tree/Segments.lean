import Mathlib.Data.List.Infix
import RpkiOverlap.Tree.Path

/-! # Segments of paths

A path is a row of segments: a slash stands in front of the first one and behind each.  Paths come
about from the root or from any text, in which slashes may be repeated or missing, by steps down
(`Path.Built`).  These are exactly the texts that can be read as such rows (`built_iff`), and there
is one way to read them (`ConsistsOf.unique`).

* One text begins another exactly when its segments begin the other's (`joined_prefix_iff`): a
  segment has no slash, so the slash behind it shows where it ends.
* Everything that is asked of paths is therefore known from their segments: equality
  (`ConsistsOf.eq_iff`), the depth (`ConsistsOf.depth_eq`), and whether one lies above the other
  (`ConsistsOf.related_iff`).
-/
namespace RpkiOverlap.Path

/-- Segments with a slash behind each. -/
def joined (ss : List (List Char)) : List Char := ss.flatMap fun s => s ++ ['/']

theorem joined_cons (s : List Char) (ss : List (List Char)) :
    joined (s :: ss) = s ++ '/' :: joined ss := by
  simp [joined]

theorem joined_concat (ss : List (List Char)) (s : List Char) :
    joined (ss ++ [s]) = joined ss ++ s ++ ['/'] := by
  simp [joined]

/-- Words without a slash are told apart by the slash behind them. -/
theorem prefix_of_slash {a b s t : List Char} (ha : '/' ∉ a) (hb : '/' ∉ b) :
    a ++ '/' :: s <+: b ++ '/' :: t ↔ a = b ∧ s <+: t := by
  induction a generalizing b with
  | nil =>
    cases b with
    | nil => simp
    | cons c b =>
      have hc : '/' ≠ c := fun h => hb (h ▸ List.mem_cons_self)
      simp [hc]
  | cons c a ih =>
    obtain ⟨hca, ha⟩ := not_or.1 (fun h => ha (List.mem_cons.2 h))
    cases b with
    | nil => simp [Ne.symm hca]
    | cons c' b =>
      obtain ⟨_, hb⟩ := not_or.1 (fun h => hb (List.mem_cons.2 h))
      simp [List.cons_prefix_cons, ih ha hb, and_assoc]

theorem joined_prefix_iff {ss ts : List (List Char)} (hs : ∀ s ∈ ss, '/' ∉ s)
    (ht : ∀ t ∈ ts, '/' ∉ t) : joined ss <+: joined ts ↔ ss <+: ts := by
  induction ss generalizing ts with
  | nil => simp [joined]
  | cons s ss ih =>
    cases ts with
    | nil => simp [joined]
    | cons t ts =>
      obtain ⟨hs, hss⟩ := List.forall_mem_cons.1 hs
      obtain ⟨ht, hts⟩ := List.forall_mem_cons.1 ht
      rw [joined_cons, joined_cons, prefix_of_slash hs ht, List.cons_prefix_cons, ih hss hts]

/-- There are as many slashes as segments. -/
theorem count_joined {ss : List (List Char)} (hs : ∀ s ∈ ss, '/' ∉ s) :
    (joined ss).count '/' = ss.length := by
  induction ss with
  | nil => rfl
  | cons s ss ih =>
    obtain ⟨hs, hss⟩ := List.forall_mem_cons.1 hs
    rw [joined_cons, List.count_append, List.count_eq_zero.2 hs, List.count_cons_self, ih hss,
      Nat.zero_add, List.length_cons]

/-- Every text with a slash at its end is a row of segments. -/
theorem exists_joined (text : List Char) :
    ∃ ss, (∀ s ∈ ss, '/' ∉ s) ∧ text ++ ['/'] = joined ss := by
  induction text with
  | nil => exact ⟨[[]], by simp, rfl⟩
  | cons c text ih =>
    obtain ⟨ss, hplain, htext⟩ := ih
    by_cases hc : c = '/'
    · -- an empty segment comes first
      refine ⟨[] :: ss, by simpa using hplain, ?_⟩
      rw [joined_cons, ← htext, hc]
      rfl
    · -- the character belongs to the first segment
      cases ss with
      | nil => simp [joined] at htext
      | cons s ss =>
        obtain ⟨hs, hss⟩ := List.forall_mem_cons.1 hplain
        refine ⟨(c :: s) :: ss, List.forall_mem_cons.2 ⟨?_, hss⟩, ?_⟩
        · intro hmem
          rcases List.mem_cons.1 hmem with h | h
          · exact hc h.symm
          · exact hs h
        · rw [List.cons_append, htext, joined_cons, joined_cons, List.cons_append]

/-! ## Rows of segments -/

/-- The path is the row of the given segments. -/
structure ConsistsOf (p : Path) (ss : List (List Char)) : Prop where
  text : p.text.toList = '/' :: joined ss
  plain : ∀ s ∈ ss, '/' ∉ s

section
variable {p q : Path} {ss ts : List (List Char)}

/-- One text begins another exactly when its segments begin the other's. -/
theorem ConsistsOf.prefix_iff (hp : p.ConsistsOf ss) (hq : q.ConsistsOf ts) :
    p.text.toList <+: q.text.toList ↔ ss <+: ts := by
  rw [hp.text, hq.text, List.cons_prefix_cons, joined_prefix_iff hp.plain hq.plain]
  exact and_iff_right rfl

theorem ConsistsOf.eq_iff (hp : p.ConsistsOf ss) (hq : q.ConsistsOf ts) : p = q ↔ ss = ts := by
  constructor
  · rintro rfl
    have h1 : ss <+: ts := (hp.prefix_iff hq).1 List.prefix_rfl
    have h2 : ts <+: ss := (hq.prefix_iff hp).1 List.prefix_rfl
    exact h1.eq_of_length_le h2.length_le
  · rintro rfl
    have htext : p.text = q.text := String.toList_inj.1 (hp.text.trans hq.text.symm)
    exact congrArg Path.mk htext

/-- A path is read in one way. -/
theorem ConsistsOf.unique (hs : p.ConsistsOf ss) (ht : p.ConsistsOf ts) : ss = ts :=
  (hs.eq_iff ht).1 rfl

/-- A position lies as deep as it has segments. -/
theorem ConsistsOf.depth_eq (hp : p.ConsistsOf ss) : p.depth = ss.length := by
  rw [depth, hp.text, List.count_cons_self, count_joined hp.plain, Nat.add_sub_cancel]

/-- Related are the positions of which one lies properly above the other. -/
theorem ConsistsOf.related_iff (hp : p.ConsistsOf ss) (hq : q.ConsistsOf ts) :
    p.related q = true ↔ ss ≠ ts ∧ (ss <+: ts ∨ ts <+: ss) := by
  simp only [related, Bool.and_eq_true, bne_iff_ne, ne_eq, hp.eq_iff hq, Bool.or_eq_true,
    List.isPrefixOf_iff_prefix, hp.prefix_iff hq, hq.prefix_iff hp]

end

theorem related_comm (p q : Path) : p.related q = q.related p := by
  rw [related, related, bne_comm, Bool.or_comm]

theorem related_self (p : Path) : p.related p = false := by
  simp [related]

/-! ## Paths that come about -/

/-- A path that comes about from the root or from a text by steps down. -/
inductive Built : Path → Prop
  | root : Built root
  | of (text : String) : Built (.of text)
  | child {p : Path} (h : Built p) (index : Nat) : Built (p.child index)

theorem slash_not_mem_decimal (x : Nat) : '/' ∉ Text.decimal x := by
  intro h
  exact absurd (Text.isDigit_of_mem_decimal h) (by decide)

theorem consistsOf_root : root.ConsistsOf [] := ⟨rfl, by simp⟩

/-- A step down adds a segment. -/
theorem ConsistsOf.child {p : Path} {ss : List (List Char)} (h : p.ConsistsOf ss) (index : Nat) :
    (p.child index).ConsistsOf (ss ++ [Text.decimal index]) where
  text := by simp [Path.child, h.text, joined_concat]
  plain s hs := by
    rcases List.mem_append.1 hs with hs | hs
    · exact h.plain s hs
    · rw [List.mem_singleton.1 hs]
      exact slash_not_mem_decimal index

/-- Slashes are added where they are missing, so every text makes a row of segments. -/
theorem exists_consistsOf_of (text : String) : ∃ ss, (of text).ConsistsOf ss := by
  obtain ⟨body, hbody⟩ : ∃ body, withLeadingSlash text.toList = '/' :: body := by
    rw [withLeadingSlash]
    split
    · rename_i hhead
      exact List.head?_eq_some_iff.1 hhead
    · exact ⟨_, rfl⟩
  by_cases hlast : ('/' :: body).getLast? = some '/'
  · have htext : (of text).text.toList = '/' :: body := by
      simp only [of, String.toList_ofList, hbody, withTrailingSlash, if_pos hlast]
    rcases List.eq_nil_or_concat body with rfl | ⟨init, c, rfl⟩
    · exact ⟨[], htext, by simp⟩
    · rw [List.concat_eq_append, ← List.cons_append, List.getLast?_concat] at hlast
      obtain rfl := Option.some.inj hlast
      obtain ⟨ss, hplain, hss⟩ := exists_joined init
      exact ⟨ss, by rw [htext, List.concat_eq_append, hss], hplain⟩
  · obtain ⟨ss, hplain, hss⟩ := exists_joined body
    refine ⟨ss, ?_, hplain⟩
    simp only [of, String.toList_ofList, hbody, withTrailingSlash, if_neg hlast]
    rw [List.cons_append, hss]

/-- A row of segments has all its slashes, so as a text it makes itself. -/
theorem ConsistsOf.of_text {p : Path} {ss : List (List Char)} (h : p.ConsistsOf ss) :
    of p.text = p := by
  have hlast : ('/' :: joined ss).getLast? = some '/' := by
    rcases List.eq_nil_or_concat ss with rfl | ⟨init, s, rfl⟩
    · rfl
    · rw [List.concat_eq_append, joined_concat, ← List.cons_append, List.getLast?_concat]
  have hlead : withLeadingSlash p.text.toList = '/' :: joined ss := by
    rw [h.text, withLeadingSlash, List.head?_cons, if_pos rfl]
  have htext : (of p.text).text = p.text := by
    rw [of, hlead, withTrailingSlash, if_pos hlast, ← h.text, String.ofList_toList]
  exact congrArg Path.mk htext

/-- The paths that come about are the rows of segments. -/
theorem built_iff {p : Path} : p.Built ↔ ∃ ss, p.ConsistsOf ss := by
  constructor
  · intro h
    induction h with
    | root => exact ⟨[], consistsOf_root⟩
    | of text => exact exists_consistsOf_of text
    | child _ index ih =>
      obtain ⟨ss, hss⟩ := ih
      exact ⟨_, hss.child index⟩
  · rintro ⟨ss, hss⟩
    rw [← hss.of_text]
    exact .of p.text

end RpkiOverlap.Path
