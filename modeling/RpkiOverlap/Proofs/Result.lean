import Mathlib.Data.List.Forall2

/-! # Results, and passes that stop at the first error

Each combinator on results has one lemma for when it succeeds.  A pass over a list (`List.mapM`) has
a result for each member, or stops at the first member that fails (`StopsAt`) and fails like it.

* `mapM_eq_ok_iff` and `mapM_eq_error_iff` say when a pass has which outcome, and
  `exists_mapM_eq_ok_iff` when it has results at all.
* `stopsAt_filterMap` says where a pass stops in the list that its own list is picked from.
* `foldlM_eq_mapM` is about a pass that adds its results to something as it goes: it may as well
  collect them first.
-/
namespace RpkiOverlap

/-! ## Successful results -/

theorem bind_eq_ok {ε α β : Type} {x : Except ε α} {f : α → Except ε β} {b : β} :
    (x >>= f) = .ok b ↔ ∃ a, x = .ok a ∧ f a = .ok b := by
  cases x <;> simp [bind, Except.bind]

theorem map_eq_ok {ε α β : Type} {x : Except ε α} {f : α → β} {b : β} :
    (f <$> x) = .ok b ↔ ∃ a, x = .ok a ∧ f a = b := by
  cases x <;> simp [Functor.map, Except.map]

theorem mapError_eq_ok {ε δ α : Type} {x : Except ε α} {f : ε → δ} {a : α} :
    x.mapError f = .ok a ↔ x = .ok a := by
  cases x <;> simp [Except.mapError]

/-! ## One step of a pass -/

variable {ε α β : Type} {f : α → Except ε β} {x : α} {xs : List α}

/-- Some member of a list fails, and none before it does. -/
def StopsAt (f : α → Except ε β) (xs : List α) (e : ε) : Prop :=
  ∃ before x after, xs = before ++ x :: after ∧ (∀ a ∈ before, ∃ b, f a = .ok b) ∧ f x = .error e

theorem mapM_cons_of_ok {y : β} (h : f x = .ok y) :
    (x :: xs).mapM f = (xs.mapM f).map (y :: ·) := by
  rw [List.mapM_cons, h]
  cases xs.mapM f <;> rfl

theorem mapM_cons_of_error {e : ε} (h : f x = .error e) : (x :: xs).mapM f = .error e := by
  rw [List.mapM_cons, h]
  rfl

theorem stopsAt_nil {e : ε} : ¬ StopsAt f [] e := by
  rintro ⟨before, x, after, h, -⟩
  exact List.append_ne_nil_of_right_ne_nil before (List.cons_ne_nil x after) h.symm

theorem stopsAt_cons_of_ok {y : β} {e : ε} (h : f x = .ok y) :
    StopsAt f (x :: xs) e ↔ StopsAt f xs e := by
  constructor
  · rintro ⟨before, z, after, heq, hbefore, hz⟩
    cases before with
    | nil =>
      obtain ⟨rfl, rfl⟩ := List.cons.inj heq
      cases h.symm.trans hz
    | cons a before =>
      obtain ⟨rfl, rfl⟩ := List.cons.inj heq
      exact ⟨before, z, after, rfl, (List.forall_mem_cons.1 hbefore).2, hz⟩
  · rintro ⟨before, z, after, rfl, hbefore, hz⟩
    exact ⟨x :: before, z, after, rfl, List.forall_mem_cons.2 ⟨⟨y, h⟩, hbefore⟩, hz⟩

theorem stopsAt_cons_of_error {e e' : ε} (h : f x = .error e) :
    StopsAt f (x :: xs) e' ↔ e = e' := by
  constructor
  · rintro ⟨before, z, after, heq, hbefore, hz⟩
    cases before with
    | nil =>
      obtain ⟨rfl, rfl⟩ := List.cons.inj heq
      exact Except.error.inj (h.symm.trans hz)
    | cons a before =>
      obtain ⟨rfl, rfl⟩ := List.cons.inj heq
      obtain ⟨y, hy⟩ := hbefore x List.mem_cons_self
      cases h.symm.trans hy
  · rintro rfl
    exact ⟨[], x, xs, rfl, List.forall_mem_nil _, h⟩

/-- Where a pass stops over two lists, one after the other. -/
theorem stopsAt_append {ys : List α} {e : ε} : StopsAt f (xs ++ ys) e ↔
    StopsAt f xs e ∨ (∀ a ∈ xs, ∃ b, f a = .ok b) ∧ StopsAt f ys e := by
  induction xs with
  | nil => simp [stopsAt_nil]
  | cons x xs ih =>
    cases h : f x with
    | error e' => simp [stopsAt_cons_of_error h, h]
    | ok y => simp [stopsAt_cons_of_ok h, h, ih]

theorem stopsAt_map {γ : Type} {g : γ → α} {cs : List γ} {e : ε} :
    StopsAt f (cs.map g) e ↔ StopsAt (fun c => f (g c)) cs e := by
  induction cs with
  | nil => exact iff_of_false stopsAt_nil stopsAt_nil
  | cons c cs ih =>
    rw [List.map_cons]
    cases h : f (g c) with
    | error e' =>
      rw [stopsAt_cons_of_error h, stopsAt_cons_of_error (f := fun c => f (g c)) h]
    | ok y => rw [stopsAt_cons_of_ok h, stopsAt_cons_of_ok (f := fun c => f (g c)) h, ih]

/-- Where a pass stops over what is picked from a list. -/
theorem stopsAt_filterMap {γ : Type} {pick : γ → Option α} {cs : List γ} {e : ε} :
    StopsAt f (cs.filterMap pick) e ↔ ∃ before c after, cs = before ++ c :: after ∧
      (∀ d ∈ before, ∀ a, pick d = some a → ∃ b, f a = .ok b) ∧
      ∃ a, pick c = some a ∧ f a = .error e := by
  constructor
  · rintro ⟨before, a, after, heq, hbefore, ha⟩
    obtain ⟨front, rest, rfl, rfl, hrest⟩ := List.filterMap_eq_append_iff.1 heq
    obtain ⟨skipped, c, back, rfl, hskipped, hc, -⟩ := List.filterMap_eq_cons_iff.1 hrest
    refine ⟨front ++ skipped, c, back, (List.append_assoc ..).symm, ?_, a, hc, ha⟩
    intro d hd a' ha'
    rcases List.mem_append.1 hd with hd | hd
    · exact hbefore a' (List.mem_filterMap.2 ⟨d, hd, ha'⟩)
    · cases (hskipped d hd).symm.trans ha'
  · rintro ⟨before, c, after, rfl, hbefore, a, hc, ha⟩
    refine ⟨before.filterMap pick, a, after.filterMap pick, ?_, ?_, ha⟩
    · rw [List.filterMap_append, List.filterMap_cons_some hc]
    · intro a' ha'
      obtain ⟨d, hd, hpick⟩ := List.mem_filterMap.1 ha'
      exact hbefore d hd a' hpick

/-! ## Whole passes -/

theorem mapM_eq_ok_iff {ys : List β} :
    xs.mapM f = .ok ys ↔ List.Forall₂ (fun a b => f a = .ok b) xs ys := by
  induction xs generalizing ys with
  | nil => exact ⟨fun h => by cases h; exact .nil, fun h => by cases h; rfl⟩
  | cons x xs ih =>
    rw [List.forall₂_cons_left_iff]
    cases h : f x with
    | error e => simp [mapM_cons_of_error h]
    | ok y => cases hxs : xs.mapM f <;> simp [mapM_cons_of_ok h, hxs, ← ih, Except.map, eq_comm]

/-- Where a result shows what it is the result of, so do the results of a pass. -/
theorem mapM_eq_ok_iff_map_eq {key : β → α} (h : ∀ a b, f a = .ok b ↔ key b = a) {ys : List β} :
    xs.mapM f = .ok ys ↔ ys.map key = xs := by
  simp only [mapM_eq_ok_iff, h]
  constructor
  · intro hxs
    induction hxs with
    | nil => rfl
    | cons hx _ ih => rw [List.map_cons, hx, ih]
  · rintro rfl
    exact List.forall₂_map_left_iff.2 (List.forall₂_same.2 fun _ _ => rfl)

theorem mapM_eq_error_iff {e : ε} : xs.mapM f = .error e ↔ StopsAt f xs e := by
  induction xs with
  | nil => exact iff_of_false (fun h => by cases h) stopsAt_nil
  | cons x xs ih =>
    cases h : f x with
    | error e' => rw [mapM_cons_of_error h, stopsAt_cons_of_error h, Except.error.injEq]
    | ok y =>
      rw [mapM_cons_of_ok h, stopsAt_cons_of_ok h, ← ih]
      cases xs.mapM f <;> simp [Except.map]

theorem exists_mapM_eq_ok_iff : (∃ ys, xs.mapM f = .ok ys) ↔ ∀ a ∈ xs, ∃ b, f a = .ok b := by
  constructor
  · rintro ⟨ys, h⟩
    induction mapM_eq_ok_iff.1 h with
    | nil => exact List.forall_mem_nil _
    | cons hx hxs ih => exact List.forall_mem_cons.2 ⟨⟨_, hx⟩, ih (mapM_eq_ok_iff.2 hxs)⟩
  · intro h
    cases hxs : xs.mapM f with
    | ok ys => exact ⟨ys, rfl⟩
    | error e =>
      obtain ⟨before, x, after, rfl, -, hx⟩ := mapM_eq_error_iff.1 hxs
      obtain ⟨b, hb⟩ := h x (by simp)
      cases hx.symm.trans hb

/-- The results of a pass are those of the members. -/
theorem mem_of_mapM_eq_ok {ys : List β} (h : xs.mapM f = .ok ys) {y : β} :
    y ∈ ys ↔ ∃ a ∈ xs, f a = .ok y := by
  induction mapM_eq_ok_iff.1 h with
  | nil => simp
  | cons hx hxs ih =>
    rw [List.mem_cons, List.exists_mem_cons_iff, ih (mapM_eq_ok_iff.2 hxs), hx, Except.ok.injEq,
      eq_comm]

/-- Where every member has to have a value for the whole to have one, each has one. -/
theorem exists_of_mapM_eq_some {g : α → Option β} {ys : List β} (h : xs.mapM g = some ys) :
    ∀ a ∈ xs, ∃ b, g a = some b := by
  induction xs generalizing ys with
  | nil => exact List.forall_mem_nil _
  | cons x xs ih =>
    simp only [List.mapM_cons, Option.bind_eq_bind, Option.bind_eq_some_iff] at h
    obtain ⟨y, hy, ys, hys, -⟩ := h
    exact List.forall_mem_cons.2 ⟨⟨y, hy⟩, ih hys⟩

/-- A pass that adds its results to something as it goes may as well collect them first. -/
theorem foldlM_eq_mapM {γ : Type} {step : γ → α → Except ε γ} (push : γ → List β → γ)
    (hnil : ∀ c, push c [] = c) (hcons : ∀ c y ys, push (push c [y]) ys = push c (y :: ys))
    (hstep : ∀ c a, step c a = (f a).map fun y => push c [y]) (c : γ) :
    xs.foldlM step c = (xs.mapM f).map (push c) := by
  induction xs generalizing c with
  | nil => exact congrArg Except.ok (hnil c).symm
  | cons x xs ih =>
    rw [List.foldlM_cons, hstep]
    cases h : f x with
    | error e =>
      rw [mapM_cons_of_error h]
      rfl
    | ok y =>
      rw [mapM_cons_of_ok h]
      show xs.foldlM step (push c [y]) = _
      rw [ih]
      cases xs.mapM f with
      | error e => rfl
      | ok ys => exact congrArg Except.ok (hcons c y ys)

end RpkiOverlap
