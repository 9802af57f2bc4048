import RpkiOverlap.Proofs.Tree.Chain

/-! # Damage to one object

An object of a snapshot is *damaged* when it is removed, or when its bytes are replaced by bytes
that can be read neither as a certificate nor as a manifest (`Snapshot.Damaged`).  This module
compares the walks of a snapshot and of its damaged copy.

* A way down *needs* an object when the object is one of its certificates or the manifest of a
  certificate above its end (`Snapshot.Needs`).
* The chains of the damaged snapshot are the chains of the intact one that do not need the damaged
  object (`chain_damaged_iff`).  They keep their indices, because a manifest goes on counting the
  files that it lists.
* So the span loses exactly the entries that need the object, and all others stay as they are
  (`extract_damaged`).
-/
namespace RpkiOverlap.Snapshot

/-! ## Damage -/

/-- The snapshot without the object at a URI. -/
def erase (s : Snapshot) (uri : String) : Snapshot where
  objects := s.objects.filter fun o => o.1 != uri
  nodup := s.nodup.sublist (List.filter_sublist.map _)

/-- What a list says of one key does not depend on the entries of another. -/
theorem lookup_filter_ne {objects : List (String × ByteArray)} {x u : String} (h : u ≠ x) :
    (objects.filter fun o => o.1 != x).lookup u = objects.lookup u := by
  induction objects with
  | nil => rfl
  | cons o objects ih =>
    obtain ⟨v, bytes⟩ := o
    by_cases hv : v = x
    · have hne : (u == v) = false := by simpa [hv] using h
      rw [List.filter_cons_of_neg (by simp [hv]), ih, List.lookup_cons, hne]
    · rw [List.filter_cons_of_pos (by simp [hv]), List.lookup_cons, List.lookup_cons, ih]

theorem lookup_filter_self {objects : List (String × ByteArray)} {x : String} :
    (objects.filter fun o => o.1 != x).lookup x = none := by
  rw [List.lookup_eq_none_iff]
  intro o ho
  have hne := (List.mem_filter.1 ho).2
  rw [bne_iff_ne] at hne
  simpa using Ne.symm hne

theorem get?_erase (s : Snapshot) (x u : String) :
    (s.erase x).get? u = if u = x then none else s.get? u := by
  by_cases h : u = x
  · rw [if_pos h, h]
    exact lookup_filter_self
  · rw [if_neg h]
    exact lookup_filter_ne h

theorem get?_insert (s : Snapshot) (x u : String) (bytes : ByteArray) :
    (s.insert x bytes).get? u = if u = x then some bytes else s.get? u := by
  by_cases h : u = x
  · simp [h, insert, get?]
  · have hne : (u == x) = false := by simpa using h
    rw [if_neg h]
    show ((x, bytes) :: s.objects.filter fun o => o.1 != x).lookup u = s.objects.lookup u
    rw [List.lookup_cons, hne]
    exact lookup_filter_ne h

/-- What becomes of a snapshot when the object at `x` is removed, or garbled so that it can be
read neither as a certificate nor as a manifest. -/
inductive Damaged (s : Snapshot) (d : Decoder) (x : String) : Snapshot → Prop
  | removed : Damaged s d x (s.erase x)
  | garbled {bytes certificateFault manifestFault}
      (hc : d.certificate x bytes = .error certificateFault)
      (hm : d.manifest x bytes = .error manifestFault) : Damaged s d x (s.insert x bytes)

variable {s s' : Snapshot} {d : Decoder} {x : String}

/-- Damage leaves the other objects as they are. -/
theorem Damaged.get?_of_ne (h : s.Damaged d x s') {u : String} (hu : u ≠ x) :
    s'.get? u = s.get? u := by
  cases h with
  | removed => rw [get?_erase, if_neg hu]
  | garbled => rw [get?_insert, if_neg hu]

/-- Nothing certifies at the damaged object, and elsewhere the same as before. -/
theorem Damaged.certifies_iff (h : s.Damaged d x s') {u : String} {c : ResourceCertificate} :
    s'.Certifies d u c ↔ s.Certifies d u c ∧ u ≠ x := by
  by_cases hu : u = x
  · subst hu
    simp only [ne_eq, not_true_eq_false, and_false, iff_false]
    rintro ⟨bytes, hb, hc⟩
    cases h with
    | removed => simp [get?_erase] at hb
    | garbled hcert _ =>
      rw [get?_insert, if_pos rfl, Option.some.injEq] at hb
      subst hb
      rw [hcert] at hc
      cases hc
  · simp only [Certifies, h.get?_of_ne hu, ne_eq, hu, not_false_eq_true, and_true]

/-- A certificate whose manifest is damaged lists nothing, and every other certificate lists the
same URIs under the same indices. -/
theorem Damaged.lists_iff (h : s.Damaged d x s') {c : ResourceCertificate} {i : Nat} {v : String} :
    s'.Lists d c i v ↔ s.Lists d c i v ∧ c.manifestUri ≠ some x := by
  unfold Lists
  constructor
  · rintro ⟨uri, bytes, m, file, hu, hb, hm, hfile, hv⟩
    have hne : uri ≠ x := by
      rintro rfl
      cases h with
      | removed => simp [get?_erase] at hb
      | garbled _ hman =>
        rw [get?_insert, if_pos rfl, Option.some.injEq] at hb
        subst hb
        rw [hman] at hm
        cases hm
    rw [h.get?_of_ne hne] at hb
    refine ⟨⟨uri, bytes, m, file, hu, hb, hm, hfile, hv⟩, ?_⟩
    rw [hu]
    exact fun heq => hne (Option.some.inj heq)
  · rintro ⟨⟨uri, bytes, m, file, hu, hb, hm, hfile, hv⟩, hne⟩
    have hne : uri ≠ x := fun heq => hne (heq ▸ hu)
    rw [← h.get?_of_ne hne] at hb
    exact ⟨uri, bytes, m, file, hu, hb, hm, hfile, hv⟩

/-! ## Chains that need an object -/

variable (s d) in
/-- The way down from `u` by the indices `xs` needs the object at `x`: it comes to a certificate
at `x`, or `x` is the manifest of a certificate that it leaves. -/
def Needs (u : String) (xs : List Nat) (x : String) : Prop :=
  ∃ ys us v c, ys <+: xs ∧ s.Chain d u ys us v c ∧ (v = x ∨ ys ≠ xs ∧ c.manifestUri = some x)

/-- The way that stays where it is needs only the certificate there. -/
theorem needs_nil_iff {u : String} {c : ResourceCertificate} (hc : s.Certifies d u c) :
    s.Needs d u [] x ↔ u = x := by
  constructor
  · rintro ⟨ys, us, v, e, hys, hchain, huse⟩
    obtain rfl := List.prefix_nil.1 hys
    cases hchain with
    | here => exact huse.resolve_right fun h => h.1 rfl
  · exact fun h => ⟨[], [u], u, c, List.nil_prefix, .here hc, .inl h⟩

/-- A way further down needs the certificate where it begins, the manifest of that certificate,
and what it needs from the first listed certificate on. -/
theorem needs_cons_iff {u v : String} {i : Nat} {xs : List Nat} {c : ResourceCertificate}
    (hc : s.Certifies d u c) (hi : s.Lists d c i v) :
    s.Needs d u (i :: xs) x ↔ u = x ∨ c.manifestUri = some x ∨ s.Needs d v xs x := by
  constructor
  · rintro ⟨ys, us, w, e, hys, hchain, huse⟩
    cases hchain with
    | here he =>
      obtain rfl := Certifies.unique hc he
      rcases huse with huse | ⟨_, huse⟩
      · exact .inl huse
      · exact .inr (.inl huse)
    | down hc' hj hbelow =>
      obtain rfl := Certifies.unique hc hc'
      obtain ⟨rfl, htail⟩ := List.cons_prefix_cons.1 hys
      obtain rfl := hi.unique hj
      refine .inr (.inr ⟨_, _, _, _, htail, hbelow, ?_⟩)
      simpa using huse
  · rintro (h | h | ⟨ys, us, w, e, hys, hchain, huse⟩)
    · exact ⟨[], [u], u, c, List.nil_prefix, .here hc, .inl h⟩
    · exact ⟨[], [u], u, c, List.nil_prefix, .here hc, .inr ⟨by simp, h⟩⟩
    · refine ⟨i :: ys, u :: us, w, e, ?_, .down hc hi hchain, ?_⟩
      · exact List.cons_prefix_cons.2 ⟨rfl, hys⟩
      · simpa using huse

/-- **The chains after the damage.**  They are the chains from before that do not need the damaged
object, with the same indices, URIs and certificates. -/
theorem chain_damaged_iff (h : s.Damaged d x s') {u v : String} {xs : List Nat} {us : List String}
    {c : ResourceCertificate} :
    s'.Chain d u xs us v c ↔ s.Chain d u xs us v c ∧ ¬ s.Needs d u xs x := by
  constructor
  · intro hchain
    induction hchain with
    | here hc =>
      obtain ⟨hc, hne⟩ := h.certifies_iff.1 hc
      exact ⟨.here hc, fun hneeds => hne ((needs_nil_iff hc).1 hneeds)⟩
    | down hc hi _ ih =>
      obtain ⟨hc, hne⟩ := h.certifies_iff.1 hc
      obtain ⟨hi, hmanifest⟩ := h.lists_iff.1 hi
      refine ⟨.down hc hi ih.1, fun hneeds => ?_⟩
      rcases (needs_cons_iff hc hi).1 hneeds with heq | heq | hbelow
      · exact hne heq
      · exact hmanifest heq
      · exact ih.2 hbelow
  · rintro ⟨hchain, hfree⟩
    induction hchain with
    | here hc =>
      exact .here (h.certifies_iff.2 ⟨hc, fun heq => hfree ((needs_nil_iff hc).2 heq)⟩)
    | down hc hi _ ih =>
      have hfree := fun hneeds => hfree ((needs_cons_iff hc hi).2 hneeds)
      have hcert := h.certifies_iff.2 ⟨hc, fun heq => hfree (.inl heq)⟩
      have hlists := h.lists_iff.2 ⟨hi, fun heq => hfree (.inr (.inl heq))⟩
      exact .down hcert hlists (ih fun hneeds => hfree (.inr (.inr hneeds)))

/-! ## The span after the damage -/

/-- **Failure is local.**  The span of the damaged snapshot has exactly the entries of the intact
one whose way from the trust anchor does not need the damaged object.  Each of those is the only
entry with its path, and it is the same as before: nothing is added, renumbered or altered. -/
theorem extract_damaged (s : Snapshot) (d : Decoder) (trustAnchor x : String) (s' : Snapshot)
    (h : s.Damaged d x s') :
    (∀ e, e ∈ s'.extract d trustAnchor ↔ e ∈ s.extract d trustAnchor ∧
      ∃ xs, e.path = .ofIndices xs ∧ ¬ s.Needs d trustAnchor xs x) ∧
    (∀ e ∈ s.extract d trustAnchor, ∀ xs, e.path = .ofIndices xs → ¬ s.Needs d trustAnchor xs x →
      (s'.extract d trustAnchor).filter (fun e' => e'.path = e.path) = [e]) := by
  have hmem : ∀ e, e ∈ s'.extract d trustAnchor ↔ e ∈ s.extract d trustAnchor ∧
      ∃ xs, e.path = .ofIndices xs ∧ ¬ s.Needs d trustAnchor xs x := by
    intro e
    rw [mem_extract_iff, mem_extract_iff]
    constructor
    · rintro ⟨xs, us, v, c, hchain, hnodup, rfl⟩
      obtain ⟨hchain, hfree⟩ := (chain_damaged_iff h).1 hchain
      exact ⟨⟨xs, us, v, c, hchain, hnodup, rfl⟩, xs, rfl, hfree⟩
    · rintro ⟨⟨xs, us, v, c, hchain, hnodup, rfl⟩, ys, hpath, hfree⟩
      obtain rfl := Path.ofIndices_inj.1 hpath
      exact ⟨xs, us, v, c, (chain_damaged_iff h).2 ⟨hchain, hfree⟩, hnodup, rfl⟩
  refine ⟨hmem, fun e he xs hpath hfree => ?_⟩
  exact filter_eq_singleton (nodup_path_extract trustAnchor) ((hmem e).2 ⟨he, xs, hpath, hfree⟩)

/-- A decoder for which every object but the empty one is a certificate, published at `ta.mft`,
and a manifest of two certificates. -/
def twoFiles : Decoder where
  certificate uri bytes :=
    if bytes.isEmpty then .error (.invalidCertificate uri "empty")
    else .ok (.resource ⟨uri, .empty, some "ta.mft", ⟨0, 0, by decide, by decide, by decide⟩,
      ⟨0, 0, by decide, by decide, by decide⟩⟩)
  manifest uri bytes :=
    if bytes.isEmpty then .error (.invalidManifest uri "empty") else .ok ⟨["a.cer", "b.cer"]⟩

/-- Three certificates that share a manifest, so each lies below the others. -/
def sharedManifest : Snapshot :=
  .ofList (["ta.cer", "ta.mft", "a.cer", "b.cer"].map fun uri => (uri, ⟨#[0]⟩))

/-- When the first of the two certificates is garbled, the second stays at its positions that do
not lie below the first. -/
theorem extract_damaged_sharedManifest :
    sharedManifest.Damaged twoFiles "a.cer" (sharedManifest.insert "a.cer" .empty) ∧
    ∀ e, e ∈ (sharedManifest.insert "a.cer" .empty).extract twoFiles "ta.cer" ↔
      e ∈ sharedManifest.extract twoFiles "ta.cer" ∧
        ∃ xs, e.path = .ofIndices xs ∧ ¬ sharedManifest.Needs twoFiles "ta.cer" xs "a.cer" := by
  have hdamaged : sharedManifest.Damaged twoFiles "a.cer" (sharedManifest.insert "a.cer" .empty) :=
    .garbled rfl rfl
  exact ⟨hdamaged, (extract_damaged sharedManifest twoFiles "ta.cer" "a.cer" _ hdamaged).1⟩

end RpkiOverlap.Snapshot
