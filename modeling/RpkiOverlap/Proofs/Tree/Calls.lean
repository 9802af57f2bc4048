import Mathlib.Data.Set.Card
import Mathlib.Logic.Relation
import RpkiOverlap.Proofs.Tree.Chain

/-! # The calls of the walk

The walk calls itself once for every certificate that a certificate lists.  A *call* is made with
a URI, with the indices of its position, and with the URIs of the certificates on the way there,
the last one first (`Snapshot.Call`).  One call *leads* to another when its URI is new on the way
and is that of a certificate which lists the other's URI (`Snapshot.Leads`).

Nothing is assumed of the snapshot: manifests may list their own certificate, one above it, or each
other.  What makes the walk end is the way that every call carries along.

* No URI occurs twice on the way to a call, and every URI there has a certificate
  (`lineage_of_calls`).  So no entry lies deeper than there are other certificates (`depth_lt`).
* No series of calls is endless, whichever call it begins with (`wellFounded_leads`).
* The walk makes finitely many calls, each of them once, and gives one answer to each
  (`exists_calls`).
* What a call leads to depends on its own way alone (`mem_extract_iff_calls`,
  `leads_of_prefix`).

`walk_ends` puts these together.
-/
namespace RpkiOverlap.Snapshot

/-- A call of the walk. -/
structure Call where
  uri : String
  indices : List Nat
  /-- The URIs of the certificates on the way, the last one first. -/
  lineage : List String

namespace Call

/-- The position that a call is about. -/
def path (a : Call) : Path := .ofIndices a.indices

/-- The call for the URI that the certificate of a call lists under an index. -/
def below (a : Call) (x : Nat) (v : String) : Call := ⟨v, a.indices ++ [x], a.uri :: a.lineage⟩

/-- The call that a walk begins with. -/
def first (trustAnchor : String) : Call := ⟨trustAnchor, [], []⟩

end Call

variable (s : Snapshot) (d : Decoder)

/-- A call leads to the calls for what its certificate lists, unless its URI lies on the way. -/
inductive Leads (a : Call) : Call → Prop
  | down {c : ResourceCertificate} {x : Nat} {v : String} (hnew : a.uri ∉ a.lineage)
      (hc : s.Certifies d a.uri c) (hx : s.Lists d c x v) : Leads a (a.below x v)

/-- The calls of the walk from a trust anchor. -/
def Calls (trustAnchor : String) : Call → Prop :=
  Relation.ReflTransGen (s.Leads d) (.first trustAnchor)

/-- What the walk finds at the position of a call. -/
def answer (a : Call) : Visit where
  uri := a.uri
  path := a.path
  outcome :=
    if a.uri ∈ a.lineage then .pruned (.cycleDetected a.uri)
    else
      match s.certificate d a.uri with
      | .error fault => .pruned fault
      | .ok c => .entry (.ofCertificate a.uri c a.path) (s.children d c).2

/-- The URIs of the snapshot with a resource certificate. -/
def certified : Set String := {u | ∃ c, s.Certifies d u c}

variable {s d} {trustAnchor : String}

/-! ## The way to a call -/

variable (s d) in
/-- A way that comes to certificates only, and to none of them twice. -/
structure IsLineage (a : Call) : Prop where
  nodup : a.lineage.Nodup
  certified : ∀ u ∈ a.lineage, u ∈ s.certified d

theorem IsLineage.of_leads {a b : Call} (ha : s.IsLineage d a) (h : s.Leads d a b) :
    s.IsLineage d b := by
  cases h with
  | @down c x v hnew hc hx =>
    refine ⟨List.nodup_cons.2 ⟨hnew, ha.nodup⟩, fun u hu => ?_⟩
    rcases List.mem_cons.1 hu with rfl | hu
    · exact ⟨c, hc⟩
    · exact ha.certified u hu

theorem lineage_of_calls {a : Call} (h : s.Calls d trustAnchor a) : s.IsLineage d a := by
  induction h with
  | refl => exact ⟨List.nodup_nil, fun u hu => absurd hu List.not_mem_nil⟩
  | tail _ hlast ih => exact ih.of_leads hlast

/-! ## No series of calls is endless -/

/-- A call leaves fewer URIs to come to than the one that leads to it. -/
theorem remaining_lt_of_leads {a b : Call} (h : s.Leads d a b) :
    (s.remaining b.lineage).length < (s.remaining a.lineage).length := by
  cases h with
  | down hnew hc hx =>
    exact s.length_remaining_lt (s.mem_uris_of_certificate d (certificate_eq_ok_iff.2 hc)) hnew

variable (s d) in
theorem wellFounded_leads : WellFounded fun b a => s.Leads d a b :=
  Subrelation.wf remaining_lt_of_leads
    (InvImage.wf (fun a : Call => (s.remaining a.lineage).length) Nat.lt_wfRel.wf)

/-! ## Positions of calls -/

/-- The calls that a call leads to are made further down. -/
theorem prefix_of_leads {a b : Call} (h : Relation.ReflTransGen (s.Leads d) a b) :
    a.indices <+: b.indices := by
  induction h with
  | refl => exact List.prefix_rfl
  | tail _ hlast ih =>
    cases hlast with
    | down => exact ih.trans (List.prefix_append _ _)

/-- Below different children, different calls are made. -/
theorem index_unique {a b : Call} {x y : Nat} {v w : String}
    (hx : Relation.ReflTransGen (s.Leads d) (a.below x v) b)
    (hy : Relation.ReflTransGen (s.Leads d) (a.below y w) b) : x = y := by
  have hlength : (a.below x v).indices.length ≤ (a.below y w).indices.length := by
    simp [Call.below]
  have hprefix : a.indices ++ [x] <+: a.indices ++ [y] :=
    List.prefix_of_prefix_length_le (prefix_of_leads hx) (prefix_of_leads hy) hlength
  rw [List.prefix_append_right_inj, List.cons_prefix_cons] at hprefix
  exact hprefix.1

/-- A call is not made again below its children. -/
theorem not_leads_back {a : Call} {x : Nat} {v : String} :
    ¬ Relation.ReflTransGen (s.Leads d) (a.below x v) a := by
  intro h
  have hlength : (a.indices ++ [x]).length ≤ a.indices.length := (prefix_of_leads h).length_le
  rw [List.length_append, List.length_singleton] at hlength
  exact Nat.not_succ_le_self _ hlength

/-- A call that leads to another with its own indices is that other one. -/
theorem eq_of_leads_of_indices_eq {a b : Call} (h : Relation.ReflTransGen (s.Leads d) a b)
    (heq : a.indices = b.indices) : a = b := by
  rcases Relation.ReflTransGen.cases_head h with rfl | ⟨b', hfirst, hrest⟩
  · rfl
  · cases hfirst with
    | @down c x v hnew hc hx =>
      have hprefix : a.indices ++ [x] <+: b.indices := prefix_of_leads hrest
      rw [heq] at hprefix
      exact absurd hprefix.length_le (by simp)

/-- A call leads to every call that is made at its position or below. -/
theorem leads_of_prefix {a b : Call} (ha : s.Calls d trustAnchor a)
    (hb : s.Calls d trustAnchor b) (h : a.indices <+: b.indices) :
    Relation.ReflTransGen (s.Leads d) a b := by
  induction hb generalizing a with
  | refl =>
    have hroot : a.indices = [] := List.prefix_nil.1 h
    rw [eq_of_leads_of_indices_eq ha hroot.symm]
  | @tail b' b hb' hlast ih =>
    cases hlast with
    | @down c x v hnew hc hx =>
      rcases List.prefix_concat_iff.1 h with heq | hshorter
      · -- the call before `a` is the one before `b`, and that lists one URI under the index
        rcases Relation.ReflTransGen.cases_tail ha with rfl | ⟨a', ha', halast⟩
        · exact absurd heq (by simp [Call.first])
        · cases halast with
          | @down c' y w _ hc' hy =>
            obtain ⟨hindices, hxy⟩ := List.append_inj' heq rfl
            obtain rfl : y = x := List.head_eq_of_cons_eq hxy
            have hsame : a' = b' :=
              eq_of_leads_of_indices_eq (ih ha' (hindices ▸ List.prefix_rfl)) hindices
            subst hsame
            obtain rfl := Certifies.unique hc hc'
            rw [hx.unique hy]
      · exact (ih ha hshorter).tail (.down hnew hc hx)

/-! ## Calls and visits -/

/-- A call leads nowhere when its URI lies on the way or has no certificate. -/
theorem not_leads {a b : Call} (h : a.uri ∈ a.lineage ∨ ∀ c, ¬ s.Certifies d a.uri c) :
    ¬ s.Leads d a b := by
  rintro ⟨hnew, hc, -⟩
  rcases h with hmem | hnone
  · exact hnew hmem
  · exact hnone _ hc

/-- From a call that leads nowhere one comes to nothing but the call. -/
theorem leads_star_iff_of_back {a b : Call}
    (h : a.uri ∈ a.lineage ∨ ∀ c, ¬ s.Certifies d a.uri c) :
    Relation.ReflTransGen (s.Leads d) a b ↔ b = a := by
  rw [Relation.ReflTransGen.cases_head_iff]
  constructor
  · rintro (rfl | ⟨b', hfirst, -⟩)
    · rfl
    · exact absurd hfirst (not_leads h)
  · exact fun heq => .inl heq.symm

/-- From any other call one comes to the call, and to what the calls below it lead to. -/
theorem leads_star_iff {a b : Call} {c : ResourceCertificate} (hnew : a.uri ∉ a.lineage)
    (hc : s.Certifies d a.uri c) :
    Relation.ReflTransGen (s.Leads d) a b ↔ (∃ child ∈ (s.children d c).1.zipIdx,
      Relation.ReflTransGen (s.Leads d) (a.below child.2 child.1) b) ∨ b = a := by
  rw [Relation.ReflTransGen.cases_head_iff]
  constructor
  · rintro (rfl | ⟨b', h, hrest⟩)
    · exact .inr rfl
    · cases h with
      | down _ hc' hx =>
        obtain rfl := Certifies.unique hc hc'
        exact .inl ⟨(_, _), mem_zipIdx_children_iff.2 hx, hrest⟩
  · rintro (⟨child, hchild, hrest⟩ | rfl)
    · exact .inr ⟨_, .down hnew hc (mem_zipIdx_children_iff.1 hchild), hrest⟩
    · exact .inl rfl

theorem visits_of_back {a : Call} (h : a.uri ∈ a.lineage ∨ ∀ c, ¬ s.Certifies d a.uri c) :
    s.visits d a.uri a.path a.lineage = [s.answer d a] := by
  by_cases hmem : a.uri ∈ a.lineage
  · rw [visits_of_mem hmem, answer, if_pos hmem]
  · cases hc : s.certificate d a.uri with
    | error fault => rw [visits_of_error hmem hc, answer, if_neg hmem, hc]
    | ok c => exact absurd (certificate_eq_ok_iff.1 hc) ((h.resolve_left hmem) c)

theorem answer_of_certifies {a : Call} {c : ResourceCertificate} (hnew : a.uri ∉ a.lineage)
    (hc : s.Certifies d a.uri c) :
    s.answer d a =
      ⟨a.uri, a.path, .entry (.ofCertificate a.uri c a.path) (s.children d c).2⟩ := by
  rw [answer, if_neg hnew, certificate_eq_ok_iff.2 hc]

/-- **Calls and visits.**  The calls that a call leads to can be listed, each once, so that the
visits of the walk below it are the answers to them. -/
theorem exists_calls_below (uri : String) (lineage : List String) :
    ∀ xs, ∃ calls : List Call, calls.Nodup ∧
      (∀ b, b ∈ calls ↔ Relation.ReflTransGen (s.Leads d) ⟨uri, xs, lineage⟩ b) ∧
      s.visits d uri (.ofIndices xs) lineage = calls.map (s.answer d) := by
  induction uri, lineage using s.walk_induction (d := d) with
  | back uri lineage hback =>
    intro xs
    let a : Call := ⟨uri, xs, lineage⟩
    refine ⟨[a], List.nodup_singleton _, fun b => ?_, visits_of_back (a := a) hback⟩
    rw [List.mem_singleton]
    exact (leads_star_iff_of_back (a := a) hback).symm
  | down uri lineage c hnew hc ih =>
    intro xs
    let a : Call := ⟨uri, xs, lineage⟩
    choose calls hnodup hmem hvisits using ih
    refine ⟨((s.children d c).1.zipIdx.flatMap fun child => calls child.1 (xs ++ [child.2])) ++
      [a], ?_, fun b => ?_, ?_⟩
    · refine List.nodup_append'.2 ⟨List.nodup_flatMap.2 ⟨fun child _ => hnodup _ _, ?_⟩,
        List.nodup_singleton _, ?_⟩
      · refine (pairwise_zipIdx_ne _).imp fun hne b hb hb' => hne ?_
        exact index_unique (a := a) ((hmem _ _ b).1 hb) ((hmem _ _ b).1 hb')
      · intro b hb hself
        obtain ⟨child, _, hb⟩ := List.mem_flatMap.1 hb
        obtain rfl := List.mem_singleton.1 hself
        exact not_leads_back (a := a) ((hmem _ _ a).1 hb)
    · rw [leads_star_iff (a := a) hnew hc, List.mem_append, List.mem_flatMap, List.mem_singleton]
      simp only [hmem]
      rfl
    · rw [visits_of_certifies hnew hc, List.map_append, List.map_flatMap, List.map_singleton,
        answer_of_certifies (a := a) hnew hc]
      simp only [Path.child_ofIndices, hvisits]
      rfl

variable (s d trustAnchor) in
theorem exists_calls : ∃ calls : List Call, calls.Nodup ∧
    (∀ a, a ∈ calls ↔ s.Calls d trustAnchor a) ∧
    s.visitsFrom d trustAnchor = calls.map (s.answer d) :=
  exists_calls_below trustAnchor [] []

theorem entry_answer_iff {a : Call} {e : Entry} : Visit.entry? (s.answer d a) = some e ↔
    a.uri ∉ a.lineage ∧ ∃ c, s.Certifies d a.uri c ∧ e = .ofCertificate a.uri c a.path := by
  by_cases hmem : a.uri ∈ a.lineage
  · simp [answer, Visit.entry?, hmem]
  · cases hc : s.certificate d a.uri with
    | error fault =>
      have hnone : ∀ c, ¬ s.Certifies d a.uri c := by
        intro c h
        cases hc.symm.trans (certificate_eq_ok_iff.2 h)
      simp [answer, Visit.entry?, hmem, hc, hnone]
    | ok c =>
      have hcert : s.Certifies d a.uri c := certificate_eq_ok_iff.1 hc
      rw [answer_of_certifies hmem hcert]
      constructor
      · intro h
        exact ⟨hmem, c, hcert, (Option.some.inj h).symm⟩
      · rintro ⟨-, c', hcert', rfl⟩
        rw [Certifies.unique hcert' hcert]
        rfl

/-- The entries are the answers to the calls whose URI is new on the way and has a certificate. -/
theorem mem_extract_iff_calls {e : Entry} :
    e ∈ s.extract d trustAnchor ↔ ∃ a, s.Calls d trustAnchor a ∧ a.uri ∉ a.lineage ∧
      ∃ c, s.Certifies d a.uri c ∧ e = .ofCertificate a.uri c a.path := by
  obtain ⟨calls, -, hmem, hvisits⟩ := exists_calls s d trustAnchor
  rw [extract, hvisits, List.filterMap_map, List.mem_filterMap]
  simp only [hmem, Function.comp_apply, entry_answer_iff]

/-! ## The depth of the tree -/

theorem finite_certified : (s.certified d).Finite := by
  refine (List.finite_toSet s.uris).subset ?_
  rintro u ⟨c, hc⟩
  exact s.mem_uris_of_certificate d (certificate_eq_ok_iff.2 hc)

/-- A way to a new certificate and that certificate are no more than there are certificates. -/
theorem length_lineage_lt {a : Call} {c : ResourceCertificate} (ha : s.IsLineage d a)
    (hnew : a.uri ∉ a.lineage) (hc : s.Certifies d a.uri c) :
    a.lineage.length < (s.certified d).ncard := by
  have hnodup : (a.uri :: a.lineage).Nodup := List.nodup_cons.2 ⟨hnew, ha.nodup⟩
  have hsubset : {u | u ∈ a.uri :: a.lineage} ⊆ s.certified d := by
    intro u hu
    rcases List.mem_cons.1 hu with rfl | hu
    · exact ⟨c, hc⟩
    · exact ha.certified u hu
  calc a.lineage.length < (a.uri :: a.lineage).length := Nat.lt_succ_self _
    _ = {u | u ∈ a.uri :: a.lineage}.ncard := by
        rw [← List.toFinset_card_of_nodup hnodup, ← Set.ncard_coe_finset, List.coe_toFinset]
    _ ≤ (s.certified d).ncard := Set.ncard_le_ncard hsubset finite_certified

/-- A way has as many certificates as there are indices. -/
theorem length_lineage {a : Call} (h : s.Calls d trustAnchor a) :
    a.lineage.length = a.indices.length := by
  induction h with
  | refl => rfl
  | tail _ hlast ih =>
    cases hlast with
    | down => simp [Call.below, ih]

/-- No entry lies deeper than there are other certificates. -/
theorem depth_lt {e : Entry} (he : e ∈ s.extract d trustAnchor) :
    e.path.depth < (s.certified d).ncard := by
  obtain ⟨a, ha, hnew, c, hc, rfl⟩ := mem_extract_iff_calls.1 he
  show (Path.ofIndices a.indices).depth < _
  rw [Path.depth_ofIndices, ← length_lineage ha]
  exact length_lineage_lt (lineage_of_calls ha) hnew hc

/-! ## The result -/

/-- **The walk ends.**  No series of calls is endless, and the visits are the answers to all calls,
each made once.  The way to every call has distinct URIs, each with a certificate, so entries lie no
deeper than there are other certificates.  A call whose URI lies on the way finds no entry, and
neither entries nor calls are made below it; every other call with a certificate finds its entry
and leads to a call for each URI that is listed, whatever is found elsewhere. -/
theorem walk_ends (s : Snapshot) (d : Decoder) (trustAnchor : String) :
    (WellFounded fun b a => s.Leads d a b) ∧
    (∃ calls : List Call, calls.Nodup ∧ (∀ a, a ∈ calls ↔ s.Calls d trustAnchor a) ∧
      s.visitsFrom d trustAnchor = calls.map (s.answer d)) ∧
    (∀ a, s.Calls d trustAnchor a →
      a.lineage.Nodup ∧ ∀ u ∈ a.lineage, ∃ c, s.Certifies d u c) ∧
    (∀ e ∈ s.extract d trustAnchor, e.path.depth + 1 ≤ {u | ∃ c, s.Certifies d u c}.ncard) ∧
    (∀ a, s.Calls d trustAnchor a → a.uri ∈ a.lineage →
      s.visits d a.uri a.path a.lineage = [⟨a.uri, a.path, .pruned (.cycleDetected a.uri)⟩] ∧
      (∀ b, s.Calls d trustAnchor b → a.path.text.toList <+: b.path.text.toList → b = a) ∧
      ∀ e ∈ s.extract d trustAnchor, ¬ a.path.text.toList <+: e.path.text.toList) ∧
    (∀ a c, s.Calls d trustAnchor a → a.uri ∉ a.lineage → s.Certifies d a.uri c →
      .ofCertificate a.uri c a.path ∈ s.extract d trustAnchor ∧
      ∀ x v, s.Lists d c x v → s.Calls d trustAnchor (a.below x v)) := by
  refine ⟨wellFounded_leads s d, exists_calls s d trustAnchor, fun a ha => ?_, fun e he => ?_,
    fun a ha hmem => ?_, fun a c ha hnew hc => ?_⟩
  · exact ⟨(lineage_of_calls ha).nodup, (lineage_of_calls ha).certified⟩
  · exact depth_lt he
  · -- a call at or below the position of `a` is one that `a` leads to
    have honly : ∀ b, s.Calls d trustAnchor b →
        a.path.text.toList <+: b.path.text.toList → b = a := by
      intro b hb hprefix
      have hleads := leads_of_prefix ha hb (Path.text_prefix_iff.1 hprefix)
      exact (leads_star_iff_of_back (.inl hmem)).1 hleads
    refine ⟨visits_of_mem hmem, honly, fun e he hprefix => ?_⟩
    obtain ⟨b, hb, hnew, c, -, rfl⟩ := mem_extract_iff_calls.1 he
    obtain rfl := honly b hb hprefix
    exact hnew hmem
  · refine ⟨mem_extract_iff_calls.2 ⟨a, ha, hnew, c, hc, rfl⟩, fun x v hx => ?_⟩
    exact Relation.ReflTransGen.tail ha (.down hnew hc hx)

end RpkiOverlap.Snapshot
