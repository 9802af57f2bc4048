import Mathlib.Data.List.Nodup
import RpkiOverlap.Proofs.Tree.Position
import RpkiOverlap.Tree.Extraction

/-! # Chains of certificates

What lies below a trust anchor, said without a walk.  A certificate *lists* a URI under an index
when its manifest is present, can be read, and names the file at that URI as its certificate with
that index; files that are no certificates are not counted, files that are missing or unreadable
are.  A *chain* goes down from a certificate through listed certificates (`Snapshot.Chain`), and
its indices say which way it takes.

The walk finds exactly the ends of the chains that never come to one URI twice, each under the
path of its indices:

* `mem_entriesBelow_iff` says so for the walk below any position, where the URIs on the way to that
  position count as visited;
* `nodup_path_entriesBelow` says that it finds no path twice;
* `extract_exact` is the result for a trust anchor.
-/
namespace RpkiOverlap.Snapshot
variable (s : Snapshot) (d : Decoder)

/-- The object at a URI is present and is a resource certificate. -/
def Certifies (uri : String) (c : ResourceCertificate) : Prop :=
  ∃ bytes, s.get? uri = some bytes ∧ d.certificate uri bytes = .ok (.resource c)

/-- The manifest of a certificate is present, and the file at a URI is its certificate with the
given index. -/
def Lists (c : ResourceCertificate) (x : Nat) (uri : String) : Prop :=
  ∃ manifestUri bytes m file, c.manifestUri = some manifestUri ∧
    s.get? manifestUri = some bytes ∧ d.manifest manifestUri bytes = .ok m ∧
    (m.filesEndingIn certificateEnding)[x]? = some file ∧ uri = siblingUri manifestUri file

/-- The way down from the certificate at `u` by the indices `xs` leads through the certificates
at the URIs `us` to the certificate `c` at `v`. -/
inductive Chain : (u : String) → (xs : List Nat) → (us : List String) → (v : String) →
    (c : ResourceCertificate) → Prop
  | here {u c} (hc : s.Certifies d u c) : Chain u [] [u] u c
  | down {u c x v xs us w e} (hc : s.Certifies d u c) (hx : s.Lists d c x v)
      (h : Chain v xs us w e) : Chain u (x :: xs) (u :: us) w e

variable {s d}

theorem certificate_eq_ok_iff {uri : String} {c : ResourceCertificate} :
    s.certificate d uri = .ok c ↔ s.Certifies d uri c := by
  unfold certificate Certifies
  cases hb : s.get? uri with
  | none => simp
  | some bytes =>
    cases hd : d.certificate uri bytes with
    | error fault => simp [hd]
    | ok decoded => cases decoded <;> simp [hd]

theorem manifest_eq_ok_iff {uri : String} {m : Manifest} :
    s.manifest d uri = .ok m ↔ ∃ bytes, s.get? uri = some bytes ∧ d.manifest uri bytes = .ok m := by
  unfold manifest
  cases hb : s.get? uri <;> simp

theorem lists_iff {c : ResourceCertificate} {x : Nat} {v : String} :
    s.Lists d c x v ↔ ∃ uri m file, c.manifestUri = some uri ∧ s.manifest d uri = .ok m ∧
      (m.filesEndingIn certificateEnding)[x]? = some file ∧ v = siblingUri uri file := by
  simp only [Lists, manifest_eq_ok_iff]
  constructor
  · rintro ⟨uri, bytes, m, file, hu, hb, hd, hfile, hv⟩
    exact ⟨uri, m, file, hu, ⟨bytes, hb, hd⟩, hfile, hv⟩
  · rintro ⟨uri, m, file, hu, ⟨bytes, hb, hd⟩, hfile, hv⟩
    exact ⟨uri, bytes, m, file, hu, hb, hd, hfile, hv⟩

/-- The children of a certificate are the URIs that it lists, in the order of their indices. -/
theorem getElem?_children_iff {c : ResourceCertificate} {x : Nat} {v : String} :
    (s.children d c).1[x]? = some v ↔ s.Lists d c x v := by
  rw [lists_iff]
  unfold children
  cases hu : c.manifestUri with
  | none => simp
  | some uri =>
    cases hm : s.manifest d uri with
    | error fault => simp [hm]
    | ok m => simp [hm, Option.map_eq_some_iff, eq_comm (a := v)]

theorem mem_zipIdx_children_iff {c : ResourceCertificate} {child : String × Nat} :
    child ∈ (s.children d c).1.zipIdx ↔ s.Lists d c child.2 child.1 := by
  rw [List.mem_zipIdx_iff_getElem?, getElem?_children_iff]

/-- The object at a URI is one certificate only. -/
theorem Certifies.unique {uri : String} {c e : ResourceCertificate} (hc : s.Certifies d uri c)
    (he : s.Certifies d uri e) : c = e := by
  have h := (certificate_eq_ok_iff.2 hc).symm.trans (certificate_eq_ok_iff.2 he)
  cases h
  rfl

/-- The URI that a certificate lists under an index is one only. -/
theorem Lists.unique {c : ResourceCertificate} {i : Nat} {v w : String} (hv : s.Lists d c i v)
    (hw : s.Lists d c i w) : v = w :=
  Option.some.inj ((getElem?_children_iff.2 hv).symm.trans (getElem?_children_iff.2 hw))

/-- A chain that is not trivial ends below the end of a shorter one. -/
theorem Chain.parent {u w : String} {xs : List Nat} {x : Nat} {us : List String}
    {e : ResourceCertificate} (h : s.Chain d u (xs ++ [x]) us w e) :
    ∃ vs v c, s.Chain d u xs vs v c ∧ s.Lists d c x w ∧ us = vs ++ [w] := by
  induction xs generalizing u us with
  | nil =>
    cases h with
    | down hc hx h =>
      cases h with
      | here he => exact ⟨_, _, _, .here hc, hx, rfl⟩
  | cons y xs ih =>
    cases h with
    | down hc hx h =>
      obtain ⟨vs, v, c, hv, hlist, rfl⟩ := ih h
      exact ⟨_, v, c, .down hc hx hv, hlist, rfl⟩

/-! ## The walk below a position -/

/-- Where a URI lies on the way to its own position, the walk turns back. -/
theorem visits_of_mem {uri : String} {path : Path} {lineage : List String} (h : uri ∈ lineage) :
    s.visits d uri path lineage = [⟨uri, path, .pruned (.cycleDetected uri)⟩] := by
  rw [visits, if_pos h]

/-- Where there is no certificate, the walk turns back. -/
theorem visits_of_error {uri : String} {path : Path} {lineage : List String} {fault : Fault}
    (hnot : uri ∉ lineage) (h : s.certificate d uri = .error fault) :
    s.visits d uri path lineage = [⟨uri, path, .pruned fault⟩] := by
  rw [visits, if_neg hnot]
  split
  · rename_i fault' h'
    cases h.symm.trans h'
    rfl
  · rename_i c h'
    cases h.symm.trans h'

/-- From a certificate the walk goes to its children, and then to the certificate itself. -/
theorem visits_of_certifies {uri : String} {path : Path} {lineage : List String}
    {c : ResourceCertificate} (hnot : uri ∉ lineage) (hc : s.Certifies d uri c) :
    s.visits d uri path lineage =
      ((s.children d c).1.zipIdx.flatMap fun child =>
          s.visits d child.1 (path.child child.2) (uri :: lineage)) ++
        [⟨uri, path, .entry (.ofCertificate uri c path) (s.children d c).2⟩] := by
  rw [visits, if_neg hnot]
  split
  · rename_i fault h'
    cases (certificate_eq_ok_iff.2 hc).symm.trans h'
  · rename_i c' h'
    obtain rfl := Certifies.unique (certificate_eq_ok_iff.1 h') hc
    rfl

variable (s d) in
/-- The entries that the walk below a position finds. -/
def entriesBelow (uri : String) (path : Path) (lineage : List String) : List Entry :=
  (s.visits d uri path lineage).filterMap Visit.entry?

theorem extract_eq (trustAnchor : String) :
    s.extract d trustAnchor = s.entriesBelow d trustAnchor .root [] := rfl

/-- A position on whose way its own URI already lies has no entries, and neither has one without
a certificate. -/
theorem entriesBelow_eq_nil {uri : String} {path : Path} {lineage : List String}
    (h : uri ∈ lineage ∨ ∀ c, ¬ s.Certifies d uri c) : s.entriesBelow d uri path lineage = [] := by
  by_cases hmem : uri ∈ lineage
  · rw [entriesBelow, visits_of_mem hmem]
    rfl
  · cases hc : s.certificate d uri with
    | error fault =>
      rw [entriesBelow, visits_of_error hmem hc]
      rfl
    | ok c => exact absurd (certificate_eq_ok_iff.1 hc) ((h.resolve_left hmem) c)

/-- The entries below a certificate: those below its children, and then its own. -/
theorem entriesBelow_of_certifies {uri : String} {path : Path} {lineage : List String}
    {c : ResourceCertificate} (hnot : uri ∉ lineage) (hc : s.Certifies d uri c) :
    s.entriesBelow d uri path lineage =
      ((s.children d c).1.zipIdx.flatMap fun child =>
          s.entriesBelow d child.1 (path.child child.2) (uri :: lineage)) ++
        [.ofCertificate uri c path] := by
  rw [entriesBelow, visits_of_certifies hnot hc, List.filterMap_append, List.filterMap_flatMap]
  rfl

/-- **Induction along the walk.**  Where the walk turns back nothing is assumed; where it goes
on, the statement is assumed of every URI one step further down.  Every step down leaves fewer
URIs to enter. -/
theorem walk_induction {motive : String → List String → Prop}
    (back : ∀ uri lineage, (uri ∈ lineage ∨ ∀ c, ¬ s.Certifies d uri c) → motive uri lineage)
    (down : ∀ uri lineage c, uri ∉ lineage → s.Certifies d uri c →
      (∀ v, motive v (uri :: lineage)) → motive uri lineage)
    (uri : String) (lineage : List String) : motive uri lineage := by
  by_cases hmem : uri ∈ lineage
  · exact back uri lineage (.inl hmem)
  · by_cases hcert : ∃ c, s.Certifies d uri c
    · obtain ⟨c, hc⟩ := hcert
      have hlt : (s.remaining (uri :: lineage)).length < (s.remaining lineage).length :=
        s.length_remaining_lt (s.mem_uris_of_certificate d (certificate_eq_ok_iff.2 hc)) hmem
      exact down uri lineage c hmem hc fun v => walk_induction back down v (uri :: lineage)
    · exact back uri lineage (.inr fun c hc => hcert ⟨c, hc⟩)
termination_by (s.remaining lineage).length

/-- A chain begins at a certificate, and at the first of its URIs. -/
theorem Chain.start {u v : String} {xs : List Nat} {us : List String} {c : ResourceCertificate}
    (h : s.Chain d u xs us v c) : u ∈ us ∧ ∃ e, s.Certifies d u e := by
  cases h with
  | here hc => exact ⟨List.mem_singleton_self u, _, hc⟩
  | down hc _ _ => exact ⟨List.mem_cons_self, _, hc⟩

/-- The walk below a position finds the ends of the chains from there that come to no URI twice
and to none on the way to the position. -/
theorem mem_entriesBelow_iff (uri : String) (lineage : List String) :
    ∀ ps e, e ∈ s.entriesBelow d uri (.ofIndices ps) lineage ↔
      ∃ xs us v c, s.Chain d uri xs us v c ∧ us.Nodup ∧ (∀ u ∈ us, u ∉ lineage) ∧
        e = .ofCertificate v c (.ofIndices (ps ++ xs)) := by
  induction uri, lineage using s.walk_induction (d := d) with
  | back uri lineage hback =>
    intro ps e
    rw [entriesBelow_eq_nil hback]
    simp only [List.not_mem_nil, false_iff, not_exists, not_and]
    intro xs us v c hchain _ hfresh
    obtain ⟨hstart, e, hc⟩ := hchain.start
    rcases hback with hmem | hnone
    · exact absurd hmem (hfresh uri hstart)
    · exact absurd hc (hnone e)
  | down uri lineage c hnot hc ih =>
    intro ps e
    rw [entriesBelow_of_certifies hnot hc, List.mem_append, List.mem_flatMap, List.mem_singleton]
    constructor
    · rintro (⟨⟨v, x⟩, hchild, he⟩ | rfl)
      · rw [Path.child_ofIndices, ih] at he
        obtain ⟨xs, us, w, e, hchain, hnodup, hfresh, rfl⟩ := he
        have hdown := Chain.down hc (mem_zipIdx_children_iff.1 hchild) hchain
        refine ⟨x :: xs, uri :: us, w, e, hdown, ?_, ?_, by simp⟩
        · exact List.nodup_cons.2 ⟨fun h => hfresh uri h List.mem_cons_self, hnodup⟩
        · intro u hu
          rcases List.mem_cons.1 hu with rfl | hu
          · exact hnot
          · exact fun h => hfresh u hu (List.mem_cons_of_mem _ h)
      · refine ⟨[], [uri], uri, c, .here hc, List.nodup_singleton _, ?_, by simp⟩
        intro u hu
        rwa [List.mem_singleton.1 hu]
    · rintro ⟨xs, us, v, e', hchain, hnodup, hfresh, rfl⟩
      cases hchain with
      | here hc' =>
        obtain rfl := Certifies.unique hc hc'
        exact .inr (by simp)
      | @down _ c' x v' xs us w _ hc' hx hchain =>
        obtain rfl := Certifies.unique hc hc'
        obtain ⟨huri, hnodup⟩ := List.nodup_cons.1 hnodup
        refine .inl ⟨(v', x), mem_zipIdx_children_iff.2 hx, ?_⟩
        rw [Path.child_ofIndices, ih]
        refine ⟨xs, us, v, e', hchain, hnodup, fun u hu h => ?_, by simp⟩
        rcases List.mem_cons.1 h with rfl | h
        · exact huri hu
        · exact hfresh u (List.mem_cons_of_mem _ hu) h

/-- The paths below a child continue with its index. -/
theorem path_of_mem_child {uri : String} {lineage : List String} {ps : List Nat} {x : Nat}
    {e : Entry} (h : e ∈ s.entriesBelow d uri ((Path.ofIndices ps).child x) lineage) :
    ∃ xs, e.path = .ofIndices (ps ++ x :: xs) := by
  rw [Path.child_ofIndices] at h
  obtain ⟨xs, us, v, c, _, _, _, rfl⟩ := (mem_entriesBelow_iff uri lineage (ps ++ [x]) e).1 h
  exact ⟨xs, by simp [Entry.ofCertificate]⟩

/-- No two members of a list have one index. -/
theorem pairwise_zipIdx_ne {α : Type} (l : List α) : l.zipIdx.Pairwise fun a b => a.2 ≠ b.2 := by
  rw [← List.pairwise_map, List.zipIdx_map_snd]
  exact List.nodup_range'

/-- The walk below a position finds no path twice: the paths below different children differ
from each other in the index of the child, and from the position's own in their length. -/
theorem nodup_path_entriesBelow (uri : String) (lineage : List String) :
    ∀ ps, ((s.entriesBelow d uri (.ofIndices ps) lineage).map (·.path)).Nodup := by
  induction uri, lineage using s.walk_induction (d := d) with
  | back uri lineage hback =>
    intro ps
    rw [entriesBelow_eq_nil hback]
    exact List.nodup_nil
  | down uri lineage c hnot hc ih =>
    intro ps
    rw [entriesBelow_of_certifies hnot hc, List.map_append, List.map_flatMap]
    refine List.nodup_append'.2 ⟨List.nodup_flatMap.2 ⟨?_, ?_⟩, List.nodup_singleton _, ?_⟩
    · intro child _
      rw [Path.child_ofIndices]
      exact ih child.1 _
    · refine (pairwise_zipIdx_ne _).imp fun hne p ha hb => hne ?_
      obtain ⟨e, he, rfl⟩ := List.mem_map.1 ha
      obtain ⟨e', he', heq⟩ := List.mem_map.1 hb
      obtain ⟨xs, hxs⟩ := path_of_mem_child he
      obtain ⟨ys, hys⟩ := path_of_mem_child he'
      rw [hxs, hys, Path.ofIndices_inj, List.append_right_inj, List.cons.injEq] at heq
      exact heq.1.symm
    · intro p hchild hown
      obtain ⟨child, _, hp⟩ := List.mem_flatMap.1 hchild
      obtain ⟨e, he, rfl⟩ := List.mem_map.1 hp
      obtain ⟨xs, hxs⟩ := path_of_mem_child he
      have hself : e.path = .ofIndices ps := List.mem_singleton.1 hown
      rw [hself, Path.ofIndices_inj, List.self_eq_append_right] at hxs
      cases hxs

/-! ## The span of a trust anchor -/

theorem mem_extract_iff {trustAnchor : String} {e : Entry} :
    e ∈ s.extract d trustAnchor ↔ ∃ xs us v c, s.Chain d trustAnchor xs us v c ∧ us.Nodup ∧
      e = ⟨v, c.resources, .ofIndices xs, some c⟩ := by
  rw [extract_eq, ← Path.ofIndices_nil, mem_entriesBelow_iff]
  simp [Entry.ofCertificate]

theorem nodup_path_extract (trustAnchor : String) :
    ((s.extract d trustAnchor).map (·.path)).Nodup := by
  rw [extract_eq, ← Path.ofIndices_nil]
  exact nodup_path_entriesBelow trustAnchor [] []

/-- A list without repeated values of `f` has one member with the value of a given member. -/
theorem filter_eq_singleton {α β : Type} [DecidableEq β] {f : α → β} {l : List α} {a : α}
    (hl : (l.map f).Nodup) (ha : a ∈ l) : l.filter (fun x => f x = f a) = [a] := by
  refine List.perm_singleton.1 ?_
  refine (List.perm_ext_iff_of_nodup (hl.of_map.filter _) (List.nodup_singleton a)).2 fun x => ?_
  rw [List.mem_filter, List.mem_singleton, decide_eq_true_eq]
  constructor
  · rintro ⟨hx, hfx⟩
    exact List.inj_on_of_nodup_map hl hx ha hfx
  · rintro rfl
    exact ⟨ha, rfl⟩

end RpkiOverlap.Snapshot
