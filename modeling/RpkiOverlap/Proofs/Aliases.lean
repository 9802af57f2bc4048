import RpkiOverlap.Proofs.Analysis
import RpkiOverlap.Proofs.Document
import RpkiOverlap.Proofs.Overlap.Report
import RpkiOverlap.Proofs.Result
import RpkiOverlap.Proofs.Tree.Damage

/-! # How often a report names a URI

A report tells the members of overlaps apart by path and names each by its URI.  So an object that
is listed twice, by one manifest or by two, may be named twice.

* Two chains to one URI are in conflict, if the certificate there has any resources: neither of them
  begins with the other (`Reaches.eq_of_prefix`), and they end at one certificate.
* Where no object is listed twice there is one chain to a URI at most (`ListsOnce.chain_unique`).
* A URI is named once for each chain to it whose end is a member (`Exact.count_overlappingUris`).
* Two members with one URI have a cluster of their own, which is reported as well, unless the period
  of grace is against it (`Exact.exists_mem_clusters_of_chainsTo`).

`overlappingUris_exact` puts this together, and `not_nodup_overlappingUris_listedTwice` shows a URI
that is named twice.
-/
namespace RpkiOverlap

/-- The end of a chain is known by its URI, its certificate and its indices. -/
theorem Entry.ofCertificate_ofIndices_inj {v w : String} {c e : ResourceCertificate}
    {xs ys : List Nat} : ofCertificate v c (.ofIndices xs) = ofCertificate w e (.ofIndices ys) ↔
      v = w ∧ c = e ∧ xs = ys := by
  simp only [ofCertificate, Entry.mk.injEq, Option.some.injEq, Path.ofIndices_inj]
  constructor
  · rintro ⟨rfl, -, rfl, rfl⟩
    exact ⟨rfl, rfl, rfl⟩
  · rintro ⟨rfl, rfl, rfl⟩
    exact ⟨rfl, rfl, rfl, rfl⟩

namespace Snapshot
variable {s : Snapshot} {d : Decoder} {trustAnchor : String}

/-! ## Chains to one URI -/

/-- A chain ends at a certificate, and at the last of its URIs. -/
theorem Chain.finish {u v : String} {xs : List Nat} {us : List String} {c : ResourceCertificate}
    (h : s.Chain d u xs us v c) : v ∈ us ∧ s.Certifies d v c := by
  induction h with
  | here hc => exact ⟨List.mem_singleton_self _, hc⟩
  | down _ _ _ ih => exact ⟨List.mem_cons_of_mem _ ih.1, ih.2⟩

/-- A chain that goes on from the end of another and comes to no URI twice does not end there. -/
theorem Chain.eq_of_prefix {u v : String} {xs ys : List Nat} {us us' : List String}
    {c e : ResourceCertificate} (h : s.Chain d u xs us v c) (h' : s.Chain d u ys us' v e)
    (hnodup : us'.Nodup) (hbegins : xs <+: ys) : xs = ys := by
  induction h generalizing ys us' with
  | here hc =>
    cases h' with
    | here _ => rfl
    | down _ _ htail => exact absurd htail.finish.1 (List.nodup_cons.1 hnodup).1
  | down hc hx _ ih =>
    cases h' with
    | here _ => exact absurd hbegins (by simp)
    | down hc' hx' htail =>
      obtain ⟨rfl, htails⟩ := List.cons_prefix_cons.1 hbegins
      obtain rfl := hc.unique hc'
      obtain rfl := hx.unique hx'
      rw [ih htail hnodup.of_cons htails]

section
variable {xs ys : List Nat} {x : Nat} {v : String} {c e : ResourceCertificate}

theorem Reaches.certifies (h : s.Reaches d trustAnchor xs v c) : s.Certifies d v c := by
  obtain ⟨us, hchain, -⟩ := h
  exact hchain.finish.2

theorem Reaches.parent (h : s.Reaches d trustAnchor (xs ++ [x]) v c) :
    ∃ u b, s.Reaches d trustAnchor xs u b ∧ s.Lists d b x v := by
  obtain ⟨us, hchain, hnodup⟩ := h
  obtain ⟨vs, u, b, hparent, hlists, rfl⟩ := hchain.parent
  exact ⟨u, b, ⟨vs, hparent, (List.nodup_append'.1 hnodup).1⟩, hlists⟩

/-- Of two chains to one URI, neither begins with the other. -/
theorem Reaches.eq_of_prefix (h : s.Reaches d trustAnchor xs v c)
    (h' : s.Reaches d trustAnchor ys v e) (hbegins : xs <+: ys) : xs = ys := by
  obtain ⟨us, hchain, -⟩ := h
  obtain ⟨us', hchain', hnodup⟩ := h'
  exact hchain.eq_of_prefix hchain' hnodup hbegins

/-- Two chains to one URI are in conflict, if the certificate there has any resources. -/
theorem Reaches.conflict (h : s.Reaches d trustAnchor xs v c) (h' : s.Reaches d trustAnchor ys v c)
    (hne : xs ≠ ys) (hc : ∃ f n, c.resources.Has f n) : Conflict xs c ys c := by
  obtain ⟨f, n, hn⟩ := hc
  exact ⟨fun hp => hne (h.eq_of_prefix h' hp), fun hp => hne (h'.eq_of_prefix h hp).symm,
    f, n, hn, hn⟩

end

variable (s d) in
/-- No object is listed twice, neither by the manifest of one certificate nor by those of two. -/
def ListsOnce : Prop :=
  ∀ u b x u' b' x' v, s.Certifies d u b → s.Lists d b x v → s.Certifies d u' b' →
    s.Lists d b' x' v → u = u' ∧ x = x'

/-- Where no object is listed twice, there is one chain to a URI at most. -/
theorem ListsOnce.chain_unique (hs : s.ListsOnce d) {xs ys : List Nat} {v : String}
    {c e : ResourceCertificate} (h : s.Reaches d trustAnchor xs v c)
    (h' : s.Reaches d trustAnchor ys v e) : xs = ys := by
  induction xs using List.reverseRecOn generalizing ys v c e with
  | nil => exact h.eq_of_prefix h' List.nil_prefix
  | append_singleton xs x ih =>
    rcases List.eq_nil_or_concat ys with rfl | ⟨ys, y, rfl⟩
    · exact (h'.eq_of_prefix h List.nil_prefix).symm
    · rw [List.concat_eq_append] at h' ⊢
      obtain ⟨u, b, hu, hlists⟩ := h.parent
      obtain ⟨u', b', hu', hlists'⟩ := h'.parent
      obtain ⟨rfl, rfl⟩ := hs _ _ _ _ _ _ _ hu.certifies hlists hu'.certifies hlists'
      rw [ih hu hu']

variable (s d trustAnchor) in
/-- The chains to a URI whose ends are members of some clusters. -/
def chainsTo (clusters : List Cluster) (uri : String) : Set (List Nat) :=
  {xs | ∃ c, s.Reaches d trustAnchor xs uri c ∧
    ∃ k ∈ clusters, .ofCertificate uri c (.ofIndices xs) ∈ k.members}

theorem finite_chainsTo {clusters : List Cluster} {uri : String} :
    (s.chainsTo d trustAnchor clusters uri).Finite :=
  finite_span.subset fun _ ⟨c, h, _⟩ => ⟨uri, c, h⟩

/-- The members of an overlap are ends of chains in few enough conflicts, and have resources. -/
theorem Overlaps.exists_reaches {limits : Limits} {k : Cluster} {m : Entry}
    (hk : s.Overlaps d trustAnchor limits k) (hm : m ∈ k.members) :
    ∃ xs v c, s.Reaches d trustAnchor xs v c ∧ m = .ofCertificate v c (.ofIndices xs) ∧
      (s.conflictsOf d trustAnchor xs).ncard ≤ limits.perCertificate ∧
      ∃ f n, c.resources.Has f n := by
  obtain ⟨xs, v, c, ys, w, e, hx, hy, ⟨-, -, f, n, hcn, hen⟩, hdx, hdy, -, rfl⟩ := hk
  rcases List.mem_pair.1 hm with rfl | rfl
  · exact ⟨xs, v, c, hx, rfl, hdx, f, n, hcn⟩
  · exact ⟨ys, w, e, hy, rfl, hdy, f, n, hen⟩

theorem Overlaps.of_mem {limits : Limits} {k : Cluster} {xs : List Nat} {v : String}
    {c : ResourceCertificate} (hk : s.Overlaps d trustAnchor limits k)
    (hm : .ofCertificate v c (.ofIndices xs) ∈ k.members) :
    (s.conflictsOf d trustAnchor xs).ncard ≤ limits.perCertificate ∧
      ∃ f n, c.resources.Has f n := by
  obtain ⟨xs', v', c', -, heq, hfew, hc⟩ := hk.exists_reaches hm
  obtain ⟨rfl, rfl, rfl⟩ := Entry.ofCertificate_ofIndices_inj.1 heq
  exact ⟨hfew, hc⟩

end Snapshot

/-- Without a period of grace, what is wanted of a cluster depends on nothing but the URIs and the
manifests of its members. -/
theorem Config.Wants.of_members {config : Config} {now : Time.Instant} {k l : Cluster} {m : Entry}
    (h : config.Wants now k) (hgrace : config.grace = none) (hm : m ∈ k.members)
    (hl : ∀ m' ∈ l.members, m'.uri = m.uri ∧ m'.manifestUri? = m.manifestUri?) :
    config.Wants now l where
  not_ignored m' hm' := (hl m' hm').1 ▸ h.not_ignored m hm
  tracked htracked m' hm' := (hl m' hm').2 ▸ h.tracked htracked m hm
  recent g hg := by
    rw [hgrace] at hg
    cases hg

namespace Report

theorem firstByPath_sublist (seen : List Path) (es : List Entry) :
    (firstByPath seen es).Sublist es := by
  induction es generalizing seen with
  | nil => exact .slnil
  | cons e rest ih =>
    rw [firstByPath]
    split
    · exact (ih _).cons e
    · exact (ih _).cons_cons e

end Report

namespace Analysis
open Snapshot (Reaches Overlaps chainsTo)
variable {s : Snapshot} {d : Decoder} {config : Config} {now : Time.Instant} {a : Analysis}

/-- An analysis that has a result is exact. -/
theorem exact_of_run (h : (run s d config now).1 = .ok a) : Exact s d config now a := by
  rw [fst_run] at h
  rcases Nat.lt_or_ge config.limits.total (candidates (s.extract d config.trustAnchor)).length
    with hlt | hle
  · rw [detect_of_lt hlt] at h
    cases h
  · rw [detect_of_le hle] at h
    cases h
    exact exact_ofScan hle (detect_of_le hle)

namespace Exact

theorem mem_extract (h : Exact s d config now a) {m : Entry}
    (hm : m ∈ Report.membersOf a.report.clusters) : m ∈ s.extract d config.trustAnchor := by
  obtain ⟨k, hk, hm⟩ := List.mem_flatMap.1 hm
  obtain ⟨xs, v, c, hreaches, rfl, -⟩ := ((h.clusters k).1 hk).1.exists_reaches hm
  exact Snapshot.mem_extract_iff_reaches.2 ⟨xs, v, c, hreaches, rfl⟩

/-- The paths under which a URI is named are those of the chains to it. -/
theorem image_chainsTo (h : Exact s d config now a) (uri : String) :
    Path.ofIndices '' s.chainsTo d config.trustAnchor a.report.clusters uri =
      {p | p ∈ ((Report.firstByPath [] (Report.membersOf a.report.clusters)).filter
        fun m => m.uri == uri).map (·.path)} := by
  ext p
  simp only [Set.mem_image, Set.mem_ofPred_eq, List.mem_map, List.mem_filter, beq_iff_eq]
  constructor
  · rintro ⟨xs, ⟨c, hreaches, k, hk, hm⟩, rfl⟩
    have hmember := List.mem_flatMap.2 ⟨k, hk, hm⟩
    obtain ⟨m, hfirst, hpath⟩ := List.mem_map.1 <|
      Report.mem_map_path_firstByPath.2 ⟨List.mem_map_of_mem hmember, List.not_mem_nil⟩
    -- an entry is known by its path
    obtain rfl := List.inj_on_of_nodup_map (s.nodup_path_extract config.trustAnchor)
      (h.mem_extract ((Report.firstByPath_sublist _ _).subset hfirst)) (h.mem_extract hmember) hpath
    exact ⟨_, ⟨hfirst, rfl⟩, rfl⟩
  · rintro ⟨m, ⟨hfirst, rfl⟩, rfl⟩
    obtain ⟨k, hk, hm⟩ := List.mem_flatMap.1 ((Report.firstByPath_sublist _ _).subset hfirst)
    obtain ⟨xs, v, c, hreaches, rfl, -⟩ := ((h.clusters k).1 hk).1.exists_reaches hm
    exact ⟨xs, ⟨c, hreaches, k, hk, hm⟩, rfl⟩

/-- A URI is named once for each chain to it whose end is a member. -/
theorem count_overlappingUris (h : Exact s d config now a) (uri : String) :
    a.report.overlappingUris.count uri =
      (s.chainsTo d config.trustAnchor a.report.clusters uri).ncard := by
  have hnodup : (((Report.firstByPath [] (Report.membersOf a.report.clusters)).filter
      fun m => m.uri == uri).map (·.path)).Nodup :=
    (Report.nodup_map_path_firstByPath _ _).sublist (List.filter_sublist.map _)
  rw [← Set.ncard_image_of_injective _ Path.ofIndices_injective, h.image_chainsTo,
    ← length_eq_ncard hnodup, List.length_map, Report.overlappingUris, List.count,
    List.countP_map, List.countP_eq_length_filter]
  rfl

theorem nodup_overlappingUris_iff (h : Exact s d config now a) :
    a.report.overlappingUris.Nodup ↔
      ∀ uri, (s.chainsTo d config.trustAnchor a.report.clusters uri).Subsingleton := by
  rw [List.nodup_iff_count_le_one]
  refine forall_congr' fun uri => ?_
  have hfinite : (s.chainsTo d config.trustAnchor a.report.clusters uri).Finite :=
    Snapshot.finite_chainsTo
  have := hfinite.to_subtype
  rw [h.count_overlappingUris, Set.ncard_le_one_iff_subsingleton]

/-- The members of a cluster are ends of different chains. -/
theorem uri_ne_of_mem_clusters (h : Exact s d config now a)
    (hnodup : a.report.overlappingUris.Nodup) {k : Cluster} (hk : k ∈ a.report.clusters) :
    k.first.uri ≠ k.second.uri := by
  intro huri
  obtain ⟨xs, v, c, ys, w, e, hx, hy, ⟨hbegins, -⟩, -, -, -, rfl⟩ := ((h.clusters k).1 hk).1
  obtain rfl : v = w := huri
  have hxs : xs ∈ s.chainsTo d config.trustAnchor a.report.clusters v :=
    ⟨c, hx, _, hk, List.mem_pair.2 (.inl rfl)⟩
  have hys : ys ∈ s.chainsTo d config.trustAnchor a.report.clusters v :=
    ⟨e, hy, _, hk, List.mem_pair.2 (.inr rfl)⟩
  exact hbegins (h.nodup_overlappingUris_iff.1 hnodup v hxs hys ▸ List.prefix_rfl)

/-- Without a period of grace, two members with one URI have a cluster of their own. -/
theorem exists_mem_clusters_of_chainsTo (h : Exact s d config now a) (hgrace : config.grace = none)
    {uri : String} {xs ys : List Nat}
    (hxs : xs ∈ s.chainsTo d config.trustAnchor a.report.clusters uri)
    (hys : ys ∈ s.chainsTo d config.trustAnchor a.report.clusters uri)
    (hlt : (Path.ofIndices xs).text < (Path.ofIndices ys).text) :
    ∃ k ∈ a.report.clusters, k.first.uri = k.second.uri := by
  obtain ⟨c, hx, k, hk, hmx⟩ := hxs
  obtain ⟨e, hy, l, hl, hmy⟩ := hys
  obtain rfl := hx.certifies.unique hy.certifies
  obtain ⟨hoverlaps, hwants⟩ := (h.clusters k).1 hk
  obtain ⟨hdx, hc⟩ := hoverlaps.of_mem hmx
  obtain ⟨hdy, -⟩ := ((h.clusters l).1 hl).1.of_mem hmy
  have hne : xs ≠ ys := fun heq => ne_of_lt hlt (congrArg (fun zs => (Path.ofIndices zs).text) heq)
  refine ⟨⟨.ofCertificate uri c (.ofIndices xs), .ofCertificate uri c (.ofIndices ys),
    c.resources.inter c.resources⟩, (h.clusters _).2 ⟨?_, ?_⟩, rfl⟩
  · exact ⟨xs, uri, c, ys, uri, c, hx, hy, hx.conflict hy hne hc, hdx, hdy, hlt, rfl⟩
  · refine hwants.of_members hgrace hmx fun m hm => ?_
    rcases List.mem_pair.1 hm with rfl | rfl
    · exact ⟨rfl, rfl⟩
    · exact ⟨rfl, rfl⟩

/-- Where no object is listed twice, no URI is named twice. -/
theorem nodup_of_listsOnce (h : Exact s d config now a) (hs : s.ListsOnce d) :
    a.report.overlappingUris.Nodup := by
  refine h.nodup_overlappingUris_iff.2 fun uri xs hxs ys hys => ?_
  obtain ⟨c, hx, -⟩ := hxs
  obtain ⟨e, hy, -⟩ := hys
  exact hs.chain_unique hx hy

/-- Without a period of grace, a URI that is named twice shows in a cluster that joins it with
itself. -/
theorem nodup_of_uri_ne (h : Exact s d config now a) (hgrace : config.grace = none)
    (hne : ∀ k ∈ a.report.clusters, k.first.uri ≠ k.second.uri) :
    a.report.overlappingUris.Nodup := by
  refine h.nodup_overlappingUris_iff.2 fun uri xs hxs ys hys => ?_
  by_contra hdistinct
  have htext : (Path.ofIndices xs).text ≠ (Path.ofIndices ys).text := fun heq =>
    hdistinct (Path.ofIndices_injective (congrArg Path.mk heq))
  -- the member with the earlier path comes first
  obtain ⟨k, hk, huri⟩ : ∃ k ∈ a.report.clusters, k.first.uri = k.second.uri := by
    rcases lt_or_gt_of_ne htext with hlt | hgt
    · exact h.exists_mem_clusters_of_chainsTo hgrace hxs hys hlt
    · exact h.exists_mem_clusters_of_chainsTo hgrace hys hxs hgt
  exact hne k hk huri

end Exact

/-! ## One certificate listed twice -/

/-- A certificate of one AS number, valid in 2024. -/
def oneNumber (subject : String) (manifestUri : Option String) : ResourceCertificate where
  subject
  resources := .ofList [.asn (.single 64500 (by decide))]
  manifestUri
  notBefore := (Time.Instant.of? 1704067200 0).get (by decide)
  notAfter := (Time.Instant.of? 1735689600 0).get (by decide)

/-- The documents of a trust anchor, of its manifest, which lists one certificate twice, and of that
certificate. -/
def listedTwice : Snapshot :=
  .ofList [("ta.cer", (Document.certificate (oneNumber "ta" (some "ta.mft"))).encode),
    ("ta.mft", (Document.manifest ⟨["a.cer", "a.cer"]⟩).encode),
    ("a.cer", (Document.certificate (oneNumber "a" none)).encode)]

/-- In June 2024. -/
def june : Time.Instant := (Time.Instant.of? 1717200000 0).get (by decide)

theorem certifies_of_encode {uri : String} {c : ResourceCertificate}
    (hdates : c.notBefore.LeapEndsMinute ∧ c.notAfter.LeapEndsMinute)
    (h : s.get? uri = some (Document.certificate c).encode) : s.Certifies .documents uri c := by
  refine ⟨_, h, ?_⟩
  rw [Decoder.documents_encode_certificate, ResourceCertificate.written_eq_self_iff.2 hdates]

theorem manifest_of_encode {uri : String} {m : Manifest}
    (h : s.get? uri = some (Document.manifest m).encode) : s.manifest .documents uri = .ok m := by
  rw [Snapshot.manifest, h]
  exact Decoder.documents_encode_manifest uri m

theorem extract_listedTwice : listedTwice.extract .documents "ta.cer" =
    [.ofCertificate "a.cer" (oneNumber "a" none) (Path.root.child 0),
      .ofCertificate "a.cer" (oneNumber "a" none) (Path.root.child 1),
      .ofCertificate "ta.cer" (oneNumber "ta" (some "ta.mft")) .root] := by
  have hanchor : listedTwice.Certifies .documents "ta.cer" (oneNumber "ta" (some "ta.mft")) :=
    certifies_of_encode (by decide) (by simp [listedTwice, Snapshot.ofList, Snapshot.get?_insert])
  have hchild : listedTwice.Certifies .documents "a.cer" (oneNumber "a" none) :=
    certifies_of_encode (by decide) (by simp [listedTwice, Snapshot.ofList, Snapshot.get?_insert])
  have hmanifest : listedTwice.manifest .documents "ta.mft" = .ok ⟨["a.cer", "a.cer"]⟩ :=
    manifest_of_encode (by simp [listedTwice, Snapshot.ofList, Snapshot.get?_insert])
  have hchildren : (listedTwice.children .documents (oneNumber "ta" (some "ta.mft"))).1 =
      ["a.cer", "a.cer"] := by
    simp only [Snapshot.children, oneNumber, hmanifest]
    decide
  have hbelow : ∀ path, listedTwice.entriesBelow .documents "a.cer" path ["ta.cer"] =
      [.ofCertificate "a.cer" (oneNumber "a" none) path] := fun path => by
    rw [Snapshot.entriesBelow_of_certifies (by decide) hchild]
    rfl
  rw [Snapshot.extract_eq, Snapshot.entriesBelow_of_certifies List.not_mem_nil hanchor, hchildren]
  simp [hbelow]

theorem exists_run_listedTwice : ∃ a, (run listedTwice .documents (.new "ta.cer") june).1 = .ok a ∧
    a.report.overlappingUris = ["a.cer", "a.cer"] := by
  refine map_eq_ok.1 ?_
  rw [fst_run]
  show Except.map _ (Except.map _ (detect _ (listedTwice.extract .documents "ta.cer")).1) = _
  rw [extract_listedTwice]
  decide +kernel

/-- **A report names a URI once for each chain to it.**  What is counted are the chains to the URI
whose ends are members of reported clusters.  So the URIs are distinct exactly when there is one
such chain to each at most, and always where no object is listed twice.  When they are distinct, no
cluster joins a URI with itself, and without a period of grace that is all it takes. -/
theorem overlappingUris_exact (h : (run s d config now).1 = .ok a) :
    (∀ uri, a.report.overlappingUris.count uri =
      (s.chainsTo d config.trustAnchor a.report.clusters uri).ncard) ∧
    (a.report.overlappingUris.Nodup ↔
      ∀ uri, (s.chainsTo d config.trustAnchor a.report.clusters uri).Subsingleton) ∧
    (s.ListsOnce d → a.report.overlappingUris.Nodup) ∧
    (a.report.overlappingUris.Nodup → ∀ k ∈ a.report.clusters, k.first.uri ≠ k.second.uri) ∧
    (config.grace = none → (∀ k ∈ a.report.clusters, k.first.uri ≠ k.second.uri) →
      a.report.overlappingUris.Nodup) := by
  have hexact := exact_of_run h
  exact ⟨hexact.count_overlappingUris, hexact.nodup_overlappingUris_iff, hexact.nodup_of_listsOnce,
    fun hnodup _ => hexact.uri_ne_of_mem_clusters hnodup, hexact.nodup_of_uri_ne⟩

/-- Two chains lead to a certificate that is listed twice, and a cluster joins it with itself. -/
theorem overlappingUris_exact_listedTwice :
    ∃ a, (run listedTwice .documents (.new "ta.cer") june).1 = .ok a ∧
      (listedTwice.chainsTo .documents "ta.cer" a.report.clusters "a.cer").ncard = 2 ∧
      ∃ k ∈ a.report.clusters, k.first.uri = k.second.uri := by
  obtain ⟨a, hrun, huris⟩ := exists_run_listedTwice
  obtain ⟨hcount, -, -, -, hself⟩ := overlappingUris_exact hrun
  refine ⟨a, hrun, ?_, ?_⟩
  · refine (hcount "a.cer").symm.trans ?_
    rw [huris]
    decide
  · by_contra hnone
    have hnodup := hself rfl fun k hk huri => hnone ⟨k, hk, huri⟩
    rw [huris] at hnodup
    exact absurd hnodup (by decide)

/-- A certificate that is listed twice is named twice. -/
theorem not_nodup_overlappingUris_listedTwice :
    ∃ a, (run listedTwice .documents (.new "ta.cer") june).1 = .ok a ∧
      ¬ a.report.overlappingUris.Nodup := by
  obtain ⟨a, hrun, huris⟩ := exists_run_listedTwice
  refine ⟨a, hrun, ?_⟩
  rw [huris]
  decide

end Analysis
end RpkiOverlap
