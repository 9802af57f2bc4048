import RpkiOverlap.Proofs.Overlap.Clusters
import RpkiOverlap.Proofs.Tree.Chain

/-! # Conflicts

What a comparison of all certificates below a trust anchor ought to find, said without walk,
rows or paths.  A trust anchor *reaches* certificates along chains that come to no URI twice, and
a chain is known by its indices (`Snapshot.span`).  Two chains are in *conflict* when neither
goes through the end of the other and the certificates at their ends have a number of one
family in common (`Snapshot.conflicts`).

The candidates among the extracted entries are the conflicts: there are as many
(`ncard_conflicts`), and as many with each chain (`ncard_conflictsOf`).  So the clusters of a
comparison are the overlaps (`mem_clustersOf_extract_iff`).
-/
namespace RpkiOverlap.Snapshot
variable (s : Snapshot) (d : Decoder) (trustAnchor : String)

/-- The indices `xs` lead from the trust anchor to the certificate `c` at `v`, and to no URI
twice. -/
def Reaches (xs : List Nat) (v : String) (c : ResourceCertificate) : Prop :=
  ∃ us, s.Chain d trustAnchor xs us v c ∧ us.Nodup

/-- All chains, by their indices. -/
def span : Set (List Nat) := {xs | ∃ v c, s.Reaches d trustAnchor xs v c}

/-- Neither of two chains begins with the other, and the certificates `c` and `e` at their ends
have a number in common. -/
def Conflict (xs : List Nat) (c : ResourceCertificate) (ys : List Nat)
    (e : ResourceCertificate) : Prop :=
  ¬ xs <+: ys ∧ ¬ ys <+: xs ∧ ∃ f n, c.resources.Has f n ∧ e.resources.Has f n

/-- The pairs of chains in conflict. -/
def conflicts : Set (Sym2 (List Nat)) :=
  {q | ∃ xs v c ys w e, s.Reaches d trustAnchor xs v c ∧ s.Reaches d trustAnchor ys w e ∧
    Conflict xs c ys e ∧ q = s(xs, ys)}

/-- The conflicts that a chain takes part in. -/
def conflictsOf (xs : List Nat) : Set (Sym2 (List Nat)) := {q ∈ s.conflicts d trustAnchor | xs ∈ q}

/-- A cluster joins the ends of two chains in conflict, in the order of their paths, and neither
chain takes part in too many conflicts. -/
def Overlaps (limits : Limits) (k : Cluster) : Prop :=
  ∃ xs v c ys w e, s.Reaches d trustAnchor xs v c ∧ s.Reaches d trustAnchor ys w e ∧
    Conflict xs c ys e ∧
    (s.conflictsOf d trustAnchor xs).ncard ≤ limits.perCertificate ∧
    (s.conflictsOf d trustAnchor ys).ncard ≤ limits.perCertificate ∧
    (Path.ofIndices xs).text < (Path.ofIndices ys).text ∧
    k = ⟨.ofCertificate v c (.ofIndices xs), .ofCertificate w e (.ofIndices ys),
      c.resources.inter e.resources⟩

variable {s d trustAnchor}

theorem mem_extract_iff_reaches {e : Entry} : e ∈ s.extract d trustAnchor ↔
    ∃ xs v c, s.Reaches d trustAnchor xs v c ∧ e = .ofCertificate v c (.ofIndices xs) := by
  rw [mem_extract_iff]
  constructor
  · rintro ⟨xs, us, v, c, hchain, hnodup, rfl⟩
    exact ⟨xs, v, c, ⟨us, hchain, hnodup⟩, rfl⟩
  · rintro ⟨xs, v, c, ⟨us, hchain, hnodup⟩, rfl⟩
    exact ⟨xs, us, v, c, hchain, hnodup, rfl⟩

/-- The entries of two chains are distinct and a candidate exactly when the chains are in
conflict. -/
theorem conflict_iff {xs ys : List Nat} {v w : String} {c e : ResourceCertificate} :
    Conflict xs c ys e ↔ Path.ofIndices xs ≠ .ofIndices ys ∧
      isCandidate (.ofCertificate v c (.ofIndices xs)) (.ofCertificate w e (.ofIndices ys)) =
        true := by
  rw [isCandidate, Bool.and_eq_true, ResourceSet.intersects_iff_has, Bool.not_eq_true',
    ← Bool.not_eq_true, Entry.ofCertificate, Entry.ofCertificate, Path.related_ofIndices]
  constructor
  · rintro ⟨hxy, hyx, hshared⟩
    refine ⟨?_, ?_, hshared⟩
    · intro heq
      rw [Path.ofIndices_inj] at heq
      exact hxy (heq ▸ List.prefix_rfl)
    · rintro ⟨_, h | h⟩
      · exact hxy h
      · exact hyx h
  · rintro ⟨hne, hrelated, hshared⟩
    have hne : xs ≠ ys := fun heq => hne (congrArg _ heq)
    exact ⟨fun h => hrelated ⟨hne, .inl h⟩, fun h => hrelated ⟨hne, .inr h⟩, hshared⟩

/-! ## Conflicts as candidates -/

/-- Written as paths, the conflicts are the pairs of paths of candidates. -/
theorem image_conflicts : Sym2.map Path.ofIndices '' s.conflicts d trustAnchor =
    {q | q ∈ (candidates (s.extract d trustAnchor)).map Candidate.paths} := by
  ext q
  rw [Set.mem_image, Set.mem_ofPred_eq, Candidate.mem_paths_iff (nodup_path_extract trustAnchor)]
  constructor
  · rintro ⟨_, ⟨xs, v, c, ys, w, e, hx, hy, hconflict, rfl⟩, rfl⟩
    obtain ⟨hne, hcand⟩ := conflict_iff.1 hconflict
    exact ⟨_, mem_extract_iff_reaches.2 ⟨xs, v, c, hx, rfl⟩,
      _, mem_extract_iff_reaches.2 ⟨ys, w, e, hy, rfl⟩, hne, hcand, rfl⟩
  · rintro ⟨a, ha, b, hb, hne, hcand, rfl⟩
    obtain ⟨xs, v, c, hx, rfl⟩ := mem_extract_iff_reaches.1 ha
    obtain ⟨ys, w, e, hy, rfl⟩ := mem_extract_iff_reaches.1 hb
    exact ⟨s(xs, ys), ⟨xs, v, c, ys, w, e, hx, hy, conflict_iff.2 ⟨hne, hcand⟩, rfl⟩, rfl⟩

theorem map_ofIndices_injective : Function.Injective (Sym2.map Path.ofIndices) :=
  Sym2.map.injective Path.ofIndices_injective

theorem finite_conflicts : (s.conflicts d trustAnchor).Finite := by
  refine Set.Finite.of_finite_image ?_ map_ofIndices_injective.injOn
  rw [image_conflicts]
  exact List.finite_toSet _

/-- There are as many conflicts as candidates. -/
theorem ncard_conflicts :
    (s.conflicts d trustAnchor).ncard = (candidates (s.extract d trustAnchor)).length := by
  rw [← Set.ncard_image_of_injective _ map_ofIndices_injective, image_conflicts,
    ← length_eq_ncard (Candidate.nodup_paths (nodup_path_extract trustAnchor)), List.length_map]

/-- Written as paths, the conflicts of a chain are the pairs that have its path. -/
theorem image_conflictsOf (xs : List Nat) :
    Sym2.map Path.ofIndices '' s.conflictsOf d trustAnchor xs =
      {q | q ∈ (candidates (s.extract d trustAnchor)).map Candidate.paths ∧
        Path.ofIndices xs ∈ q} := by
  ext q
  constructor
  · rintro ⟨r, ⟨hr, hxs⟩, rfl⟩
    have hmem : Sym2.map Path.ofIndices r ∈ {q | q ∈ (candidates (s.extract d trustAnchor)).map
        Candidate.paths} := image_conflicts ▸ Set.mem_image_of_mem _ hr
    exact ⟨hmem, Sym2.mem_map.2 ⟨xs, hxs, rfl⟩⟩
  · rintro ⟨hq, hxs⟩
    obtain ⟨r, hr, rfl⟩ : q ∈ Sym2.map Path.ofIndices '' s.conflicts d trustAnchor :=
      image_conflicts ▸ hq
    obtain ⟨ys, hys, heq⟩ := Sym2.mem_map.1 hxs
    obtain rfl := Path.ofIndices_injective heq
    exact ⟨r, ⟨hr, hys⟩, rfl⟩

/-- A chain takes part in as many conflicts as its entry in candidates. -/
theorem ncard_conflictsOf (xs : List Nat) : (s.conflictsOf d trustAnchor xs).ncard =
    Candidate.pathDegree (s.extract d trustAnchor) (.ofIndices xs) := by
  rw [← Set.ncard_image_of_injective _ map_ofIndices_injective, image_conflictsOf,
    Candidate.pathDegree, countP_eq_ncard (Candidate.nodup_paths (nodup_path_extract trustAnchor))]

/-- The clusters of a comparison are the conflicts of chains that are in few enough. -/
theorem mem_clustersOf_extract_iff {limits : Limits} {k : Cluster} :
    k ∈ Scan.clustersOf limits (Scan.degree (candidates (s.extract d trustAnchor)))
      (candidates (s.extract d trustAnchor)) ↔ s.Overlaps d trustAnchor limits k := by
  rw [Scan.mem_clustersOf_iff (nodup_path_extract trustAnchor), Cluster.forall_mem_members]
  constructor
  · rintro ⟨hfirst, hsecond, hlt, hcand, hshared, hdx, hdy⟩
    obtain ⟨a, b, shared⟩ := k
    obtain ⟨xs, v, c, hx, rfl⟩ := mem_extract_iff_reaches.1 hfirst
    obtain ⟨ys, w, e, hy, rfl⟩ := mem_extract_iff_reaches.1 hsecond
    have hne : Path.ofIndices xs ≠ .ofIndices ys := by
      intro heq
      exact ne_of_lt hlt (congrArg Path.text heq)
    refine ⟨xs, v, c, ys, w, e, hx, hy, conflict_iff.2 ⟨hne, hcand⟩, ?_, ?_, hlt, ?_⟩
    · rw [ncard_conflictsOf]
      exact hdx
    · rw [ncard_conflictsOf]
      exact hdy
    · exact congrArg (Cluster.mk _ _) hshared
  · rintro ⟨xs, v, c, ys, w, e, hx, hy, hconflict, hdx, hdy, hlt, rfl⟩
    rw [ncard_conflictsOf] at hdx hdy
    exact ⟨mem_extract_iff_reaches.2 ⟨xs, v, c, hx, rfl⟩,
      mem_extract_iff_reaches.2 ⟨ys, w, e, hy, rfl⟩, hlt, (conflict_iff.1 hconflict).2, rfl,
      hdx, hdy⟩

/-! ## The span -/

theorem image_span : Path.ofIndices '' s.span d trustAnchor =
    {p | p ∈ (s.extract d trustAnchor).map (·.path)} := by
  ext p
  simp only [Set.mem_image, Set.mem_ofPred_eq, List.mem_map, mem_extract_iff_reaches]
  constructor
  · rintro ⟨xs, ⟨v, c, h⟩, rfl⟩
    exact ⟨_, ⟨xs, v, c, h, rfl⟩, rfl⟩
  · rintro ⟨_, ⟨xs, v, c, h, rfl⟩, rfl⟩
    exact ⟨xs, ⟨v, c, h⟩, rfl⟩

theorem finite_span : (s.span d trustAnchor).Finite := by
  refine Set.Finite.of_finite_image ?_ Path.ofIndices_injective.injOn
  rw [image_span]
  exact List.finite_toSet _

/-- There are as many chains as entries. -/
theorem ncard_span : (s.span d trustAnchor).ncard = (s.extract d trustAnchor).length := by
  rw [← Set.ncard_image_of_injective _ Path.ofIndices_injective, image_span,
    ← length_eq_ncard (nodup_path_extract trustAnchor), List.length_map]

end RpkiOverlap.Snapshot
