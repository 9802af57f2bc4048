import Mathlib.Data.List.Forall2
import RpkiOverlap.Proofs.Overlap.Pairs
import RpkiOverlap.Proofs.Tree.Calls

/-! # What becomes of every position

A *position* is a path with the URI that is looked up there: the trust anchor's, and what the
manifests of entries list (`Snapshot.IsPosition`).  Here the positions are balanced against the
entries and the reports of an extraction from object documents.

* Positions and calls of the walk are the same, and a path belongs to one of them only
  (`isPosition_iff`, `eq_of_path_eq`).  A URI lies on the way to a call exactly when an entry above
  has it (`revisits_iff`).
* Where the walk turns back it reports the reason, with the path: the object is missing, it is a
  router certificate, it cannot be read, or the URI is that of an entry above
  (`reportsTurn_answer`).
* Where it finds an entry it reports what became of the manifest: there is none, it has been
  expanded, it is missing or it cannot be read (`reportsManifest_answer`).

`positions_accounted` says that nothing is left over on either side.
-/
namespace RpkiOverlap

/-- A path and the URI that is looked up there. -/
structure Position where
  uri : String
  path : Path
  deriving DecidableEq

/-- The position of an entry. -/
def Entry.position (e : Entry) : Position := ⟨e.uri, e.path⟩

namespace Snapshot

/-- The position that a call is about. -/
def Call.position (a : Call) : Position := ⟨a.uri, a.path⟩

variable (s : Snapshot) (d : Decoder) (trustAnchor : String)

/-- The positions of the tree: the root, and one for each certificate that the manifest of an entry
lists. -/
inductive IsPosition : Position → Prop
  | root : IsPosition ⟨trustAnchor, .root⟩
  | listed {e : Entry} {c : ResourceCertificate} {x : Nat} {v : String}
      (he : e ∈ s.extract d trustAnchor) (hc : e.certificate = some c) (hx : s.Lists d c x v) :
      IsPosition ⟨v, e.path.child x⟩

/-- An entry above a position has the URI of the position. -/
def Revisits (p : Position) : Prop :=
  ∃ e ∈ s.extract d trustAnchor, e.uri = p.uri ∧ e.path ≠ p.path ∧
    e.path.text.toList <+: p.path.text.toList

variable {s d trustAnchor}

/-! ## Positions and calls -/

theorem isPosition_iff {p : Position} :
    s.IsPosition d trustAnchor p ↔ ∃ a, s.Calls d trustAnchor a ∧ a.position = p := by
  constructor
  · rintro (_ | @⟨e, c, x, v, he, hc, hx⟩)
    · exact ⟨.first trustAnchor, .refl, by rw [Call.position, Call.path, Call.first,
        Path.ofIndices_nil]⟩
    · obtain ⟨a, ha, hnew, c', hcert, rfl⟩ := mem_extract_iff_calls.1 he
      obtain rfl : c' = c := Option.some.inj hc
      refine ⟨a.below x v, ha.tail (.down hnew hcert hx), ?_⟩
      show Position.mk v (.ofIndices (a.indices ++ [x])) = ⟨v, a.path.child x⟩
      rw [Call.path, Path.child_ofIndices]
  · rintro ⟨a, ha, rfl⟩
    rcases Relation.ReflTransGen.cases_tail ha with rfl | ⟨b, hb, hlast⟩
    · rw [Call.position, Call.path, Call.first, Path.ofIndices_nil]
      exact .root
    · cases hlast with
      | @down c x v hnew hcert hx =>
        have he : .ofCertificate b.uri c b.path ∈ s.extract d trustAnchor :=
          mem_extract_iff_calls.2 ⟨b, hb, hnew, c, hcert, rfl⟩
        have hlisted := IsPosition.listed he rfl hx
        rwa [show (Entry.ofCertificate b.uri c b.path).path = .ofIndices b.indices from rfl,
          Path.child_ofIndices] at hlisted

/-- A path is that of one call only. -/
theorem eq_of_path_eq {a b : Call} (ha : s.Calls d trustAnchor a) (hb : s.Calls d trustAnchor b)
    (h : a.path = b.path) : a = b := by
  have hindices : a.indices = b.indices := Path.ofIndices_inj.1 h
  have hleads := leads_of_prefix ha hb (hindices ▸ List.prefix_rfl)
  exact eq_of_leads_of_indices_eq hleads hindices

/-- The URI of a call lies on the way to every other call that it leads to. -/
theorem mem_lineage_of_leads {a b : Call} (h : Relation.ReflTransGen (s.Leads d) a b)
    (hne : a ≠ b) : a.uri ∈ b.lineage := by
  induction h with
  | refl => exact absurd rfl hne
  | @tail b' b _ hlast ih =>
    cases hlast with
    | down =>
      by_cases heq : a = b'
      · exact heq ▸ List.mem_cons_self
      · exact List.mem_cons_of_mem _ (ih heq)

/-- A URI on the way to a call is that of a call before, which finds an entry. -/
theorem exists_leads_of_mem_lineage {a : Call} (ha : s.Calls d trustAnchor a) {u : String}
    (hu : u ∈ a.lineage) : ∃ b, s.Calls d trustAnchor b ∧ b.uri = u ∧ b.uri ∉ b.lineage ∧
      (∃ c, s.Certifies d b.uri c) ∧ Relation.TransGen (s.Leads d) b a := by
  induction ha with
  | refl => exact absurd hu List.not_mem_nil
  | @tail b a hb hlast ih =>
    have hstep := hlast
    cases hlast with
    | @down c x v hnew hcert hx =>
      rcases List.mem_cons.1 hu with rfl | hu
      · exact ⟨b, hb, rfl, hnew, ⟨c, hcert⟩, .single hstep⟩
      · obtain ⟨b', hb', huri, hnew', hcert', hleads⟩ := ih hu
        exact ⟨b', hb', huri, hnew', hcert', hleads.tail hstep⟩

theorem path_ne_of_leads {a b : Call} (h : Relation.TransGen (s.Leads d) a b) :
    a.path ≠ b.path := by
  intro heq
  obtain rfl := eq_of_leads_of_indices_eq h.to_reflTransGen (Path.ofIndices_inj.1 heq)
  obtain ⟨a', hfirst, hrest⟩ := Relation.TransGen.head'_iff.1 h
  cases hfirst with
  | down => exact not_leads_back hrest

/-- A URI lies on the way to a call exactly when an entry above has it. -/
theorem revisits_iff {a : Call} (ha : s.Calls d trustAnchor a) :
    s.Revisits d trustAnchor a.position ↔ a.uri ∈ a.lineage := by
  constructor
  · rintro ⟨e, he, huri, hpath, hprefix⟩
    obtain ⟨b, hb, -, c, -, rfl⟩ := mem_extract_iff_calls.1 he
    have hleads := leads_of_prefix hb ha (Path.text_prefix_iff.1 hprefix)
    have hmem := mem_lineage_of_leads hleads fun heq => hpath (heq ▸ rfl)
    rwa [show b.uri = a.uri from huri] at hmem
  · intro hmem
    obtain ⟨b, hb, huri, hnew, ⟨c, hcert⟩, hleads⟩ := exists_leads_of_mem_lineage ha hmem
    have hprefix : b.indices <+: a.indices := prefix_of_leads hleads.to_reflTransGen
    exact ⟨.ofCertificate b.uri c b.path, mem_extract_iff_calls.2 ⟨b, hb, hnew, c, hcert, rfl⟩,
      huri, path_ne_of_leads hleads, Path.text_prefix_iff.2 hprefix⟩

/-! ## Reports -/

variable (s trustAnchor) in
/-- What is reported of a position without an entry. -/
inductive ReportsTurn (p : Position) : Event → Prop
  | revisits (h : s.Revisits .documents trustAnchor p) :
      ReportsTurn p (.say .error "pruning subtree"
        [("path", p.path.text), ("error", (Fault.cycleDetected p.uri).message)])
  | missing (hnew : ¬ s.Revisits .documents trustAnchor p) (h : s.get? p.uri = none) :
      ReportsTurn p (.say .warn "pruning subtree"
        [("path", p.path.text), ("error", (Fault.certificateNotFound p.uri).message)])
  | router {bytes : ByteArray} {subject : String}
      (hnew : ¬ s.Revisits .documents trustAnchor p) (hbytes : s.get? p.uri = some bytes)
      (h : decodeCertificate bytes = .ok (.router subject)) :
      ReportsTurn p (.say .debug "skipping router certificate"
        [("path", p.path.text), ("error", (Fault.routerCertificate p.uri).message)])
  | undecodable {bytes : ByteArray} {reason : DecodeError}
      (hnew : ¬ s.Revisits .documents trustAnchor p) (hbytes : s.get? p.uri = some bytes)
      (h : decodeCertificate bytes = .error reason) :
      ReportsTurn p (.say .error "pruning subtree" [("path", p.path.text),
        ("error", (Fault.invalidCertificate p.uri reason.message).message)])

variable (s) in
/-- What is reported of the manifest of an entry. -/
inductive ReportsManifest (e : Entry) : Event → Prop
  | unnamed {c : ResourceCertificate} (hc : e.certificate = some c) (h : c.manifestUri = none) :
      ReportsManifest e (.say .debug "certificate has no manifest SIA"
        [("uri", e.uri), ("path", e.path.text)])
  | expanded {c : ResourceCertificate} {uri : String} {bytes : ByteArray} {m : Manifest}
      (hc : e.certificate = some c) (huri : c.manifestUri = some uri)
      (hbytes : s.get? uri = some bytes) (h : decodeManifest bytes = .ok m) :
      ReportsManifest e (.say .debug "expanding manifest"
        [("uri", e.uri), ("manifest", uri), ("file_count", toString m.fileNames.length)])
  | missing {c : ResourceCertificate} {uri : String} (hc : e.certificate = some c)
      (huri : c.manifestUri = some uri) (h : s.get? uri = none) :
      ReportsManifest e (.say .warn "pruning subtree"
        [("path", e.path.text), ("error", (Fault.manifestNotFound uri).message)])
  | undecodable {c : ResourceCertificate} {uri : String} {bytes : ByteArray} {reason : DecodeError}
      (hc : e.certificate = some c) (huri : c.manifestUri = some uri)
      (hbytes : s.get? uri = some bytes) (h : decodeManifest bytes = .error reason) :
      ReportsManifest e (.say .error "pruning subtree"
        [("path", e.path.text), ("error", (Fault.invalidManifest uri reason.message).message)])

theorem answer_of_error {a : Call} {fault : Fault} (hnew : a.uri ∉ a.lineage)
    (h : s.certificate d a.uri = .error fault) :
    s.answer d a = ⟨a.uri, a.path, .pruned fault⟩ := by
  rw [answer, if_neg hnew, h]

variable (s) in
/-- What there can be at a URI where a certificate is looked for. -/
theorem certificate_documents_cases (uri : String) :
    (s.get? uri = none ∧ s.certificate .documents uri = .error (.certificateNotFound uri)) ∨
    (∃ bytes subject, s.get? uri = some bytes ∧
      decodeCertificate bytes = .ok (.router subject) ∧
      s.certificate .documents uri = .error (.routerCertificate uri)) ∨
    (∃ bytes reason, s.get? uri = some bytes ∧ decodeCertificate bytes = .error reason ∧
      s.certificate .documents uri = .error (.invalidCertificate uri reason.message)) ∨
    ∃ c, s.certificate .documents uri = .ok c := by
  unfold certificate
  cases hbytes : s.get? uri with
  | none => exact .inl ⟨rfl, rfl⟩
  | some bytes =>
    simp only [Decoder.documents]
    cases hdecoded : decodeCertificate bytes with
    | error reason => exact .inr (.inr (.inl ⟨bytes, reason, rfl, hdecoded, rfl⟩))
    | ok decoded =>
      cases decoded with
      | router subject => exact .inr (.inl ⟨bytes, subject, rfl, hdecoded, rfl⟩)
      | resource c => exact .inr (.inr (.inr ⟨c, rfl⟩))

variable (s) in
/-- What there can be at a URI where a manifest is looked for. -/
theorem manifest_documents_cases (uri : String) :
    (s.get? uri = none ∧ s.manifest .documents uri = .error (.manifestNotFound uri)) ∨
    (∃ bytes reason, s.get? uri = some bytes ∧ decodeManifest bytes = .error reason ∧
      s.manifest .documents uri = .error (.invalidManifest uri reason.message)) ∨
    ∃ bytes m, s.get? uri = some bytes ∧ decodeManifest bytes = .ok m ∧
      s.manifest .documents uri = .ok m := by
  unfold manifest
  cases hbytes : s.get? uri with
  | none => exact .inl ⟨rfl, rfl⟩
  | some bytes =>
    simp only [Decoder.documents]
    cases hdecoded : decodeManifest bytes with
    | error reason => exact .inr (.inl ⟨bytes, reason, rfl, hdecoded, rfl⟩)
    | ok m => exact .inr (.inr ⟨bytes, m, rfl, hdecoded, rfl⟩)

/-- Where the walk turns back, it reports the reason. -/
theorem reportsTurn_answer {a : Call} (ha : s.Calls .documents trustAnchor a)
    (hnone : Visit.entry? (s.answer .documents a) = none) :
    s.ReportsTurn trustAnchor a.position (s.answer .documents a).event := by
  by_cases hmem : a.uri ∈ a.lineage
  · rw [answer, if_pos hmem]
    exact .revisits ((revisits_iff ha).2 hmem)
  · have hnew := mt (revisits_iff ha).1 hmem
    rcases s.certificate_documents_cases a.uri with ⟨hmissing, hfault⟩ |
      ⟨bytes, subject, hbytes, hdecoded, hfault⟩ | ⟨bytes, reason, hbytes, hdecoded, hfault⟩ |
      ⟨c, hc⟩
    · rw [answer_of_error hmem hfault]
      exact .missing hnew hmissing
    · rw [answer_of_error hmem hfault]
      exact .router hnew hbytes hdecoded
    · rw [answer_of_error hmem hfault]
      exact .undecodable hnew hbytes hdecoded
    · rw [answer_of_certifies hmem (certificate_eq_ok_iff.1 hc)] at hnone
      cases hnone

/-- Where the walk finds an entry, it reports what became of the manifest. -/
theorem reportsManifest_answer {a : Call} {e : Entry}
    (he : Visit.entry? (s.answer .documents a) = some e) :
    s.ReportsManifest e (s.answer .documents a).event := by
  obtain ⟨hnew, c, hc, rfl⟩ := entry_answer_iff.1 he
  rw [answer_of_certifies hnew hc, children]
  cases huri : c.manifestUri with
  | none => exact .unnamed rfl huri
  | some uri =>
    rcases s.manifest_documents_cases uri with ⟨hmissing, hfault⟩ |
      ⟨bytes, reason, hbytes, hdecoded, hfault⟩ | ⟨bytes, m, hbytes, hdecoded, hm⟩
    · simp only [hfault]
      exact .missing rfl huri hmissing
    · simp only [hfault]
      exact .undecodable rfl huri hbytes hdecoded
    · simp only [hm]
      exact .expanded rfl huri hbytes hdecoded

/-! ## The balance -/

/-- What a function finds in a list is related to its images under another, in order. -/
theorem forall₂_filterMap {α β γ : Type} {R : β → γ → Prop} {f : α → Option β} {g : α → γ}
    {l : List α} (h : ∀ a ∈ l, ∀ b, f a = some b → R b (g a)) :
    List.Forall₂ R (l.filterMap f) ((l.filter fun a => (f a).isSome).map g) := by
  induction l with
  | nil => exact .nil
  | cons a l ih =>
    have hrest := ih fun a' ha' => h a' (.tail _ ha')
    cases hf : f a with
    | none => simpa [hf] using hrest
    | some b =>
      rw [List.filterMap_cons_some hf, List.filter_cons_of_pos (by rw [hf, Option.isSome_some])]
      exact .cons (h a (.head _) b hf) hrest

variable (s trustAnchor) in
/-- Some positions with a report each, and a report for each entry, balance an extraction. -/
structure Balances (turned : List Position) (reports manifestReports : List Event) : Prop where
  /-- The positions of the entries and these are all positions of the tree. -/
  complete : ∀ p, p ∈ (s.extract .documents trustAnchor).map Entry.position ++ turned ↔
    s.IsPosition .documents trustAnchor p
  /-- No two of them have one path. -/
  distinct : (((s.extract .documents trustAnchor).map Entry.position ++ turned).map
    (·.path)).Nodup
  turns : List.Forall₂ (s.ReportsTurn trustAnchor) turned reports
  manifests : List.Forall₂ s.ReportsManifest (s.extract .documents trustAnchor) manifestReports
  /-- Nothing else is reported but the number of entries. -/
  all : (s.extractEvents .documents trustAnchor).Perm (reports ++ manifestReports ++
    [.say .debug "extracted certificate span" [("trust_anchor", trustAnchor),
      ("certificate_count", toString (s.extract .documents trustAnchor).length)]])

variable (s trustAnchor) in
/-- The calls that find an entry and those that turn back balance the extraction. -/
theorem exists_balances : ∃ turned reports manifestReports,
    s.Balances trustAnchor turned reports manifestReports := by
  obtain ⟨calls, hnodup, hmem, hvisits⟩ := exists_calls s .documents trustAnchor
  let find? (a : Call) : Option Entry := Visit.entry? (s.answer .documents a)
  let report (a : Call) : Event := (s.answer .documents a).event
  let found := calls.filter fun a => (find? a).isSome
  let back := calls.filter fun a => !(find? a).isSome
  have hsplit : (found ++ back).Perm calls := List.filter_append_perm _ calls
  have hextract : s.extract .documents trustAnchor = calls.filterMap find? := by
    rw [extract, hvisits, List.filterMap_map]
    rfl
  have hfound : (s.extract .documents trustAnchor).map Entry.position =
      found.map Call.position := by
    rw [← List.forall₂_eq_eq_eq, List.forall₂_map_left_iff, hextract]
    refine forall₂_filterMap fun a _ e he => ?_
    obtain ⟨-, c, -, rfl⟩ := entry_answer_iff.1 he
    rfl
  have hpositions : ((s.extract .documents trustAnchor).map Entry.position ++
      back.map Call.position).Perm (calls.map Call.position) := by
    rw [hfound, ← List.map_append]
    exact hsplit.map _
  refine ⟨back.map Call.position, back.map report, found.map report, fun p => ?_, ?_, ?_, ?_, ?_⟩
  · rw [hpositions.mem_iff, List.mem_map, isPosition_iff]
    simp only [hmem]
  · rw [(hpositions.map _).nodup_iff, List.map_map]
    exact hnodup.map_on fun a ha b hb => eq_of_path_eq ((hmem a).1 ha) ((hmem b).1 hb)
  · rw [List.forall₂_map_left_iff, List.forall₂_map_right_iff, List.forall₂_same]
    intro a ha
    obtain ⟨hcall, hnone⟩ := List.mem_filter.1 ha
    exact reportsTurn_answer ((hmem a).1 hcall) (by simpa using hnone)
  · rw [hextract]
    exact forall₂_filterMap fun a _ e he => reportsManifest_answer he
  · rw [extractEvents, hvisits, List.map_map, ← List.map_append]
    exact ((List.perm_append_comm.trans hsplit).map report).symm.append_right _

section
variable {turned : List Position} {reports manifestReports : List Event}

theorem ReportsTurn.path {p : Position} {event : Event} (h : s.ReportsTurn trustAnchor p event) :
    event.field? "path" = some p.path.text := by
  cases h <;> rfl

/-- The reports bear the paths of the positions. -/
theorem Balances.map_path (h : s.Balances trustAnchor turned reports manifestReports) :
    reports.map (·.field? "path") = turned.map fun p => some p.path.text := by
  rw [← List.forall₂_eq_eq_eq, List.forall₂_map_left_iff, List.forall₂_map_right_iff]
  exact h.turns.flip.imp fun event p hevent => hevent.path

/-- The entries and the reports with the path of a position are one in all. -/
theorem Balances.count_add_count (h : s.Balances trustAnchor turned reports manifestReports)
    {p : Position} (hp : s.IsPosition .documents trustAnchor p) :
    ((s.extract .documents trustAnchor).map (·.path)).count p.path +
      (reports.map (·.field? "path")).count (some p.path.text) = 1 := by
  have hinjective : Function.Injective fun q : Path => some q.text :=
    fun q r heq => congrArg Path.mk (Option.some.inj heq)
  have hreports : (reports.map (·.field? "path")).count (some p.path.text) =
      (turned.map (·.path)).count p.path := by
    rw [h.map_path, ← List.count_map_of_injective _ _ hinjective, List.map_map]
    rfl
  have hpaths : ((s.extract .documents trustAnchor).map Entry.position ++ turned).map (·.path) =
      (s.extract .documents trustAnchor).map (·.path) ++ turned.map (·.path) := by
    rw [List.map_append, List.map_map]
    rfl
  rw [hreports, ← List.count_append, ← hpaths]
  exact List.count_eq_one_of_mem h.distinct (List.mem_map_of_mem ((h.complete p).2 hp))

theorem Balances.ncard_eq (h : s.Balances trustAnchor turned reports manifestReports) :
    {p | s.IsPosition .documents trustAnchor p}.ncard =
      (s.extract .documents trustAnchor).length + reports.length := by
  have hpositions := length_eq_ncard h.distinct.of_map
  simp only [h.complete, List.length_append, List.length_map, h.turns.length_eq] at hpositions
  exact hpositions.symm

/-- The reports on positions and on manifests are all that are made when the walk turns back or
skips something. -/
theorem Balances.mem_of_message (h : s.Balances trustAnchor turned reports manifestReports)
    {event : Event} (hevent : event ∈ s.extractEvents .documents trustAnchor)
    (hmessage : event.field? "message" = some "pruning subtree" ∨
      event.field? "message" = some "skipping router certificate") :
    event ∈ reports ∨ event ∈ manifestReports := by
  rw [h.all.mem_iff, List.mem_append, List.mem_append, List.mem_singleton] at hevent
  rcases hevent with hreport | rfl
  · exact hreport
  · rcases hmessage with hpruning | hskipping
    · exact absurd (Option.some.inj hpruning) (by decide)
    · exact absurd (Option.some.inj hskipping) (by decide)

end

/-- **No position is dropped silently.**  The positions of the tree are those of the entries and
others, at which the walk turned back, and no path occurs twice among them.  Each of the others has
one report, which says why and bears its path; each entry has one report on its manifest; and
nothing else is reported but the number of entries.  So a path has one entry or one report of a
position, the positions are as many as the entries and these reports, and nothing is pruned or
skipped without one of the reports. -/
theorem positions_accounted (s : Snapshot) (trustAnchor : String) :
    ∃ turned reports manifestReports, s.Balances trustAnchor turned reports manifestReports ∧
      (∀ p, s.IsPosition .documents trustAnchor p →
        ((s.extract .documents trustAnchor).map (·.path)).count p.path +
          (reports.map (·.field? "path")).count (some p.path.text) = 1) ∧
      manifestReports.length = (s.extract .documents trustAnchor).length ∧
      {p | s.IsPosition .documents trustAnchor p}.ncard =
        (s.extract .documents trustAnchor).length + reports.length ∧
      ∀ event ∈ s.extractEvents .documents trustAnchor,
        event.field? "message" = some "pruning subtree" ∨
          event.field? "message" = some "skipping router certificate" →
        event ∈ reports ∨ event ∈ manifestReports := by
  obtain ⟨turned, reports, manifestReports, h⟩ := exists_balances s trustAnchor
  exact ⟨turned, reports, manifestReports, h, fun p hp => h.count_add_count hp,
    h.manifests.length_eq.symm, h.ncard_eq, fun event hevent => h.mem_of_message hevent⟩

end Snapshot
end RpkiOverlap
