import RpkiOverlap.Proofs.Json.Value
import RpkiOverlap.Proofs.Resource.Notation
import RpkiOverlap.Proofs.Time.Timestamp
import RpkiOverlap.Snapshot

/-! # Object documents read back

What is written for an object is read as the object that its text names (`Document.decode?_encode`),
and this is the same object unless it is a certificate with a date in a leap second inside of a
minute.  No bytes are read both as a certificate and as a manifest.  `Decoder.documents_faithful`
says so for the decoder of documents, with the faults that it reports.

* A document is written as an object with its tag and its members (`Document.isText_print`).
* The members have different names, so each is found by its name (`Document.member?_of_mem`), and
  their values make the document again, with the dates as they are written
  (`Document.ofJson?_members`).
-/
namespace RpkiOverlap
open Time (Instant)

namespace ResourceCertificate

/-- The certificate that the text of a certificate names. -/
def written (c : ResourceCertificate) : ResourceCertificate :=
  { c with notBefore := c.notBefore.written, notAfter := c.notAfter.written }

theorem written_eq_self_iff {c : ResourceCertificate} :
    c.written = c ↔ c.notBefore.LeapEndsMinute ∧ c.notAfter.LeapEndsMinute := by
  rw [← Instant.written_eq_self_iff, ← Instant.written_eq_self_iff]
  constructor
  · intro h
    exact ⟨congrArg notBefore h, congrArg notAfter h⟩
  · rintro ⟨hbefore, hafter⟩
    rw [written, hbefore, hafter]

end ResourceCertificate

namespace Document

/-- The document that the text of a document names. -/
def written : Document → Document
  | certificate c => certificate c.written
  | router subject => router subject
  | manifest m => manifest m

/-! ## The text of a document -/

/-- The tag of a document. -/
def tag : Document → String
  | certificate _ => "certificate"
  | router _ => "router_certificate"
  | manifest _ => "manifest"

/-- The members of a document after the tag. -/
def members : Document → List (String × Json)
  | certificate c =>
    [("subject", .string c.subject), ("resources", .string c.resources.print),
      ("manifest_uri", c.manifestUri.elim .null .string),
      ("not_before", .string (.ofList c.notBefore.printZulu)),
      ("not_after", .string (.ofList c.notAfter.printZulu))]
  | router subject => [("subject", .string subject)]
  | manifest m => [("file_names", .array (m.fileNames.map .string))]

theorem isText_print (d : Document) {depth : Nat} :
    Json.IsText (depth + 2) d.print (.object (("type", .string d.tag) :: d.members)) := by
  have hmember : ∀ {name value x}, Json.IsText (depth + 1) value x →
      Json.IsMember (depth + 1) (Json.printMember name value) (name, x) := fun h => ⟨_, rfl, h⟩
  cases d with
  | certificate c =>
    exact .object <| .cons (hmember (.string _)) <| .cons (hmember (.string _)) <|
      .cons (hmember (.string _)) <| .cons (hmember (.optional _)) <|
      .cons (hmember (.string _)) <| .cons (hmember (.string _)) .nil
  | router subject =>
    exact .object <| .cons (hmember (.string _)) <| .cons (hmember (.string _)) .nil
  | manifest m =>
    exact .object <| .cons (hmember (.string _)) <| .cons (hmember (.strings _)) .nil

/-! ## Members by name -/

theorem filter_eq_nil_of_not_mem {name : String} {ms : List (String × Json)}
    (h : name ∉ ms.map Prod.fst) : ms.filter (fun m => m.1 == name) = [] := by
  rw [List.filter_eq_nil_iff]
  intro m hm heq
  exact h (List.mem_map.2 ⟨m, hm, by simpa using heq⟩)

/-- Of members with different names, each is found by its name. -/
theorem member?_of_mem {name : String} {x : Json} {ms : List (String × Json)}
    (hnames : (ms.map Prod.fst).Nodup) (h : (name, x) ∈ ms) : member? name ms = some (some x) := by
  have hfilter : ms.filter (fun m => m.1 == name) = [(name, x)] := by
    induction ms with
    | nil => simp at h
    | cons m ms ih =>
      rw [List.map_cons, List.nodup_cons] at hnames
      rcases List.mem_cons.1 h with rfl | h
      · simp [filter_eq_nil_of_not_mem hnames.1]
      · have hne : m.1 ≠ name := fun heq =>
          hnames.1 (heq ▸ List.mem_map.2 ⟨(name, x), h, rfl⟩)
        simp [hne, ih hnames.2 h]
  rw [member?, hfilter]

theorem nodup_members (d : Document) : ("type" :: d.members.map Prod.fst).Nodup := by
  cases d <;> simp [members]

/-! ## The values of the members -/

theorem optionalString?_elim (s : Option String) :
    optionalString? (s.elim .null .string) = some s := by
  cases s <;> rfl

theorem strings?_array (ss : List String) : strings? (.array (ss.map .string)) = some ss := by
  rw [strings?]
  induction ss with
  | nil => rfl
  | cons s ss ih => simp [string?, ih]

theorem resources?_print (s : ResourceSet) : resources? (.string s.print) = some s := by
  simp [resources?, string?, ResourceSet.read_print, Except.toOption]

theorem instant?_printZulu (i : Instant) :
    instant? (.string (.ofList i.printZulu)) = some i.written := by
  simp [instant?, string?, Instant.read?_printZulu]

/-- The tag and the other members of a document make the document as it is written. -/
theorem ofMembers?_members (d : Document) : ofMembers? d.tag d.members = some d.written := by
  have hfind : ∀ {name x}, (name, x) ∈ d.members → member? name d.members = some (some x) :=
    member?_of_mem d.nodup_members.of_cons
  cases d with
  | certificate c =>
    have hsubject := hfind (.head _)
    have hresources := hfind (.tail _ (.head _))
    have hmanifestUri := hfind (.tail _ (.tail _ (.head _)))
    have hnotBefore := hfind (.tail _ (.tail _ (.tail _ (.head _))))
    have hnotAfter := hfind (.tail _ (.tail _ (.tail _ (.tail _ (.head _)))))
    have hvalues : certificateOf? (.string c.subject) (.string c.resources.print)
        (c.manifestUri.elim .null .string) (.string (.ofList c.notBefore.printZulu))
        (.string (.ofList c.notAfter.printZulu)) = some (certificate c.written) := by
      simp only [certificateOf?, string?, resources?_print, optionalString?_elim,
        instant?_printZulu, bind, Option.bind_some, pure, ResourceCertificate.written]
    simp only [ofMembers?, tag, ↓reduceIte, hsubject, hresources, hmanifestUri, hnotBefore,
      hnotAfter, bind, Option.bind_some, Option.getD_some, hvalues, written]
  | router subject =>
    have hsubject := hfind (.head _)
    simp [ofMembers?, tag, hsubject, routerOf?, string?, written]
  | manifest m =>
    have hfileNames := hfind (.head _)
    simp [ofMembers?, tag, hfileNames, manifestOf?, strings?_array, written]

theorem ofJson?_members (d : Document) :
    ofJson? (.object (("type", .string d.tag) :: d.members)) = some d.written := by
  have htag : member? "type" (("type", .string d.tag) :: d.members) =
      some (some (.string d.tag)) := member?_of_mem d.nodup_members (.head _)
  have hrest : (("type", .string d.tag) :: d.members).filter (fun m => m.1 != "type") =
      d.members := by
    rw [List.filter_cons_of_neg (by simp), List.filter_eq_self]
    intro m hm
    have hne : m.1 ≠ "type" := fun heq =>
      (List.nodup_cons.1 d.nodup_members).1 (heq ▸ List.mem_map.2 ⟨m, hm, rfl⟩)
    simpa using hne
  rw [ofJson?, htag, hrest]
  exact ofMembers?_members d

/-- What is written for a document is read as the document that the text names. -/
theorem decode?_encode (d : Document) : decode? d.encode = some d.written := by
  have hread : Json.read? d.print = some (.object (("type", .string d.tag) :: d.members)) :=
    d.isText_print.read?_eq
  have hbytes : String.fromUTF8? d.encode = some (.ofList d.print) :=
    dif_pos (String.ofList d.print).isValidUTF8
  rw [decode?, hbytes, Option.bind_some, read?, String.toList_ofList, hread, Option.bind_some,
    ofJson?_members]

end Document

/-! ## The decoder of documents -/

namespace Decoder
variable {uri : String} {bytes : ByteArray}

/-- Bytes are refused as a certificate for being a manifest exactly when they are one. -/
theorem documents_isManifest_iff :
    documents.certificate uri bytes = .error (.invalidCertificate uri "object is a manifest") ↔
      ∃ m, documents.manifest uri bytes = .ok m := by
  simp only [documents, decodeCertificate, decodeManifest]
  rcases Document.decode? bytes with _ | ⟨c⟩ | ⟨subject⟩ | ⟨m⟩
  all_goals simp [Except.mapError, DecodeError.message]

/-- Bytes are refused as a manifest for being a certificate exactly when they are one. -/
theorem documents_isCertificate_iff :
    documents.manifest uri bytes = .error (.invalidManifest uri "object is a certificate") ↔
      ∃ c, documents.certificate uri bytes = .ok c := by
  simp only [documents, decodeCertificate, decodeManifest]
  rcases Document.decode? bytes with _ | ⟨c⟩ | ⟨subject⟩ | ⟨m⟩
  all_goals simp [Except.mapError, DecodeError.message]

/-- No bytes are both a certificate and a manifest. -/
theorem documents_disjoint {uri' : String} :
    ¬ ((∃ c, documents.certificate uri bytes = .ok c) ∧
      ∃ m, documents.manifest uri' bytes = .ok m) := by
  simp only [documents, decodeCertificate, decodeManifest]
  rcases Document.decode? bytes with _ | ⟨c⟩ | ⟨subject⟩ | ⟨m⟩
  all_goals simp [Except.mapError]

variable (uri) in
/-- What is written for a certificate is decoded to the certificate that the text names. -/
theorem documents_encode_certificate (c : ResourceCertificate) :
    documents.certificate uri (Document.certificate c).encode = .ok (.resource c.written) := by
  simp [documents, decodeCertificate, Document.decode?_encode, Document.written, Except.mapError]

variable (uri) in
theorem documents_encode_router (subject : String) :
    documents.certificate uri (Document.router subject).encode = .ok (.router subject) := by
  simp [documents, decodeCertificate, Document.decode?_encode, Document.written, Except.mapError]

variable (uri) in
theorem documents_encode_manifest (m : Manifest) :
    documents.manifest uri (Document.manifest m).encode = .ok m := by
  simp [documents, decodeManifest, Document.decode?_encode, Document.written, Except.mapError]

/-- **Objects come back from their documents, and certificates are told from manifests.**  A
certificate is decoded to itself, under any URI, exactly when neither of its dates is in a leap
second inside of a minute; every router certificate and every manifest is decoded to itself.  Of
any bytes at all, the decoder says that they are of the other kind exactly when it accepts them as
the other kind; so it accepts no bytes as both. -/
theorem documents_faithful (uri : String) :
    (∀ c, documents.certificate uri (Document.certificate c).encode = .ok (.resource c) ↔
        c.notBefore.LeapEndsMinute ∧ c.notAfter.LeapEndsMinute) ∧
      (∀ subject, documents.certificate uri (Document.router subject).encode =
        .ok (.router subject)) ∧
      (∀ m, documents.manifest uri (Document.manifest m).encode = .ok m) ∧
      ∀ bytes,
        (documents.certificate uri bytes =
            .error (.invalidCertificate uri "object is a manifest") ↔
          ∃ m, documents.manifest uri bytes = .ok m) ∧
        (documents.manifest uri bytes = .error (.invalidManifest uri "object is a certificate") ↔
          ∃ c, documents.certificate uri bytes = .ok c) ∧
        ∀ uri', ¬ ((∃ c, documents.certificate uri bytes = .ok c) ∧
          ∃ m, documents.manifest uri' bytes = .ok m) := by
  refine ⟨fun c => ?_, documents_encode_router uri, documents_encode_manifest uri, fun bytes => ?_⟩
  · rw [documents_encode_certificate, Except.ok.injEq, DecodedCertificate.resource.injEq,
      ResourceCertificate.written_eq_self_iff]
  · exact ⟨documents_isManifest_iff, documents_isCertificate_iff, fun uri' => documents_disjoint⟩

/-- The second 23:56:04 on the first of June 2024 and 1333333333 nanoseconds, so a leap second
inside of a minute. -/
def leapInsideMinute : Instant := (Instant.of? 1717286164 1333333333).get (by decide)

/-- The second after it and 333333333 nanoseconds. -/
def thirdOfNextSecond : Instant := (Instant.of? 1717286165 333333333).get (by decide)

/-- A certificate that begins in a leap second inside of a minute. -/
def oddlyDated : ResourceCertificate where
  subject := "ta"
  resources := .empty
  manifestUri := none
  notBefore := leapInsideMinute
  notAfter := (Instant.of? 1767225600 0).get (by decide)

/-- The text of a leap second inside of a minute is that of an ordinary fraction of the second after
it, and this is what the certificate comes back with. -/
theorem documents_oddlyDated :
    String.ofList leapInsideMinute.printZulu = "2024-06-01T23:56:05.333333333Z" ∧
    documents.certificate "ta.cer" (Document.certificate oddlyDated).encode =
      .ok (.resource { oddlyDated with notBefore := thirdOfNextSecond }) ∧
    documents.certificate "ta.cer" (Document.certificate oddlyDated).encode ≠
      .ok (.resource oddlyDated) := by
  have hwritten : oddlyDated.written = { oddlyDated with notBefore := thirdOfNextSecond } := by
    decide
  have hother : oddlyDated.written ≠ oddlyDated := by
    intro h
    exact absurd (ResourceCertificate.written_eq_self_iff.1 h).1 (by decide)
  rw [documents_encode_certificate]
  refine ⟨by decide, by rw [hwritten], ?_⟩
  rw [ne_eq, Except.ok.injEq, DecodedCertificate.resource.injEq]
  exact hother

end Decoder
end RpkiOverlap
