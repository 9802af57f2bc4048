import RpkiOverlap.Certificate
import RpkiOverlap.Json.Printer
import RpkiOverlap.Json.Reader
import RpkiOverlap.Resource.Notation
import RpkiOverlap.Time.Timestamp

/-! # Object documents

Published objects as JSON documents.  The member `type` tells certificates, router
certificates and manifests apart; a document may also be an array of the tag and the other
values in order.

* `Document.print` writes a document, with the tag first.
* `Document.read?` reads one.  Members it does not know are ignored; a member that it knows
  may not occur twice.
* `decodeCertificate` and `decodeManifest` read the bytes of an object as the one or the
  other.  They agree on what is a document, and each refuses the documents of the other.
-/
namespace RpkiOverlap
open Time (Instant)

/-- The objects that have a document. -/
inductive Document where
  | certificate (certificate : ResourceCertificate)
  | router (subject : String)
  | manifest (manifest : Manifest)
  deriving DecidableEq

namespace Document

/-! ### Writing -/

/-- The text of a document. -/
def print : Document → List Char
  | certificate c =>
    Json.printMembers
      [Json.printMember "type" (Json.printString "certificate"),
        Json.printMember "subject" (Json.printString c.subject),
        Json.printMember "resources" (Json.printString c.resources.print),
        Json.printMember "manifest_uri" (Json.printOptional c.manifestUri),
        Json.printMember "not_before" (Json.printString (.ofList c.notBefore.printZulu)),
        Json.printMember "not_after" (Json.printString (.ofList c.notAfter.printZulu))]
  | router subject =>
    Json.printMembers
      [Json.printMember "type" (Json.printString "router_certificate"),
        Json.printMember "subject" (Json.printString subject)]
  | manifest m =>
    Json.printMembers
      [Json.printMember "type" (Json.printString "manifest"),
        Json.printMember "file_names" (Json.printStrings m.fileNames)]

/-- The bytes of a document. -/
def encode (d : Document) : ByteArray := (String.ofList d.print).toUTF8

/-! ### Reading -/

/-- The value of a member that occurs at most once: `none` when it is repeated, and
`some none` when it is missing. -/
def member? (name : String) (members : List (String × Json)) : Option (Option Json) :=
  match members.filter fun m => m.1 == name with
  | [] => some none
  | [m] => some (some m.2)
  | _ => none

/-- A string. -/
def string? : Json → Option String
  | .string s => some s
  | _ => none

/-- A string or nothing. -/
def optionalString? : Json → Option (Option String)
  | .null => some none
  | .string s => some (some s)
  | _ => none

/-- A list of strings. -/
def strings? : Json → Option (List String)
  | .array xs => xs.mapM string?
  | _ => none

/-- The notation of a set of resources. -/
def resources? (x : Json) : Option ResourceSet := do
  let text ← string? x
  (ResourceSet.read text).toOption

/-- A timestamp. -/
def instant? (x : Json) : Option Instant := do
  let text ← string? x
  Instant.read? text.toList

/-- A certificate from the values of its members. -/
def certificateOf? (subject resources manifestUri notBefore notAfter : Json) :
    Option Document := do
  let subject ← string? subject
  let resources ← resources? resources
  let manifestUri ← optionalString? manifestUri
  let notBefore ← instant? notBefore
  let notAfter ← instant? notAfter
  return certificate ⟨subject, resources, manifestUri, notBefore, notAfter⟩

/-- A router certificate from the value of its member. -/
def routerOf? (subject : Json) : Option Document := (string? subject).map router

/-- A manifest from the value of its member. -/
def manifestOf? (fileNames : Json) : Option Document :=
  (strings? fileNames).map fun names => manifest ⟨names⟩

/-- A document with a given tag from its members.  The URI of a manifest may be missing, all
other members are required. -/
def ofMembers? (tag : String) (members : List (String × Json)) : Option Document := do
  if tag = "certificate" then
    let subject ← member? "subject" members
    let resources ← member? "resources" members
    let manifestUri ← member? "manifest_uri" members
    let notBefore ← member? "not_before" members
    let notAfter ← member? "not_after" members
    certificateOf? (← subject) (← resources) (manifestUri.getD .null) (← notBefore) (← notAfter)
  else if tag = "router_certificate" then
    let subject ← member? "subject" members
    routerOf? (← subject)
  else if tag = "manifest" then
    let fileNames ← member? "file_names" members
    manifestOf? (← fileNames)
  else none

/-- A document with a given tag from the values of its members in order. -/
def ofValues? (tag : String) (values : List Json) : Option Document :=
  if tag = "certificate" then
    match values with
    | [subject, resources, manifestUri, notBefore, notAfter] =>
      certificateOf? subject resources manifestUri notBefore notAfter
    | _ => none
  else if tag = "router_certificate" then
    match values with
    | [subject] => routerOf? subject
    | _ => none
  else if tag = "manifest" then
    match values with
    | [fileNames] => manifestOf? fileNames
    | _ => none
  else none

/-- The document of a JSON value. -/
def ofJson? : Json → Option Document
  | .object members => do
    let tag ← member? "type" members
    ofMembers? (← string? (← tag)) (members.filter fun m => m.1 != "type")
  | .array (tag :: values) => do
    ofValues? (← string? tag) values
  | _ => none

/-- Reads the text of a document. -/
def read? (text : List Char) : Option Document := (Json.read? text).bind ofJson?

/-- Reads the bytes of a document. -/
def decode? (bytes : ByteArray) : Option Document :=
  (String.fromUTF8? bytes).bind fun text => read? text.toList

end Document

/-! ### Decoding objects -/

/-- Why an object is not what it was read as. -/
inductive DecodeError where
  | undecodable
  | isManifest
  | isCertificate
  deriving DecidableEq, Repr

/-- The wording of a decoding error.  What is wrong with bytes that are no document is not kept. -/
def DecodeError.message : DecodeError → String
  | undecodable => "undecodable"
  | isManifest => "object is a manifest"
  | isCertificate => "object is a certificate"

/-- Reads an object as a certificate. -/
def decodeCertificate (bytes : ByteArray) : Except DecodeError DecodedCertificate :=
  match Document.decode? bytes with
  | none => .error .undecodable
  | some (.certificate c) => .ok (.resource c)
  | some (.router subject) => .ok (.router subject)
  | some (.manifest _) => .error .isManifest

/-- Reads an object as a manifest. -/
def decodeManifest (bytes : ByteArray) : Except DecodeError Manifest :=
  match Document.decode? bytes with
  | none => .error .undecodable
  | some (.manifest m) => .ok m
  | some _ => .error .isCertificate

end RpkiOverlap
