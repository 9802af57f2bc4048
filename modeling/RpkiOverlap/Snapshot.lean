import RpkiOverlap.Document
import RpkiOverlap.Fault

/-! # Snapshots

A `Snapshot` is the set of objects published at one time, by URI.

* `Snapshot.ofList` collects objects; of two with one URI the later stays.
* A `Decoder` reads objects.  It depends on nothing but the URI and the bytes.
* `Snapshot.certificate` and `Snapshot.manifest` look an object up and read it, and name
  the fault when there is none or it cannot be read.
-/
namespace RpkiOverlap

/-- The published objects by URI, each URI once. -/
structure Snapshot where
  objects : List (String × ByteArray)
  nodup : (objects.map Prod.fst).Nodup

namespace Snapshot

/-- No objects. -/
def empty : Snapshot := ⟨[], by simp⟩

/-- Adds an object, in place of one with the same URI. -/
def insert (s : Snapshot) (uri : String) (bytes : ByteArray) : Snapshot where
  objects := (uri, bytes) :: s.objects.filter fun o => o.1 != uri
  nodup := by
    refine List.nodup_cons.2 ⟨by simp, ?_⟩
    exact s.nodup.sublist (List.filter_sublist.map _)

/-- The snapshot of some objects; of two with one URI the later stays. -/
def ofList (objects : List (String × ByteArray)) : Snapshot :=
  objects.foldl (fun s o => s.insert o.1 o.2) empty

/-- The URIs of the objects. -/
def uris (s : Snapshot) : List String := s.objects.map Prod.fst

/-- How many objects there are. -/
def size (s : Snapshot) : Nat := s.objects.length

/-- The bytes of the object at a URI. -/
def get? (s : Snapshot) (uri : String) : Option ByteArray := s.objects.lookup uri

/-- Whether there is an object at a URI. -/
def contains (s : Snapshot) (uri : String) : Bool := (s.get? uri).isSome

end Snapshot

/-- A way to read objects as certificates and manifests. -/
structure Decoder where
  certificate : String → ByteArray → Except Fault DecodedCertificate
  manifest : String → ByteArray → Except Fault Manifest

/-- The decoder of object documents. -/
def Decoder.documents : Decoder where
  certificate uri bytes :=
    (decodeCertificate bytes).mapError fun e => .invalidCertificate uri e.message
  manifest uri bytes := (decodeManifest bytes).mapError fun e => .invalidManifest uri e.message

namespace Snapshot

/-- The resource certificate at a URI. -/
def certificate (s : Snapshot) (d : Decoder) (uri : String) : Except Fault ResourceCertificate :=
  match s.get? uri with
  | none => .error (.certificateNotFound uri)
  | some bytes =>
    match d.certificate uri bytes with
    | .ok (.resource c) => .ok c
    | .ok (.router _) => .error (.routerCertificate uri)
    | .error fault => .error fault

/-- The manifest at a URI. -/
def manifest (s : Snapshot) (d : Decoder) (uri : String) : Except Fault Manifest :=
  match s.get? uri with
  | none => .error (.manifestNotFound uri)
  | some bytes => d.manifest uri bytes

end Snapshot
end RpkiOverlap
