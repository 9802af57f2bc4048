import RpkiOverlap.Resource.Basic
import RpkiOverlap.Time.Instant
import RpkiOverlap.Tree.Path

/-! # Certificates and manifests

What the analysis needs to know of the published objects.

* A `ResourceCertificate` binds resources to a subject for a time, and names the manifest of
  the objects that its holder publishes.
* A `DecodedCertificate` is one of those, or a router certificate, which has no resources.
* A `Manifest` lists file names; its certificates are the files with the right ending.
* An `Entry` is a certificate found in the tree.  One object can be reached on several paths,
  so an entry is identified by its URI together with its path.
-/
namespace RpkiOverlap
open Time (Instant)

/-- A resource certificate. -/
structure ResourceCertificate where
  subject : String
  resources : ResourceSet
  manifestUri : Option String
  notBefore : Instant
  notAfter : Instant
  deriving DecidableEq

/-- What an object turns out to be when it is read as a certificate. -/
inductive DecodedCertificate where
  | resource (certificate : ResourceCertificate)
  | router (subject : String)
  deriving DecidableEq

/-- The file names that a manifest lists, in order. -/
structure Manifest where
  fileNames : List String
  deriving DecidableEq

/-- The listed files whose names end in the given way, in order. -/
def Manifest.filesEndingIn (m : Manifest) (ending : String) : List String :=
  m.fileNames.filter fun name => ending.toList.isSuffixOf name.toList

/-- How the file names of certificates end. -/
def certificateEnding : String := ".cer"

/-- The URI of a file next to the object at `base`: what follows the last slash is replaced. -/
def siblingUri (base fileName : String) : String :=
  .ofList ((base.toList.reverse.dropWhile (· != '/')).reverse ++ fileName.toList)

/-- A certificate found in the tree. -/
structure Entry where
  uri : String
  resources : ResourceSet
  path : Path
  certificate : Option ResourceCertificate
  deriving DecidableEq

namespace Entry

/-- An entry of which only the resources are known. -/
def ofResources (uri : String) (resources : ResourceSet) (path : Path) : Entry :=
  ⟨uri, resources, path, none⟩

/-- The entry of a certificate. -/
def ofCertificate (uri : String) (certificate : ResourceCertificate) (path : Path) : Entry :=
  ⟨uri, certificate.resources, path, some certificate⟩

/-- What identifies an entry. -/
def key (e : Entry) : String × Path := (e.uri, e.path)

/-- Where the certificate says that its holder publishes. -/
def manifestUri? (e : Entry) : Option String := e.certificate.bind (·.manifestUri)

/-- The start of the certificate's validity. -/
def notBefore? (e : Entry) : Option Instant := e.certificate.map (·.notBefore)

/-- The subject of the certificate. -/
def subject? (e : Entry) : Option String := e.certificate.map (·.subject)

end Entry
end RpkiOverlap
