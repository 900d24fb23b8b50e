import BlobFiles.Error
import BlobFiles.Text.Split

/-! # Blob URLs

A blob is named by `az://container/path`, or by `az://account.endpoint/container/path` when the host
has a dot; `azure://` may stand for `az://`. `BlobUrl.parse` and `BlobUrl.objectUrl` go between the
text and its parts. The text is taken as it is: nothing is decoded, and nothing is normalised.
-/
namespace BlobFiles

structure BlobUrl where
  fullyQualified : Bool
  scheme : String
  /-- Empty in the short form. -/
  account : String
  /-- Empty in the short form. -/
  endpoint : String
  container : String
  path : String
  deriving DecidableEq, Repr

namespace BlobUrl

def schemes : List String := ["azure://", "az://"]

inductive Fault where
  | scheme
  | hostEnd
  | account
  | container
  deriving DecidableEq, Repr

def Fault.reason : Fault → String
  | .scheme => "URL needs to start with azure:// or az://"
  | .hostEnd => "URL needs to contain a '/' after the host"
  | .account => "URL needs to contain a storage account name"
  | .container => "URL needs to contain a container"

/-- The scheme a text starts with, and what follows it. -/
def scheme? (text : List Char) : Option (String × List Char) :=
  schemes.findSome? fun scheme => (scheme.toList.isPrefixOf? text).map fun rest => (scheme, rest)

def canHandle (text : String) : Bool := (scheme? text.toList).isSome

/-- The parts of a text, before the container is looked at. -/
def split (text : List Char) : Except Fault BlobUrl := do
  let some (scheme, rest) := scheme? text | throw .scheme
  let some (host, afterHost) := Text.cut '/' rest | throw .hostEnd
  match Text.cut '.' host with
  | none => return ⟨false, scheme, "", "", .ofList host, .ofList afterHost⟩
  | some ([], _) => throw .account
  | some (account, endpoint) =>
    let (container, path) := (Text.cut '/' afterHost).getD (afterHost, [])
    return ⟨true, scheme, .ofList account, .ofList endpoint, .ofList container, .ofList path⟩

def ofText (text : List Char) : Except Fault BlobUrl := do
  let url ← split text
  if url.container.isEmpty then throw .container
  return url

def parse (text : String) : Except FsError BlobUrl :=
  (ofText text.toList).mapError fun fault => .invalidUrl text fault.reason

/-- The URL of the container, which every URL of its blobs starts with. -/
def root (url : BlobUrl) : String :=
  if url.fullyQualified then s!"{url.scheme}{url.account}.{url.endpoint}/{url.container}"
  else s!"{url.scheme}{url.container}"

/-- The URL of the blob `key` in the same container. -/
def objectUrl (url : BlobUrl) (key : String) : String := s!"{url.root}/{key}"

end BlobUrl

end BlobFiles
