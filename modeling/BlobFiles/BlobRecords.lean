import BlobFiles.Json.Decode
import BlobFiles.Time.Rfc3339
import BlobFiles.Url

/-! # Stored forms

The JSON forms of a blob URL, of a listed blob and of a blob's properties. Each is written as an
object and read from an object or from an array of its fields in the order given here.
-/
namespace BlobFiles

structure BlobItem where
  name : String
  deriving DecidableEq, Repr

structure BlobProperties where
  size : Nat
  lastModified : Option Time.Instant
  deriving DecidableEq, Repr

namespace Json

def decodeInstant : Decoder Time.Instant
  | string s => (Time.Instant.parse s).mapError fun fault => .other fault.message
  | v => .error (.type v "an RFC 3339 formatted date and time string")

end Json

namespace BlobUrl

def fields : List Json.Field :=
  [.of "is_fully_qualified" Json.decodeBool, .of "prefix" Json.decodeString,
    .of "storage_account_name" Json.decodeString, .of "endpoint" Json.decodeString,
    .of "container" Json.decodeString, .of "path" Json.decodeString]

def decode : Json.Decoder BlobUrl := fun v => do
  let members ← Json.recordMembers "AzureParsedUrl" fields 6 v
  return {
    fullyQualified := ← Json.requiredField members "is_fully_qualified" Json.decodeBool
    scheme := ← Json.requiredField members "prefix" Json.decodeString
    account := ← Json.requiredField members "storage_account_name" Json.decodeString
    endpoint := ← Json.requiredField members "endpoint" Json.decodeString
    container := ← Json.requiredField members "container" Json.decodeString
    path := ← Json.requiredField members "path" Json.decodeString }

def encode (url : BlobUrl) : Json :=
  .object [("is_fully_qualified", .bool url.fullyQualified), ("prefix", .string url.scheme),
    ("storage_account_name", .string url.account), ("endpoint", .string url.endpoint),
    ("container", .string url.container), ("path", .string url.path)]

end BlobUrl

namespace BlobItem

def decode : Json.Decoder BlobItem := fun v => do
  let members ← Json.recordMembers "BlobItem" [.of "name" Json.decodeString] 1 v
  return ⟨← Json.requiredField members "name" Json.decodeString⟩

def encode (item : BlobItem) : Json := .object [("name", .string item.name)]

end BlobItem

namespace BlobProperties

def fields : List Json.Field :=
  [.of "size" (Json.decodeNat "u64"), .of "last_modified" (Json.decodeOption Json.decodeInstant)]

/-- An object may leave the time out; an array may not. -/
def decode : Json.Decoder BlobProperties := fun v => do
  let members ← Json.recordMembers "BlobProperties" fields 2 v
  return {
    size := ← Json.requiredField members "size" (Json.decodeNat "u64")
    lastModified := ←
      Json.fieldOr members "last_modified" (Json.decodeOption Json.decodeInstant) none }

def encode (p : BlobProperties) : Json :=
  .object [("size", .integer p.size),
    ("last_modified", match p.lastModified with | none => .null | some t => .string t.text)]

end BlobProperties

end BlobFiles
