import BlobFiles.Error
import BlobFiles.Json.Decode
import BlobFiles.Json.Reader
import BlobFiles.ReadOptions

/-! # Settings

Settings are named JSON values. A typed setting is read from its value, or, when the value is a
text, from the JSON that the text holds; a failure always speaks of the value itself.
-/
namespace BlobFiles

structure Settings where
  values : Json.Members := []

namespace Settings

def value? (s : Settings) (key : String) : Option Json := s.values.get? key

def set (s : Settings) (key : String) (value : Json) : Settings := ⟨s.values.insert key value⟩

/-- A value of the wanted type, or the text of one. The text is parsed as any JSON value, which is
then decoded. For sizes, integers and Booleans it is assumed that this accepts the texts that are
accepted by a reader which takes the text for the wanted type from the start. -/
def interpret {α : Type} (decode : Json.Decoder α) (v : Json) : Except Json.DecodeError α :=
  match decode v with
  | .ok a => .ok a
  | .error e =>
    match v with
    | .string s =>
      match (Json.parse? s).map decode with
      | some (.ok a) => .ok a
      | _ => .error e
    | _ => .error e

/-- The setting as a value of the wanted type, or nothing when it is not set. -/
def get? {α : Type} (s : Settings) (decode : Json.Decoder α) (key : String) :
    Except FsError (Option α) :=
  match s.value? key with
  | none => .ok none
  | some v =>
    match interpret decode v with
    | .ok a => .ok (some a)
    | .error e => .error (.invalidSetting key e.message)

def concurrencyKey : String := "azure_read_transfer_concurrency"
def chunkSizeKey : String := "azure_read_transfer_chunk_size"
def bufferSizeKey : String := "azure_read_buffer_size"
def cachingKey : String := "azure_context_caching"
def accountNameKey : String := "azure_account_name"
def endpointKey : String := "azure_endpoint"
def secretKey : String := "azure_account_key"
def tokenKey : String := "azure_sas_token"

def readOptions (s : Settings) : Except FsError ReadOptions := do
  let standard : ReadOptions := {}
  let concurrency ← s.get? Json.decodeSize concurrencyKey
  let chunkSize ← s.get? Json.decodeSize chunkSizeKey
  let bufferSize ← s.get? Json.decodeSize bufferSizeKey
  return {
    concurrency := concurrency.getD standard.concurrency
    chunkSize := chunkSize.getD standard.chunkSize
    bufferSize := bufferSize.getD standard.bufferSize }

/-- Whether storage contexts are shared; they are, unless a setting says otherwise. -/
def caching (s : Settings) : Except FsError Bool := do
  return (← s.get? Json.decodeBool cachingKey).getD true

end Settings

end BlobFiles
