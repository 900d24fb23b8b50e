import BlobFiles.Json.Decode

/-! # Read options

How blobs are downloaded: how many requests at a time, how large each of them, and how much a handle
reads ahead. A download is never told to use no request at all.
-/
namespace BlobFiles

structure ReadOptions where
  concurrency : Nat := 5
  chunkSize : Nat := 1024 * 1024
  bufferSize : Nat := 1024 * 1024
  deriving DecidableEq, Repr

/-- What one download is told. -/
structure TransferOptions where
  concurrency : Nat
  chunkSize : Nat
  deriving DecidableEq, Repr

namespace ReadOptions

def transfer (o : ReadOptions) : TransferOptions := ⟨max o.concurrency 1, o.chunkSize⟩

def describe (o : ReadOptions) : String :=
  s!"AzureReadOptions \x7b transfer_concurrency: {o.concurrency}, " ++
    s!"transfer_chunk_size: {o.chunkSize}, buffer_size: {o.bufferSize} \x7d"

def fields : List Json.Field :=
  [.of "transfer_concurrency" Json.decodeSize, .of "transfer_chunk_size" Json.decodeSize,
    .of "buffer_size" Json.decodeSize]

/-- Every field may be left out, at the end of an array too. -/
def decode : Json.Decoder ReadOptions := fun v => do
  let members ← Json.recordMembers "AzureReadOptions" fields 0 v
  let standard : ReadOptions := {}
  let size := fun name default => Json.fieldOr members name Json.decodeSize default
  return {
    concurrency := ← size "transfer_concurrency" standard.concurrency
    chunkSize := ← size "transfer_chunk_size" standard.chunkSize
    bufferSize := ← size "buffer_size" standard.bufferSize }

def encode (o : ReadOptions) : Json :=
  .object [("transfer_concurrency", .integer o.concurrency),
    ("transfer_chunk_size", .integer o.chunkSize), ("buffer_size", .integer o.bufferSize)]

end ReadOptions

end BlobFiles
