import BlobFiles.BlobRecords
import BlobFiles.OpenFlags
import BlobFiles.Settings.Basic

/-! # Storage services

A `Storage` is everything the file system asks of a service: connecting to an account, opening its
containers, listing them page by page, and the properties and bytes of their blobs. `σ` is the state
of the service, which every request may change, and `κ` is a connected client. Nothing is assumed of
the answers here.
-/
namespace BlobFiles

abbrev Bytes := List UInt8

structure ListPage where
  names : List String
  /-- The token of the next page, while there is one. -/
  next : Option String
  deriving DecidableEq, Repr

/-- Downloads `length` bytes from `offset` on. -/
abbrev Download (σ : Type) :=
  (offset length : Nat) → TransferOptions → σ → Except StorageError Bytes × σ

structure Storage (σ κ : Type) where
  connect : Settings → (path : String) → BlobUrl → σ → Except FsError κ × σ
  account : κ → String
  openContainer : κ → (container : String) → σ → Except StorageError Unit × σ
  /-- One page of the blobs whose names begin with `start`. -/
  list : κ → (container start : String) → (token : Option String) → σ →
    Except StorageError ListPage × σ
  properties : κ → (container key : String) → σ → Except StorageError BlobProperties × σ
  download : κ → (container key : String) → Download σ

/-- A blob as a client sees it. -/
structure BlobRef (κ : Type) where
  client : κ
  container : String
  key : String

def Storage.downloadOf {σ κ : Type} (storage : Storage σ κ) (blob : BlobRef κ) : Download σ :=
  storage.download blob.client blob.container blob.key

end BlobFiles
