import BlobFiles.Handle.Request

/-! # Commands of a session

What a session can be told to do, and what it answers. Files are called by names of the caller's
choice, and contexts by labels: a context gets the next label when it is first handed out. Commands
that take settings may be given without them, as a host does that has none to offer.
-/
namespace BlobFiles

inductive Command where
  | openFile (name path : String) (flags : OpenFlags) (withSettings : Bool)
  | closeFile (name : String)
  | file (name : String) (request : FileRequest)
  | fileExists (path : String) (withSettings : Bool)
  | glob (path : String) (withSettings : Bool)
  | fileSystemName
  | set (key : String) (value : Json)
  | context (path : String)
  | openContainer (label : Nat) (container : String)
  | queryEnd
  /-- Puts a new foreign state under a key. -/
  | register (key : String)
  | unregister (key : String)
  | registry
  /-- One page of the blobs below the container of `path` whose names begin with `start`. -/
  | list (path start : String)
  | properties (path key : String)
  | download (path key : String) (offset length : Nat) (options : TransferOptions)

/-- A context as it is shown to the caller. -/
structure ContextView where
  label : Nat
  account : String
  valid : Bool
  options : ReadOptions
  text : String

inductive Answer where
  | done
  | flag (b : Bool)
  | text (s : String)
  | texts (items : List String)
  | opened (reader : Reader)
  | reply (r : FileReply)
  | context (view : ContextView)
  /-- How often each foreign state was told, and which contexts are still valid, by label. -/
  | queryEnded (foreign : List (String × Nat)) (valid : List Bool)
  | noClientContext
  | page (p : ListPage)
  | properties (p : BlobProperties)
  | bytes (data : Bytes)

inductive Failure where
  | fs (e : FsError)
  | io (e : IoError)
  | storage (e : StorageError)
  | noFile
  | noContext
  deriving DecidableEq, Repr

def Failure.ofFile : FileFailure → Failure
  | .fs e => .fs e
  | .io e => .io e

end BlobFiles
