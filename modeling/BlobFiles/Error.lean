/-! # Failures

`StorageError` is what a storage service reports about one request. `FsError` is what a caller of
the file system sees; its text is `message`, and `kind` says whether the storage or the caller's own
set-up is to blame. `IoError` is the same failure as seen by blocking readers.
-/
namespace BlobFiles

/-- A service without an error code of its own leaves `code` and `reason` empty. -/
structure StorageError where
  code : String
  reason : String
  detail : String
  deriving DecidableEq, Repr

namespace StorageError

def unknown (detail : String) : StorageError := ⟨"", "", detail⟩

def message (e : StorageError) : String := s!"{e.code} ({e.reason}): {e.detail}"

end StorageError

inductive ErrorKind where
  | io
  | internal
  deriving DecidableEq, Repr

inductive FsError where
  | storage (operation path code reason detail : String)
  | unknown (operation path detail : String)
  | notImplemented (feature : String)
  | invalidUrl (url reason : String)
  | invalidSetting (key reason : String)
  | outOfRange (path : String) (offset length fileSize : Nat)
  | internal (reason : String)
  deriving DecidableEq, Repr

namespace FsError

/-- A failure without a code is `unknown`, whatever its reason. -/
def ofStorage (operation path : String) (e : StorageError) : FsError :=
  if e.code.isEmpty then .unknown operation path e.detail
  else .storage operation path e.code e.reason e.detail

def message : FsError → String
  | .storage operation path code reason detail =>
    s!"AzureBlobStorageFileSystem {operation} '{path}' failed with code '{code}', " ++
      s!"Reason Phrase: '{reason}', Message: '{detail}'"
  | .unknown operation path detail =>
    s!"AzureBlobStorageFileSystem could not {operation} '{path}', unknown error occurred, " ++
      s!"this could mean the credentials used were wrong. Original error message: '{detail}'"
  | .notImplemented feature => s!"Not implemented: {feature}"
  | .invalidUrl url reason => s!"Invalid Azure URL '{url}': {reason}"
  | .invalidSetting key reason => s!"Invalid value for setting '{key}': {reason}"
  | .outOfRange path offset length fileSize =>
    s!"Read of {length} bytes at offset {offset} is out of range for '{path}' ({fileSize} bytes)"
  | .internal reason => s!"Internal error: {reason}"

def kind : FsError → ErrorKind
  | .internal _ => .internal
  | _ => .io

/-- Blobs are only read. -/
def writeRefused : FsError :=
  .notImplemented "Writing to Azure containers is currently not supported"

def syncRefused : FsError := .notImplemented "FileSync for Azure Storage files not implemented"

theorem kind_eq_internal_iff {e : FsError} :
    e.kind = .internal ↔ ∃ reason, e = .internal reason := by
  cases e <;> simp [kind]

end FsError

inductive IoKind where
  | notFound
  | permissionDenied
  | unsupported
  | invalidInput
  | unexpectedEof
  | other
  deriving DecidableEq, Repr

structure IoError where
  kind : IoKind
  message : String
  deriving DecidableEq, Repr

namespace FsError

def ioKind : FsError → IoKind
  | .storage _ _ code _ _ =>
    if code = "BlobNotFound" then .notFound
    else if code = "AuthorizationPermissionMismatch" then .permissionDenied
    else .other
  | .notImplemented _ => .unsupported
  | .invalidUrl _ _ | .invalidSetting _ _ => .invalidInput
  | .outOfRange _ _ _ _ => .unexpectedEof
  | .unknown _ _ _ | .internal _ => .other

def toIo (e : FsError) : IoError := ⟨e.ioKind, e.message⟩

end FsError

end BlobFiles
