import BlobFiles.Error

/-! # Failures of the access layer

The layer that talks to storage services sorts its failures into kinds and writes them as one line:
the kind, the operation with its context, and a message. Some kinds stand for an error code of the
service; the others have none, so that the file system reports them as unknown.
-/
namespace BlobFiles

inductive FailureKind where
  | unexpected
  | unsupported
  | configInvalid
  | notFound
  | permissionDenied
  | isADirectory
  | notADirectory
  | alreadyExists
  | rateLimited
  | isSameFile
  | conditionNotMatch
  | rangeNotSatisfied
  deriving DecidableEq, Repr

namespace FailureKind

def name : FailureKind → String
  | unexpected => "Unexpected"
  | unsupported => "Unsupported"
  | configInvalid => "ConfigInvalid"
  | notFound => "NotFound"
  | permissionDenied => "PermissionDenied"
  | isADirectory => "IsADirectory"
  | notADirectory => "NotADirectory"
  | alreadyExists => "AlreadyExists"
  | rateLimited => "RateLimited"
  | isSameFile => "IsSameFile"
  | conditionNotMatch => "ConditionNotMatch"
  | rangeNotSatisfied => "RangeNotSatisfied"

def all : List FailureKind :=
  [unexpected, unsupported, configInvalid, notFound, permissionDenied, isADirectory, notADirectory,
    alreadyExists, rateLimited, isSameFile, conditionNotMatch, rangeNotSatisfied]

def ofName? (name : String) : Option FailureKind := all.find? (·.name = name)

theorem ofName?_name (kind : FailureKind) : ofName? kind.name = some kind := by
  cases kind <;> decide

/-- The service's error code and the reason that goes with it. -/
def code? : FailureKind → Option (String × String)
  | notFound => some ("BlobNotFound", "The specified blob does not exist.")
  | permissionDenied => some ("AuthorizationPermissionMismatch",
      "This request is not authorized to perform this operation using this permission.")
  | rateLimited => some ("ServerBusy", "The server is currently unable to receive requests.")
  | rangeNotSatisfied => some ("InvalidRange",
      "The range specified is invalid for the current size of the resource.")
  | conditionNotMatch => some ("ConditionNotMet",
      "The condition specified using HTTP conditional header(s) is not met.")
  | isADirectory => some ("InvalidResourceName", "The specified resource is a directory.")
  | configInvalid => some ("InvalidConfiguration", "The storage client configuration is invalid.")
  | unsupported => some ("UnsupportedOperation",
      "The operation is not supported by the storage service.")
  | unexpected | notADirectory | alreadyExists | isSameFile => none

end FailureKind

structure ServiceFailure where
  kind : FailureKind
  operation : String := ""
  /-- Named values that say what the operation was about. -/
  context : List (String × String) := []
  message : String
  deriving DecidableEq, Repr

namespace ServiceFailure

def contextText (context : List (String × String)) : String :=
  if context.isEmpty then ""
  else
    let items := context.map fun (name, value) => s!"{name}: {value}"
    ", context: \x7b " ++ ", ".intercalate items ++ " \x7d"

def text (f : ServiceFailure) : String :=
  let message := if f.message.isEmpty then "" else s!" => {f.message}"
  s!"{f.kind.name} (permanent) at {f.operation}{contextText f.context}{message}"

def toStorage (f : ServiceFailure) : StorageError :=
  match f.kind.code? with
  | some (code, reason) => ⟨code, reason, f.text⟩
  | none => .unknown f.text

end ServiceFailure

end BlobFiles
