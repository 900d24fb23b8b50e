import BlobFiles.Settings.Basic

/-! # Settings files

A settings file is UTF-8 text holding one JSON object, whose members are the settings.
-/
namespace BlobFiles.Settings

inductive FileError where
  | unreadable
  | notJson
  | notObject
  deriving DecidableEq, Repr

def FileError.message (path : String) : FileError → String
  | .unreadable => s!"Failed to read settings file {path}"
  | .notJson => s!"Failed to parse settings file {path}"
  | .notObject => s!"Settings file {path} must contain a JSON object"

/-- Settings from the content of a file, which is `none` when there is no such file. -/
def ofFile (content : Option (List UInt8)) : Except FileError Settings := do
  let some bytes := content | throw .unreadable
  let some text := String.fromUTF8? ⟨bytes.toArray⟩ | throw .unreadable
  match Json.parse? text with
  | none => throw .notJson
  | some (.object members) => return ⟨members⟩
  | some _ => throw .notObject

end BlobFiles.Settings
