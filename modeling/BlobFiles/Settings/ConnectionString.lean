import BlobFiles.Error
import BlobFiles.Text.Blank
import BlobFiles.Text.Split

/-! # Connection strings

A connection string is a list of `Name=Value` entries with semicolons between them. Blanks around
entries, names and values do not count, nor do blank entries; a value runs to the end of its entry
and may hold further equals signs. Of several entries with one name the last one counts.
-/
namespace BlobFiles

structure ConnectionString where
  accountName : Option String := none
  accountKey : Option String := none
  sasToken : Option String := none
  blobEndpoint : Option String := none
  deriving DecidableEq, Repr

namespace ConnectionString

def settingKey : String := "azure_storage_connection_string"

/-- The entries that are not blank, trimmed. -/
def parts (text : List Char) : List (List Char) :=
  ((text.splitOn ';').map Text.trim).filter (!·.isEmpty)

/-- The name and the value of an entry; the entry itself when it has no equals sign. -/
def entry (part : List Char) : Except (List Char) (List Char × List Char) :=
  match Text.cut '=' part with
  | some (name, value) => .ok (Text.trim name, Text.trim value)
  | none => .error part

abbrev Entries := List (List Char × List Char)

/-- The value of the last entry with a name. -/
def Entries.last? (entries : Entries) (name : String) : Option String :=
  (entries.reverse.find? fun e => e.1 = name.toList).map fun e => .ofList e.2

/-- An endpoint is given as a whole, or put together from the account name and a suffix. -/
def Entries.endpoint? (entries : Entries) : Option String :=
  match entries.last? "BlobEndpoint", entries.last? "EndpointSuffix" with
  | some endpoint, _ => some endpoint
  | none, some suffix =>
    (entries.last? "AccountName").map fun account =>
      let protocol := (entries.last? "DefaultEndpointsProtocol").getD "https"
      s!"{protocol}://{account}.blob.{suffix}"
  | none, none => none

def ofEntries (entries : Entries) : ConnectionString where
  accountName := entries.last? "AccountName"
  accountKey := entries.last? "AccountKey"
  sasToken := entries.last? "SharedAccessSignature"
  blobEndpoint := entries.endpoint?

def parse (text : String) : Except FsError ConnectionString :=
  match (parts text.toList).mapM entry with
  | .ok entries => .ok (ofEntries entries)
  | .error part => .error (.invalidSetting settingKey s!"malformed entry '{String.ofList part}'")

end ConnectionString

end BlobFiles
