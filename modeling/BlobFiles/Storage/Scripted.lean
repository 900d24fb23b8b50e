import BlobFiles.Storage.Basic

/-! # The scripted account

An account whose answers are laid down in advance: what its containers hold, how they list, which
connects fail, and what is wrong with which download of a blob. It keeps a log of every request.
-/
namespace BlobFiles.Scripted

/-- What is wrong with one download. -/
inductive Fault where
  | error (e : StorageError)
  /-- So many bytes are missing at the end. -/
  | short (n : Nat)
  /-- So many bytes too many come at the end. -/
  | long (n : Nat)

structure Blob where
  data : Bytes := []
  /-- The size to report, when it is not that of the data. -/
  size : Option Nat := none
  modified : Option Time.Instant := none
  propertiesError : Option StorageError := none
  /-- By the number of the download, counted from 0. -/
  faults : List (Nat × Fault) := []
  downloads : Nat := 0

structure Container where
  blobs : List (String × Blob) := []
  /-- The answers to the requests of a listing, when they do not follow from the blobs. -/
  pages : Option (List (Except StorageError (List String))) := none
  error : Option StorageError := none

inductive Call where
  | connect (path account : String)
  | container (name : String)
  | list (start : String) (token : Option String)
  | properties (key : String)
  | download (key : String) (offset length concurrency chunkSize : Nat)

structure Account where
  containers : List (String × Container) := []
  /-- By the number of the connect, counted from 0. -/
  connectErrors : List (Option StorageError) := []
  connects : Nat := 0
  /-- The latest call comes first. -/
  calls : List Call := []

namespace Account

def record (a : Account) (call : Call) : Account := { a with calls := call :: a.calls }

def container? (a : Account) (name : String) : Option Container :=
  (a.containers.find? (·.1 = name)).map (·.2)

def blob? (a : Account) (container key : String) : Option Blob :=
  (a.container? container).bind fun c => (c.blobs.find? (·.1 = key)).map (·.2)

/-- Counts a download of a blob. -/
def count (a : Account) (container key : String) : Account :=
  { a with containers := a.containers.map fun (name, c) =>
      if name = container then
        (name, { c with blobs := c.blobs.map fun (k, b) =>
          if k = key then (k, { b with downloads := b.downloads + 1 }) else (k, b) })
      else (name, c) }

end Account

/-- Tokens are numbered; the first page needs none. -/
def tokenOf (page : Nat) : String := s!"p{page}"

def pageOf : Option String → Nat
  | none => 0
  | some token => ((String.ofList (token.toList.drop 1)).toNat?).getD 0

def noContainer (name : String) : StorageError :=
  ⟨"ContainerNotFound", "The specified container does not exist.", s!"no container '{name}'"⟩

def noBlob (key : String) : StorageError :=
  ⟨"BlobNotFound", "The specified blob does not exist.", s!"no blob '{key}'"⟩

def pastEnd : StorageError := ⟨"InvalidRange", "Range Not Satisfiable", "past end"⟩

namespace Container

def page (c : Container) (start : String) (token : Option String) : Except StorageError ListPage :=
  match c.pages with
  | none =>
    let names := (c.blobs.map (·.1)).filter fun name => start.toList.isPrefixOf name.toList
    .ok ⟨names.mergeSort (· ≤ ·), none⟩
  | some pages =>
    let i := pageOf token
    match pages[i]? with
    | none => .ok ⟨[], none⟩
    | some (.error e) => .error e
    | some (.ok names) => .ok ⟨names, if i + 1 < pages.length then some (tokenOf (i + 1)) else none⟩

end Container

namespace Blob

def properties (b : Blob) : Except StorageError BlobProperties :=
  match b.propertiesError with
  | some e => .error e
  | none => .ok ⟨b.size.getD b.data.length, b.modified⟩

/-- The answer to the next download. -/
def download (b : Blob) (offset length : Nat) : Except StorageError Bytes :=
  let fault : Option Fault := (b.faults.find? (·.1 = b.downloads)).map (·.2)
  match fault with
  | some (.error e) => .error e
  | _ =>
    if b.data.length < offset + length then .error pastEnd
    else
      let data := (b.data.drop offset).take length
      match fault with
      | some (.short n) => .ok (data.take (length - n))
      | some (.long n) => .ok (data ++ List.replicate n 0xEE)
      | _ => .ok data

end Blob

/-- A client only knows what account it was asked for. -/
structure Client where
  account : String

def storage : Storage Account Client where
  connect _ path url a :=
    let error := (a.connectErrors[a.connects]?).join
    let a := { a.record (.connect path url.account) with connects := a.connects + 1 }
    match error with
    | some e => (.error (.ofStorage "connect to account for" path e), a)
    | none => (.ok ⟨if url.account.isEmpty then "mock" else url.account⟩, a)
  account client := client.account
  openContainer _ name a :=
    let a := a.record (.container name)
    match a.container? name with
    | none => (.error (noContainer name), a)
    | some c => match c.error with
      | some e => (.error e, a)
      | none => (.ok (), a)
  list _ name start token a :=
    let a := a.record (.list start token)
    match a.container? name with
    | none => (.error (noContainer name), a)
    | some c => (c.page start token, a)
  properties _ name key a :=
    let a := a.record (.properties key)
    match a.blob? name key with
    | none => (.error (noBlob key), a)
    | some b => (b.properties, a)
  download _ name key offset length options a :=
    let a := a.record (.download key offset length options.concurrency options.chunkSize)
    match a.blob? name key with
    | none => (.error (noBlob key), a)
    | some b => (b.download offset length, a.count name key)

end BlobFiles.Scripted
