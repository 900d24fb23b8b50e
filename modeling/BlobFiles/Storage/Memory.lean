import BlobFiles.Storage.Basic
import BlobFiles.Storage.ServiceFailure
import BlobFiles.Text.Blank
import BlobFiles.Text.Split

/-! # The memory account

One store of bytes under normalised paths serves every account; a container is a directory of it.
A path that ends in a slash is a directory: it exists as the root, as a marker put by
`makeDirectory?`, or because something lies below it. Nothing has a modification time. A listing is
a single page of what a lister has come upon; the store's own goes through the paths in the order of
their code points, which is that of their UTF-8 bytes.
-/
namespace BlobFiles.Memory

/-- Trimmed, without slashes in front or twice in a row; the root is a single slash. -/
def normalize (path : List Char) : List Char :=
  let inner := (Text.trim path).dropWhile (· = '/')
  if inner.isEmpty then ['/']
  else
    let names := (inner.splitOn '/').filter (!·.isEmpty)
    let joined := ['/'].intercalate names
    if inner.getLast? = some '/' then joined ++ ['/'] else joined

def isDirectory (path : List Char) : Bool := path.getLast? = some '/'

structure Store where
  /-- In order of the paths. -/
  entries : List (String × Bytes) := []
  connects : Nat := 0

namespace Store

def insert (path : String) (data : Bytes) : List (String × Bytes) → List (String × Bytes)
  | [] => [(path, data)]
  | (p, d) :: rest =>
    if path < p then (path, data) :: (p, d) :: rest
    else if path = p then (path, data) :: rest
    else (p, d) :: insert path data rest

def get? (s : Store) (path : String) : Option Bytes :=
  (s.entries.find? (·.1 = path)).map (·.2)

theorem find?_insert_self (path : String) (data : Bytes) (entries : List (String × Bytes)) :
    (insert path data entries).find? (·.1 = path) = some (path, data) := by
  induction entries with
  | nil => simp [insert]
  | cons e entries ih =>
    simp only [insert]
    split
    · simp
    · split
      · simp
      · next h => simp [Ne.symm h, ih]

theorem find?_insert_of_ne {path other : String} (h : other ≠ path) (data : Bytes)
    (entries : List (String × Bytes)) :
    (insert path data entries).find? (·.1 = other) = entries.find? (·.1 = other) := by
  induction entries with
  | nil => simp [insert, Ne.symm h]
  | cons e entries ih =>
    simp only [insert]
    split
    · simp [Ne.symm h]
    · split
      · next hp => simp [← hp, Ne.symm h]
      · simp only [List.find?_cons, ih]

/-- The key under which a normalised path is stored. -/
def keyOf (path : List Char) : String := if path = ['/'] then "" else .ofList path

/-- The paths below a directory, its own marker included. -/
def below (s : Store) (directory : List Char) : List String :=
  (s.entries.map (·.1)).filter fun p => (keyOf directory).toList.isPrefixOf p.toList

end Store

/-- How the store refuses a request about a path. -/
def refusal (kind : FailureKind) (operation : String) (path : List Char)
    (details : List (String × String)) (message : String) : ServiceFailure :=
  ⟨kind, operation, [("service", "memory"), ("path", .ofList path)] ++ details, message⟩

def missing (operation : String) (path : List Char) (details : List (String × String)) :
    ServiceFailure :=
  refusal .notFound operation path details "kv doesn't have this path"

def noDirectory : ServiceFailure := { kind := .notFound, message := "the directory is not found" }

/-- The path of a blob in the store. -/
def blobPath (container key : String) : List Char :=
  normalize (container.toList ++ '/' :: key.toList)

/-- The paths that are come upon below a directory, in whatever order. -/
abbrev Lister := (directory : List Char) → List String

/-- The directory that `start` reaches into. -/
def directoryOf (container start : String) : List Char :=
  Text.throughLast '/' (container.toList ++ '/' :: start.toList)

/-- The name of the blob at a path, when the blob is in the container and its name begins with
`start`. -/
def nameIn? (container start path : String) : Option String :=
  if isDirectory path.toList then none
  else
    match (container.toList ++ ['/']).isPrefixOf? (path.toList.dropWhile (· = '/')) with
    | some name => if start.toList.isPrefixOf name then some (.ofList name) else none
    | none => none

/-- The names in a container that begin with `start`. The lister goes through more than these. -/
def Lister.names (lister : Lister) (container start : String) : List String :=
  (lister (directoryOf container start)).filterMap (nameIn? container start)

namespace Store

def put (s : Store) (path : String) (data : Bytes) : Except ServiceFailure Store :=
  let path := normalize path.toList
  if isDirectory path then
    .error (refusal .isADirectory "Operator::write_with" path [] "write path is a directory")
  else .ok { s with entries := insert (keyOf path) data s.entries }

def delete (s : Store) (path : String) : Store :=
  { s with entries := s.entries.filter (·.1 ≠ keyOf (normalize path.toList)) }

/-- Refused for a path that does not name a directory. -/
def makeDirectory? (s : Store) (path : String) : Option Store :=
  let path := normalize path.toList
  if isDirectory path then some { s with entries := insert (keyOf path) [] s.entries } else none

def directoryExists (s : Store) (path : List Char) : Bool :=
  path = ['/'] || !(s.below path).isEmpty

def lister (s : Store) : Lister := fun directory => s.below (normalize directory)

def list (s : Store) (container start : String) : List String := s.lister.names container start

/-- A directory is no blob. -/
def directoryError (key : String) : StorageError :=
  ⟨"BlobNotFound", "The specified blob does not exist.", s!"'{key}' is a directory"⟩

def properties (s : Store) (container key : String) : Except StorageError BlobProperties :=
  let path := blobPath container key
  if isDirectory path then
    if s.directoryExists path then .error (directoryError key) else .error noDirectory.toStorage
  else
    match s.get? (keyOf path) with
    | some data => .ok ⟨data.length, none⟩
    | none => .error (missing "stat" path []).toStorage

/-- The last byte of the first request that a download is split into. -/
def firstRequestEnd (offset length chunk : Nat) : Nat :=
  offset + (if chunk = 0 then length else min chunk length) - 1

def download (s : Store) (container key : String) (offset length chunk : Nat) :
    Except StorageError Bytes :=
  if length = 0 then .ok []
  else
    let path := blobPath container key
    if isDirectory path then
      .error (refusal .isADirectory "read" path [] "read path is a directory").toStorage
    else
      match s.get? (keyOf path) with
      | some data => .ok ((data.drop offset).take length)
      | none =>
        let range := s!"{offset}-{firstRequestEnd offset length chunk}"
        .error (missing "read" path [("range", range)]).toStorage

end Store

/-- A client only knows what account it was asked for. -/
structure Client where
  account : String

/-- The account over a store, with any way to list it. -/
def storageOver (lister : Store → Lister) : Storage Store Client where
  connect _ _ url s :=
    let account := if url.account.isEmpty then "memory" else url.account
    (.ok ⟨account⟩, { s with connects := s.connects + 1 })
  account client := client.account
  openContainer _ _ s := (.ok (), s)
  list _ container start _ s := (.ok ⟨(lister s).names container start, none⟩, s)
  properties _ container key s := (s.properties container key, s)
  download _ container key offset length options s :=
    (s.download container key offset length options.chunkSize, s)

def storage : Storage Store Client := storageOver Store.lister

end BlobFiles.Memory
