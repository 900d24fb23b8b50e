import BlobFiles.Endpoint.WebUrl
import BlobFiles.Settings.ConnectionString
import BlobFiles.Storage.Basic
import BlobFiles.Storage.ServiceFailure

/-! # Remote accounts

A remote account is reached at an endpoint, given as a URL or as a suffix to the account's name,
with a key, a token or nothing. `resolve` takes account, endpoint and credentials from the blob URL,
the settings and the connection string; for each of them the first source that has it wins. Requests
for listings, properties and bytes go over a network that is a parameter here.
-/
namespace BlobFiles.Remote

inductive Credentials where
  | anonymous
  | key (value : String)
  | token (value : String)
  deriving DecidableEq

namespace Credentials

/-- The text that may be shown: no secret is part of it. -/
def redacted : Credentials → String
  | anonymous => "Anonymous"
  | key _ => "AccountKey(***)"
  | token _ => "SasToken(***)"

/-- What a container is opened with; an empty secret is none. -/
def effective : Credentials → Credentials
  | key value => if value.isEmpty then anonymous else key value
  | token value => if value.isEmpty then anonymous else token value
  | anonymous => anonymous

def kind : Credentials → String
  | anonymous => "Anonymous"
  | key _ => "AccountKey"
  | token _ => "SasToken"

end Credentials

structure Client where
  account : String
  endpoint : String
  credentials : Credentials
  deriving DecidableEq

def defaultEndpoint : String := "blob.core.windows.net"

/-- A URL stays as it is, but for slashes at its end; a suffix is put behind the account's name. -/
def endpointUrl (account endpoint : String) : String :=
  if Text.contains "://".toList endpoint.toList then .ofList (Text.dropTrailing '/' endpoint.toList)
  else s!"https://{account}.{endpoint}"

def invalidUri (endpoint : String) (fault : Endpoint.UrlFault) : StorageError where
  code := "InvalidUri"
  reason := "The requested URI does not represent any resource on the server."
  detail := s!"invalid endpoint '{endpoint}': {fault.message}"

def Client.create (account endpoint : String) (credentials : Credentials) :
    Except StorageError Client :=
  let url := endpointUrl account endpoint
  match Endpoint.checkUrl url.toList with
  | .ok () => .ok ⟨account, url, credentials⟩
  | .error fault => .error (invalidUri url fault)

def emptyContainer : ServiceFailure where
  kind := .configInvalid
  operation := "Builder::build"
  context := [("service", "azblob")]
  message := "container is empty"

/-- What the requests of a container are sent with. -/
structure ContainerAccess where
  endpoint : String
  credentials : Credentials
  deriving DecidableEq

def Client.container (c : Client) (name : String) : Except StorageError ContainerAccess :=
  if name.isEmpty then .error emptyContainer.toStorage
  else .ok ⟨.ofList (Text.dropTrailing '/' c.endpoint.toList), c.credentials.effective⟩

def connectionString (s : Settings) : Except FsError ConnectionString := do
  match ← s.get? Json.decodeString ConnectionString.settingKey with
  | some text => ConnectionString.parse text
  | none => return {}

def resolveAccount (s : Settings) (cs : ConnectionString) (path : String) (url : BlobUrl) :
    Except FsError String := do
  let account ←
    if url.fullyQualified then pure (some url.account)
    else pure ((← s.get? Json.decodeString Settings.accountNameKey).or cs.accountName)
  match account.filter (!·.isEmpty) with
  | some account => return account
  | none =>
    throw (.invalidSetting Settings.accountNameKey
      s!"no storage account for '{path}', set it or use a fully qualified URL")

def resolveEndpoint (s : Settings) (cs : ConnectionString) (url : BlobUrl) :
    Except FsError String := do
  if url.fullyQualified then return url.endpoint
  return ((← s.get? Json.decodeString Settings.endpointKey).or cs.blobEndpoint).getD defaultEndpoint

/-- Settings come before the connection string, and keys before tokens. -/
def resolveCredentials (s : Settings) (cs : ConnectionString) : Except FsError Credentials := do
  if let some key ← s.get? Json.decodeString Settings.secretKey then return .key key
  if let some token ← s.get? Json.decodeString Settings.tokenKey then return .token token
  if let some key := cs.accountKey then return .key key
  if let some token := cs.sasToken then return .token token
  return .anonymous

def resolve (s : Settings) (path : String) (url : BlobUrl) : Except FsError Client := do
  let cs ← connectionString s
  let account ← resolveAccount s cs path url
  let endpoint ← resolveEndpoint s cs url
  let credentials ← resolveCredentials s cs
  (Client.create account endpoint credentials).mapError (.ofStorage "connect to account for" path)

/-- The requests that go over the network. -/
structure Network (σ : Type) where
  list : ContainerAccess → (container start : String) → (token : Option String) → σ →
    Except StorageError ListPage × σ
  properties : ContainerAccess → (container key : String) → σ →
    Except StorageError BlobProperties × σ
  download : ContainerAccess → (container key : String) → Download σ

/-- A network that answers nothing. -/
def offline : Network Unit where
  list _ _ _ _ s := (.error (.unknown "no network"), s)
  properties _ _ _ s := (.error (.unknown "no network"), s)
  download _ _ _ _ _ _ s := (.error (.unknown "no network"), s)

/-- Sends a request for a container that the client can open. -/
def withContainer {σ α : Type} (c : Client) (container : String) (s : σ)
    (request : ContainerAccess → σ → Except StorageError α × σ) : Except StorageError α × σ :=
  match c.container container with
  | .ok access => request access s
  | .error e => (.error e, s)

def storage {σ : Type} (network : Network σ) : Storage σ Client where
  connect settings path url s := (resolve settings path url, s)
  account c := c.account
  openContainer c container s := withContainer c container s fun _ s => (.ok (), s)
  list c container start token s :=
    withContainer c container s fun access s => network.list access container start token s
  properties c container key s :=
    withContainer c container s fun access s => network.properties access container key s
  download c container key offset length options s :=
    withContainer c container s fun access s =>
      network.download access container key offset length options s

end BlobFiles.Remote
