import BlobFiles.FileSystem
import BlobFiles.Session.Command

/-! # Sessions

A session has settings, open files, and the world of a storage service with its contexts. `step`
carries out one command; it is a pure function of the session, and the service may be any `Storage`.
A file that cannot be opened does not disturb an open one of the same name.
-/
namespace BlobFiles

structure Session (σ κ : Type) where
  world : World σ κ
  settings : Settings
  files : List (String × Handle κ) := []
  /-- The numbers of the contexts that were handed out, by label. -/
  shown : List Nat := []
  /-- The numbers of the foreign states, each under the key it was last registered with. -/
  foreign : List (String × Nat) := []

namespace Session

variable {σ κ : Type}

def start (service : σ) (settings : Settings) (clientContext : Bool) : Session σ κ where
  world := ⟨service, { registry := if clientContext then some [] else none }⟩
  settings := settings

def file? (ss : Session σ κ) (name : String) : Option (Handle κ) :=
  (ss.files.find? (·.1 = name)).map (·.2)

def forget (ss : Session σ κ) (name : String) : Session σ κ :=
  { ss with files := ss.files.filter (·.1 ≠ name) }

def keep (ss : Session σ κ) (name : String) (handle : Handle κ) : Session σ κ :=
  { ss with files := (name, handle) :: (ss.forget name).files }

def withService (ss : Session σ κ) (service : σ) : Session σ κ :=
  { ss with world := { ss.world with service } }

def withContexts (ss : Session σ κ) (contexts : Contexts κ) : Session σ κ :=
  { ss with world := { ss.world with contexts } }

/-- The settings as a command gets to see them. -/
def offered (ss : Session σ κ) (withSettings : Bool) : Option Settings :=
  if withSettings then some ss.settings else none

def openFile (storage : Storage σ κ) (name path : String) (flags : OpenFlags) (withSettings : Bool)
    (ss : Session σ κ) : Except Failure Answer × Session σ κ :=
  match FileSystem.openFile storage (ss.offered withSettings) path flags ss.world with
  | (.error e, world) => (.error (.fs e), { ss with world })
  | (.ok handle, world) => (.ok (.opened handle.reader), { ss with world }.keep name handle)

def askFile (storage : Storage σ κ) (name : String) (request : FileRequest) (ss : Session σ κ) :
    Except Failure Answer × Session σ κ :=
  match ss.file? name with
  | none => (.error .noFile, ss)
  | some handle =>
    let (result, reader, service) :=
      handle.reader.answer (storage.downloadOf handle.blob) request ss.world.service
    ((result.map .reply).mapError .ofFile,
      (ss.withService service).keep name { handle with reader })

/-- The label of a context, which is new if the context has not been handed out before. -/
def label (ss : Session σ κ) (id : Nat) : Nat × Session σ κ :=
  match ss.shown.idxOf? id with
  | some i => (i, ss)
  | none => (ss.shown.length, { ss with shown := ss.shown ++ [id] })

def context (storage : Storage σ κ) (path : String) (ss : Session σ κ) :
    Except Failure Answer × Session σ κ :=
  match BlobUrl.parse path with
  | .error e => (.error (.fs e), ss)
  | .ok url =>
    match ss.world.acquire storage ss.settings path url with
    | (.error e, world) => (.error (.fs e), { ss with world })
    | (.ok (id, c), world) =>
      let (label, ss) := { ss with world }.label id
      (.ok (.context ⟨label, storage.account c.client, c.valid, c.options, c.describe storage⟩), ss)

def openContainer (storage : Storage σ κ) (label : Nat) (container : String) (ss : Session σ κ) :
    Except Failure Answer × Session σ κ :=
  match ss.shown[label]?.bind ss.world.contexts.get? with
  | none => (.error .noContext, ss)
  | some c =>
    let (result, service) := c.openContainer storage container ss.world.service
    ((result.map fun () => .done).mapError .fs, ss.withService service)

def queryEnd (ss : Session σ κ) : Except Failure Answer × Session σ κ :=
  match ss.world.contexts.registry with
  | none => (.ok .noClientContext, ss)
  | some _ =>
    let contexts := ss.world.contexts.queryEnd
    let foreign := ss.foreign.map fun (key, id) => (key, contexts.notices[id]?.getD 0)
    let valid := ss.shown.map fun id => ((contexts.get? id).map (·.valid)).getD false
    (.ok (.queryEnded foreign valid), ss.withContexts contexts)

def register (key : String) (ss : Session σ κ) : Except Failure Answer × Session σ κ :=
  match ss.world.contexts.registry with
  | none => (.ok .noClientContext, ss)
  | some _ =>
    let (id, contexts) := ss.world.contexts.registerNew key
    let foreign := (key, id) :: ss.foreign.filter (·.1 ≠ key)
    (.ok .done, { ss.withContexts contexts with foreign })

/-- Answers whether there was something under the key. -/
def unregister (key : String) (ss : Session σ κ) : Except Failure Answer × Session σ κ :=
  match ss.world.contexts.registry with
  | none => (.ok .noClientContext, ss)
  | some _ =>
    (.ok (.flag (ss.world.contexts.isRegistered key)),
      ss.withContexts (ss.world.contexts.unregister key))

/-- The keys in the registry, in order. -/
def registry (ss : Session σ κ) : Answer :=
  match ss.world.contexts.registry with
  | none => .noClientContext
  | some r => .texts ((r.map (·.1)).mergeSort (· ≤ ·))

/-- Sends one request with a client of its own, which shares nothing with the contexts. -/
def withFreshClient (storage : Storage σ κ) (path : String) (ss : Session σ κ)
    (request : κ → (container : String) → σ → Except StorageError Answer × σ) :
    Except Failure Answer × Session σ κ :=
  match BlobUrl.parse path with
  | .error e => (.error (.fs e), ss)
  | .ok url =>
    match storage.connect ss.settings path url ss.world.service with
    | (.error e, service) => (.error (.fs e), ss.withService service)
    | (.ok client, service) =>
      match storage.openContainer client url.container service with
      | (.error e, service) => (.error (.storage e), ss.withService service)
      | (.ok (), service) =>
        let (result, service) := request client url.container service
        (result.mapError .storage, ss.withService service)

def step (storage : Storage σ κ) (command : Command) (ss : Session σ κ) :
    Except Failure Answer × Session σ κ :=
  match command with
  | .openFile name path flags withSettings => ss.openFile storage name path flags withSettings
  | .closeFile name => (.ok (.flag (ss.file? name).isSome), ss.forget name)
  | .file name request => ss.askFile storage name request
  | .fileExists path withSettings =>
    let (found, world) := FileSystem.fileExists storage (ss.offered withSettings) path ss.world
    (.ok (.flag found), { ss with world })
  | .glob path withSettings =>
    let (result, world) := FileSystem.glob storage (ss.offered withSettings) path ss.world
    ((result.map .texts).mapError .fs, { ss with world })
  | .fileSystemName => (.ok (.text FileSystem.name), ss)
  | .set key value => (.ok .done, { ss with settings := ss.settings.set key value })
  | .context path => ss.context storage path
  | .openContainer label container => ss.openContainer storage label container
  | .queryEnd => ss.queryEnd
  | .register key => ss.register key
  | .unregister key => ss.unregister key
  | .registry => (.ok ss.registry, ss)
  | .list path start =>
    ss.withFreshClient storage path fun client container s =>
      let (result, s) := storage.list client container start none s
      (result.map .page, s)
  | .properties path key =>
    ss.withFreshClient storage path fun client container s =>
      let (result, s) := storage.properties client container key s
      (result.map .properties, s)
  | .download path key offset length options =>
    ss.withFreshClient storage path fun client container s =>
      let (result, s) := storage.download client container key offset length options s
      (result.map .bytes, s)

def run (storage : Storage σ κ) (commands : List Command) (ss : Session σ κ) : Session σ κ :=
  commands.foldl (fun ss command => (ss.step storage command).2) ss

end Session

end BlobFiles
