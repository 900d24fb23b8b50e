import BlobFiles.Proofs.FileSystem.Paging
import BlobFiles.Proofs.Session.Sharable
import BlobFiles.Proofs.Storage.MemoryListing
import BlobFiles.Proofs.Url.RoundTrip

/-! # What a wildcard finds can be read

The URLs that a wildcard is expanded to are built from the URL and the listed keys, so they name the
same account and container again: opening one takes the context that the expansion has left, or
connects as it did, and finds the blob under the listed key. Reads bring the data of that blob.
-/
namespace BlobFiles

variable {σ κ : Type}

/-- A lookup that succeeds has left the way open for the next one to the same account. -/
theorem World.acquire_again {storage : Storage σ κ}
    (hConnect : ∀ settings path url s,
      ∃ client, (storage.connect settings path url s).1 = .ok client)
    {settings : Settings} {path : String} {url : BlobUrl} {w : World σ κ}
    {made : Nat × StorageContext κ} (hMade : (w.acquire storage settings path url).1 = .ok made)
    {w' : World σ κ} (hContexts : w'.contexts = (w.acquire storage settings path url).2.contexts)
    (path' : String) (url' : BlobUrl) (hAccount : url'.account = url.account) :
    ∃ made', (w'.acquire storage settings path' url').1 = .ok made' := by
  obtain ⟨id, context⟩ := made
  have hConnectTo : ∀ options target,
      ∃ made', (w'.connectTo storage settings path' url' options target).1 = .ok made' := by
    intro options target
    obtain ⟨client, hClient⟩ := hConnect settings path' url' w'.service
    unfold connectTo
    split
    · rename_i hFailed
      rw [hFailed] at hClient
      cases hClient
    · exact ⟨_, rfl⟩
  rw [acquire_eq, hContexts, hAccount]
  rcases acquire_ok hMade with ⟨hCaching, hSharable, hSame, -⟩ |
    ⟨options, target, hTarget, hOptions, ⟨client, -, hContext⟩, -, hEnrolled, -⟩
  · rw [hSame, Contexts.route_eq_shared_iff.mpr ⟨hCaching, hSharable⟩]
    exact ⟨_, rfl⟩
  · rcases hTarget with ⟨hCaching, rfl⟩ | ⟨hCaching, rfl, -, hRegistry⟩
    · simp only [Contexts.route, hCaching, Contexts.connecting, hOptions]
      exact hConnectTo options none
    · obtain ⟨registry, hRegistry⟩ := Option.isSome_iff_exists.mp hRegistry
      have hValid : context.valid = true := by rw [hContext]
      have hShared := Contexts.sharable?_enroll_self hRegistry hValid url.account
      rw [hEnrolled, Contexts.route_eq_shared_iff.mpr ⟨hCaching, hShared⟩]
      exact ⟨_, rfl⟩

namespace FileSystem

theorem openFile_of_enter {storage : Storage σ κ} {settings : Settings} {path : String}
    {flags : OpenFlags} (hFlags : flags.write = false) {url : BlobUrl}
    (hUrl : BlobUrl.parse path = .ok url) {w w' : World σ κ} {context : StorageContext κ}
    (hEnter : enter storage settings path url w = (.ok context, w')) :
    openFile storage (some settings) path flags w =
      let blob : BlobRef κ := ⟨context.client, url.container, url.path⟩
      let (result, service) := openBlob storage path flags context.options blob w'.service
      (result, { w' with service }) := by
  simp only [openFile, hFlags, hUrl, hEnter, Bool.false_eq_true, if_false]

theorem enter_of_glob {storage : Storage σ κ} {settings : Settings} {path : String} {url : BlobUrl}
    (hUrl : BlobUrl.parse path = .ok url) {start : String}
    (hStart : Glob.sharedPrefix? url.path = some start) {w : World σ κ} {urls : List String}
    (hGlob : (glob storage (some settings) path w).1 = .ok urls) :
    ∃ context, (enter storage settings path url w).1 = .ok context := by
  unfold glob at hGlob
  simp only [hUrl, hStart] at hGlob
  split at hGlob
  · cases hGlob
  · rename_i context w' hEnter
    exact ⟨context, by rw [hEnter]⟩

/-! ## Over the memory account -/

section Memory

open Memory (storageOver)

variable {lister : Memory.Store → Memory.Lister} {w : World Memory.Store Memory.Client}
  {settings : Settings} {path : String} {url : BlobUrl}

theorem enter_memory (lister : Memory.Store → Memory.Lister) (settings : Settings)
    (path : String) (url : BlobUrl) (w : World Memory.Store Memory.Client) :
    enter (storageOver lister) settings path url w =
      ((w.acquire (storageOver lister) settings path url).1.map (·.2),
        (w.acquire (storageOver lister) settings path url).2) := by
  unfold enter
  obtain ⟨result, w'⟩ := w.acquire (storageOver lister) settings path url
  cases result with
  | error e => rfl
  | ok made => rfl

theorem entries_acquire (lister : Memory.Store → Memory.Lister) (settings : Settings)
    (path : String) (url : BlobUrl) (w : World Memory.Store Memory.Client) :
    (w.acquire (storageOver lister) settings path url).2.service.entries =
      w.service.entries := by
  rw [World.acquire_eq]
  cases w.contexts.route settings url.account <;> rfl

theorem collect_memory (lister : Memory.Store → Memory.Lister) (client : Memory.Client)
    (url : BlobUrl) (start : String) (s : Memory.Store) :
    collect (storageOver lister) client url start none [] s =
      (.ok (matching url ((lister s).names url.container start)), s) := by
  rw [collect_eq]
  rfl

theorem glob_memory (hUrl : BlobUrl.parse path = .ok url) {start : String}
    (hStart : Glob.sharedPrefix? url.path = some start) {made : Nat × StorageContext Memory.Client}
    (hMade : (w.acquire (storageOver lister) settings path url).1 = .ok made) :
    let after := (w.acquire (storageOver lister) settings path url).2
    glob (storageOver lister) (some settings) path w =
      (.ok (matching url ((lister after.service).names url.container start)), after) := by
  have hEnter : (enter (storageOver lister) settings path url w).1 = .ok made.2 := by
    rw [enter_memory, hMade]
    rfl
  rw [glob_of_enter (storageOver lister) hUrl hStart hEnter]
  simp only [collect_memory, enter_memory]
  rfl

theorem acquire_of_glob (hUrl : BlobUrl.parse path = .ok url) {start : String}
    (hStart : Glob.sharedPrefix? url.path = some start) {urls : List String}
    (hGlob : (glob (storageOver lister) (some settings) path w).1 = .ok urls) :
    ∃ made, (w.acquire (storageOver lister) settings path url).1 = .ok made := by
  obtain ⟨context, hEnter⟩ := enter_of_glob hUrl hStart hGlob
  rw [enter_memory] at hEnter
  cases hResult : (w.acquire (storageOver lister) settings path url).1 with
  | error e =>
    rw [hResult] at hEnter
    cases hEnter
  | ok made => exact ⟨made, rfl⟩

theorem openBlob_memory (path : String) (flags : OpenFlags) (options : ReadOptions)
    (client : Memory.Client) {container key : String} {data : Bytes} {s : Memory.Store}
    (h : s.Holds container key data) :
    openBlob (storageOver lister) path flags options ⟨client, container, key⟩ s =
      (.ok ⟨⟨client, container, key⟩, .ofProperties path flags options ⟨data.length, none⟩⟩,
        s) := by
  have hProperties : (storageOver lister).properties client container key s =
      (.ok ⟨data.length, none⟩, s) := congrArg (·, s) h.properties
  rw [openBlob, hProperties]

theorem openFile_memory {flags : OpenFlags} (hFlags : flags.write = false)
    (hUrl : BlobUrl.parse path = .ok url) {made : Nat × StorageContext Memory.Client}
    (hMade : (w.acquire (storageOver lister) settings path url).1 = .ok made) {data : Bytes}
    (hHolds : w.service.Holds url.container url.path data) :
    openFile (storageOver lister) (some settings) path flags w =
      (.ok ⟨⟨made.2.client, url.container, url.path⟩,
          .ofProperties path flags made.2.options ⟨data.length, none⟩⟩,
        (w.acquire (storageOver lister) settings path url).2) := by
  have hEntries := entries_acquire lister settings path url w
  have hEnter := enter_memory lister settings path url w
  rw [hMade] at hEnter
  rw [openFile_of_enter hFlags hUrl hEnter]
  simp only [openBlob_memory _ _ _ _ (hHolds.congr hEntries)]

theorem glob_reads_back (hLists : ∀ s, (lister s).Lists s) (hNormalized : w.service.Normalized)
    (hUrl : BlobUrl.parse path = .ok url) {start : String}
    (hStart : Glob.sharedPrefix? url.path = some start) {urls : List String}
    (hGlob : (glob (storageOver lister) (some settings) path w).1 = .ok urls) {found : String}
    (hFound : found ∈ urls) {flags : OpenFlags} (hFlags : flags.write = false) :
    ∃ key data handle w',
      found = url.objectUrl key ∧ key ∈ w.service.list url.container start ∧
      w.service.get? s!"{url.container}/{key}" = some data ∧
      openFile (storageOver lister) (some settings) found flags
          (glob (storageOver lister) (some settings) path w).2 = (.ok handle, w') ∧
      handle.reader.length = data.length ∧
      ∀ sizes : List Nat, (∀ n ∈ sizes, 0 < n) →
        ∃ chunks after, handle.reader.readEach ((storageOver lister).downloadOf handle.blob)
            sizes w'.service = (.ok chunks, after) ∧
          chunks.flatten = data.take (Reader.roomOf sizes) ∧
          ([] ∈ chunks → chunks.flatten = data) := by
  obtain ⟨made, hMade⟩ := acquire_of_glob hUrl hStart hGlob
  rw [glob_memory hUrl hStart hMade] at hGlob ⊢
  cases hGlob
  obtain ⟨key, hMatch, rfl⟩ := List.mem_map.mp hFound
  have hEntries := entries_acquire lister settings path url w
  have hListed : key ∈ w.service.list url.container start := by
    rw [← Memory.Store.list_congr hEntries, ← ((hLists _).names_perm _ _).mem_iff]
    exact (List.mem_filter.mp hMatch).1
  obtain ⟨data, hData, hHolds⟩ := hNormalized.holds hListed
  -- The found URL differs in the path only, so its lookup goes the way of the first one.
  have hReopened := BlobUrl.parse_objectUrl (BlobUrl.wellFormed_of_parse hUrl).1 key
  obtain ⟨made', hMade'⟩ := World.acquire_again (fun _ _ _ _ => ⟨_, rfl⟩) hMade rfl
    (url.objectUrl key) { url with path := key } rfl
  have hThen := hHolds.congr hEntries
  have hOpened := openFile_memory hFlags hReopened hMade' hThen
  refine ⟨key, data, _, _, rfl, hListed, hData, hOpened, rfl, ?_⟩
  intro sizes hSizes
  have hSound := Reader.sound_ofProperties (url.objectUrl key) flags made'.2.options data none
  have hNow := hThen.congr (entries_acquire lister settings (url.objectUrl key)
    { url with path := key } (w.acquire (storageOver lister) settings path url).2)
  obtain ⟨chunks, r', s', hRead, hFlatten, hEnd⟩ := Reader.readEach_delivered
    (Memory.storage_delivers lister made'.2.client url.container key data) hSound hNow sizes
  refine ⟨chunks, (r', s'), hRead, hFlatten, fun hNothing => ?_⟩
  have hReached : data.length ≤ 0 + Reader.roomOf sizes := hEnd hSizes hNothing
  rw [Nat.zero_add] at hReached
  exact hFlatten.trans (List.take_of_length_le hReached)

/-- One blob, beside a directory and under a name that another container has too. -/
theorem glob_reads_back_beside_directory :
    let store : Memory.Store :=
      { entries := [("c/a.csv", [1, 2, 3]), ("c/b/", []), ("d/a.csv", [4])] }
    let w : World Memory.Store Memory.Client := ⟨store, {}⟩
    let path := "az://acct.host/c/*.csv"
    let url : BlobUrl := ⟨true, "az://", "acct", "host", "c", "*.csv"⟩
    let found := "az://acct.host/c/a.csv"
    let flags : OpenFlags := { read := true }
    ((∀ s : Memory.Store, s.lister.Lists s) ∧ store.Normalized ∧
      BlobUrl.parse path = .ok url ∧ Glob.sharedPrefix? url.path = some "" ∧
      (glob Memory.storage (some {}) path w).1 = .ok [found] ∧ flags.write = false) ∧
    ∃ key data handle w',
      found = url.objectUrl key ∧ key ∈ store.list url.container "" ∧
      store.get? s!"{url.container}/{key}" = some data ∧
      openFile Memory.storage (some {}) found flags (glob Memory.storage (some {}) path w).2 =
        (.ok handle, w') ∧
      handle.reader.length = data.length ∧
      ∀ sizes : List Nat, (∀ n ∈ sizes, 0 < n) →
        ∃ chunks after, handle.reader.readEach (Memory.storage.downloadOf handle.blob) sizes
            w'.service = (.ok chunks, after) ∧
          chunks.flatten = data.take (Reader.roomOf sizes) ∧
          ([] ∈ chunks → chunks.flatten = data) := by
  intro store w path url found flags
  have hNormalized : store.Normalized := by decide
  have hUrl : BlobUrl.parse "az://acct.host/c/*.csv" = .ok url := by rfl
  have hStart : Glob.sharedPrefix? "*.csv" = some "" := by rfl
  have hMade : (w.acquire Memory.storage {} path url).1 = .ok (0, ⟨⟨"acct"⟩, {}, true⟩) := by rfl
  have hListed : (w.acquire Memory.storage {} path url).2.service.list "c" "" = ["a.csv"] := by
    decide
  have hMatch : matching url ["a.csv"] = [found] := by cbv
  have hGlob : (glob (storageOver Memory.Store.lister) (some {}) path w).1 = .ok [found] := by
    rw [glob_memory hUrl hStart hMade]
    exact congrArg Except.ok ((congrArg (matching url) hListed).trans hMatch)
  exact ⟨⟨Memory.Store.lister_lists, hNormalized, hUrl, hStart, hGlob, rfl⟩,
    glob_reads_back Memory.Store.lister_lists hNormalized hUrl hStart hGlob
      (List.mem_singleton_self found) rfl⟩

end Memory

end FileSystem

end BlobFiles
