import BlobFiles.Proofs.Session.History

/-! # What commands do to the contexts

The contexts of a session change through lookups, the registry and the ends of queries, and through
nothing else. `Session.events` says which of these a command comes to, with what it asks of the
service told as its result only; the world of a session is then what its events have made of the
world it began with. No command looks up anything but URLs it has parsed.
-/
namespace BlobFiles

variable {σ κ : Type}

namespace FileSystem

/-- The lookup for a path, when there are settings and the path is a URL that will do. -/
def lookups (settings : Option Settings) (path : String) (wanted : BlobUrl → Bool) :
    List (Event σ) :=
  match settings, BlobUrl.parse path with
  | some settings, .ok url => if wanted url then [.acquire settings path url] else []
  | _, _ => []

theorem enter_contexts (storage : Storage σ κ) (settings : Settings) (path : String)
    (url : BlobUrl) (w : World σ κ) :
    (enter storage settings path url w).2.contexts =
      (w.acquire storage settings path url).2.contexts := by
  unfold enter
  obtain ⟨result, w'⟩ := w.acquire storage settings path url
  cases result with
  | error e => rfl
  | ok made =>
    simp only
    split <;> rfl

theorem openFile_contexts (storage : Storage σ κ) (settings : Option Settings) (path : String)
    (flags : OpenFlags) (w : World σ κ) :
    (openFile storage settings path flags w).2.contexts =
      (w.after storage (lookups settings path fun _ => !flags.write)).contexts := by
  unfold openFile lookups
  cases hWrite : flags.write with
  | true => cases settings <;> cases BlobUrl.parse path <;> rfl
  | false =>
    cases settings with
    | none => rfl
    | some settings =>
      cases BlobUrl.parse path with
      | error e => rfl
      | ok url =>
        change _ = (w.acquire storage settings path url).2.contexts
        rw [← enter_contexts]
        simp only [Bool.false_eq_true, if_false]
        obtain ⟨result, w'⟩ := enter storage settings path url w
        cases result <;> rfl

theorem fileExists_contexts (storage : Storage σ κ) (settings : Option Settings) (path : String)
    (w : World σ κ) :
    (fileExists storage settings path w).2.contexts =
      (w.after storage (lookups settings path fun _ => true)).contexts := by
  have hOpen : (openFile storage settings path { read := true } w).2.contexts =
      (w.after storage (lookups settings path fun _ => true)).contexts :=
    openFile_contexts storage settings path { read := true } w
  unfold fileExists
  rw [← hOpen]
  obtain ⟨result, w'⟩ := openFile storage settings path { read := true } w
  cases result <;> rfl

theorem glob_contexts (storage : Storage σ κ) (settings : Option Settings) (path : String)
    (w : World σ κ) :
    (glob storage settings path w).2.contexts =
      (w.after storage
        (lookups settings path fun url => (Glob.sharedPrefix? url.path).isSome)).contexts := by
  unfold glob lookups
  cases settings with
  | none => rfl
  | some settings =>
    cases BlobUrl.parse path with
    | error e => rfl
    | ok url =>
      simp only
      split
      · rename_i hStart
        rw [if_neg (by simp [hStart])]
        rfl
      · rename_i start hStart
        rw [if_pos (by simp [hStart])]
        change _ = (w.acquire storage settings path url).2.contexts
        rw [← enter_contexts]
        obtain ⟨result, w'⟩ := enter storage settings path url w
        cases result <;> rfl

end FileSystem

namespace World

end World

namespace Session

/-- Without a client context there is no registry to do anything to. -/
def registered (ss : Session σ κ) (event : Event σ) : List (Event σ) :=
  match ss.world.contexts.registry with
  | none => []
  | some _ => [event]

def contextEvents (ss : Session σ κ) : Command → List (Event σ)
  | .openFile _ path flags withSettings =>
    FileSystem.lookups (ss.offered withSettings) path fun _ => !flags.write
  | .fileExists path withSettings =>
    FileSystem.lookups (ss.offered withSettings) path fun _ => true
  | .glob path withSettings =>
    FileSystem.lookups (ss.offered withSettings) path fun url =>
      (Glob.sharedPrefix? url.path).isSome
  | .context path => FileSystem.lookups (some ss.settings) path fun _ => true
  | .queryEnd => ss.registered .queryEnd
  | .register key => ss.registered (.register key)
  | .unregister key => ss.registered (.unregister key)
  | _ => []

/-- What a command comes to; the service is afterwards as the command leaves it. -/
def events (storage : Storage σ κ) (ss : Session σ κ) (command : Command) : List (Event σ) :=
  ss.contextEvents command ++ [.traffic fun _ => (ss.step storage command).2.world.service]

def eventsOf (storage : Storage σ κ) : List Command → Session σ κ → List (Event σ)
  | [], _ => []
  | command :: commands, ss =>
    ss.events storage command ++ eventsOf storage commands (ss.step storage command).2

theorem context_contexts (storage : Storage σ κ) (path : String) (ss : Session σ κ) :
    (ss.context storage path).2.world.contexts =
      (ss.world.after storage
        (FileSystem.lookups (some ss.settings) path fun _ => true)).contexts := by
  unfold context FileSystem.lookups
  cases BlobUrl.parse path with
  | error e => rfl
  | ok url =>
    change _ = (ss.world.acquire storage ss.settings path url).2.contexts
    simp only
    obtain ⟨result, w'⟩ := ss.world.acquire storage ss.settings path url
    cases result with
    | error e => rfl
    | ok made =>
      simp only [label]
      split <;> rfl

theorem withFreshClient_contexts (storage : Storage σ κ) (path : String) (ss : Session σ κ)
    (request : κ → (container : String) → σ → Except StorageError Answer × σ) :
    (ss.withFreshClient storage path request).2.world.contexts = ss.world.contexts := by
  unfold withFreshClient
  split
  · rfl
  · split
    · rfl
    · split <;> rfl

theorem openContainer_contexts (storage : Storage σ κ) (label : Nat) (container : String)
    (ss : Session σ κ) :
    (ss.openContainer storage label container).2.world.contexts = ss.world.contexts := by
  unfold openContainer
  split <;> rfl

theorem askFile_contexts (storage : Storage σ κ) (name : String) (request : FileRequest)
    (ss : Session σ κ) :
    (ss.askFile storage name request).2.world.contexts = ss.world.contexts := by
  unfold askFile
  split <;> rfl

theorem step_contexts (storage : Storage σ κ) (ss : Session σ κ) (command : Command) :
    (ss.step storage command).2.world.contexts =
      (ss.world.after storage (ss.contextEvents command)).contexts := by
  cases command with
  | openFile name path flags withSettings =>
    have hOpen := FileSystem.openFile_contexts storage (ss.offered withSettings) path flags ss.world
    rw [contextEvents, ← hOpen]
    simp only [step, openFile]
    obtain ⟨result, w'⟩ := FileSystem.openFile storage (ss.offered withSettings) path flags ss.world
    cases result <;> rfl
  | fileExists path withSettings =>
    exact FileSystem.fileExists_contexts storage (ss.offered withSettings) path ss.world
  | glob path withSettings =>
    exact FileSystem.glob_contexts storage (ss.offered withSettings) path ss.world
  | context path => exact context_contexts storage path ss
  | queryEnd =>
    simp only [step, queryEnd, contextEvents, registered]
    cases ss.world.contexts.registry <;> rfl
  | register key =>
    simp only [step, register, contextEvents, registered]
    cases ss.world.contexts.registry <;> rfl
  | unregister key =>
    simp only [step, unregister, contextEvents, registered]
    cases ss.world.contexts.registry <;> rfl
  | file name request => exact askFile_contexts storage name request ss
  | openContainer label container => exact openContainer_contexts storage label container ss
  | list path start => exact withFreshClient_contexts storage path ss _
  | properties path key => exact withFreshClient_contexts storage path ss _
  | download path key offset length options => exact withFreshClient_contexts storage path ss _
  | closeFile name | fileSystemName | set key value | registry => rfl

end Session

end BlobFiles
