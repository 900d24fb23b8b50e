import BlobFiles.Session.Contexts

/-! # What a context lookup does

Settings and registry decide what a lookup does before the service is asked: it is refused, it
shares a registered context, or it connects. `Contexts.route` is that decision, `acquire_eq` says
that a lookup follows it, and `World.connects` counts the connects that a lookup makes, which are
none or one.
-/
namespace BlobFiles

/-- The same service, counting the connects. -/
def Storage.counted {σ κ : Type} (storage : Storage σ κ) : Storage (σ × Nat) κ where
  connect settings path url s :=
    let (result, service) := storage.connect settings path url s.1
    (result, service, s.2 + 1)
  account := storage.account
  openContainer client container s :=
    let (result, service) := storage.openContainer client container s.1
    (result, service, s.2)
  list client container start token s :=
    let (result, service) := storage.list client container start token s.1
    (result, service, s.2)
  properties client container key s :=
    let (result, service) := storage.properties client container key s.1
    (result, service, s.2)
  download client container key offset length options s :=
    let (result, service) := storage.download client container key offset length options s.1
    (result, service, s.2)

theorem Storage.connect_counted {σ κ : Type} (storage : Storage σ κ) (settings : Settings)
    (path : String) (url : BlobUrl) (s : σ × Nat) :
    storage.counted.connect settings path url s =
      ((storage.connect settings path url s.1).1, (storage.connect settings path url s.1).2,
        s.2 + 1) := rfl

inductive Route (κ : Type) where
  | refused (e : FsError)
  | shared (id : Nat) (context : StorageContext κ)
  /-- Connects, and registers the new context under the account, if there is one. -/
  | connect (options : ReadOptions) (account : Option String)

namespace Contexts

variable {κ : Type}

/-- The valid context that is registered for an account. -/
def sharable? (c : Contexts κ) (account : String) : Option (Nat × StorageContext κ) :=
  match (c.registry.getD []).lookup? (registryKey account) with
  | some (.context id) => ((c.get? id).filter (·.valid)).map fun context => (id, context)
  | _ => none

def connecting (settings : Settings) (account : Option String) : Route κ :=
  match settings.readOptions with
  | .error e => .refused e
  | .ok options => .connect options account

def route (c : Contexts κ) (settings : Settings) (account : String) : Route κ :=
  match settings.caching with
  | .error e => .refused e
  | .ok false => connecting settings none
  | .ok true =>
    match c.registry with
    | none => .refused (.internal "Cannot cache Azure storage contexts without a client context")
    | some registry =>
      match registry.lookup? (registryKey account), c.sharable? account with
      | some (.foreign _), _ =>
        let key := registryKey account
        .refused (.internal s!"Registered state '{key}' is not an Azure storage context")
      | _, some (id, context) => .shared id context
      | _, none => connecting settings (some account)

/-- A new context, registered under an account if there is one. -/
def enroll (c : Contexts κ) (account : Option String) (context : StorageContext κ) : Contexts κ :=
  match account with
  | none => (c.push context).2
  | some account => (c.push context).2.register (registryKey account) (.context c.created.length)

theorem route_eq_shared_iff {c : Contexts κ} {settings : Settings} {account : String} {id : Nat}
    {context : StorageContext κ} :
    c.route settings account = .shared id context ↔
      settings.caching = .ok true ∧ c.sharable? account = some (id, context) := by
  unfold route connecting
  constructor
  · intro h
    split at h
    · cases h
    · split at h <;> cases h
    · rename_i hCaching
      refine ⟨hCaching, ?_⟩
      split at h
      · cases h
      · split at h
        · cases h
        · rename_i hSharable _
          cases h
          exact hSharable
        · split at h <;> cases h
  · rintro ⟨hCaching, hSharable⟩
    rw [hCaching]
    unfold sharable? at hSharable ⊢
    cases hRegistry : c.registry with
    | none =>
      rw [hRegistry] at hSharable
      cases hSharable
    | some registry =>
      simp only [hRegistry, Option.getD_some] at hSharable ⊢
      split at hSharable
      · rename_i hLookup
        simp only [hLookup, hSharable]
      · cases hSharable

theorem of_route_eq_connect {c : Contexts κ} {settings : Settings} {account : String}
    {options : ReadOptions} {target : Option String}
    (h : c.route settings account = .connect options target) :
    (settings.caching = .ok false ∧ target = none) ∨
      (settings.caching = .ok true ∧ target = some account ∧ c.sharable? account = none ∧
        c.registry.isSome) := by
  unfold route connecting at h
  split at h
  · cases h
  · rename_i hCaching
    split at h
    · cases h
    · cases h
      exact .inl ⟨hCaching, rfl⟩
  · rename_i hCaching
    split at h
    · cases h
    · rename_i registry hRegistry
      split at h
      · cases h
      · cases h
      · rename_i hSharable _
        split at h
        · cases h
        · cases h
          exact .inr ⟨hCaching, rfl, hSharable, by rw [hRegistry]; rfl⟩

theorem readOptions_of_route_eq_connect {c : Contexts κ} {settings : Settings} {account : String}
    {options : ReadOptions} {target : Option String}
    (h : c.route settings account = .connect options target) :
    settings.readOptions = .ok options := by
  have hConnecting : ∀ {account? : Option String},
      (connecting settings account? : Route κ) = .connect options target →
        settings.readOptions = .ok options := by
    intro account? hConnect
    unfold connecting at hConnect
    split at hConnect
    · cases hConnect
    · rename_i hOptions
      cases hConnect
      exact hOptions
  unfold route at h
  split at h
  · cases h
  · exact hConnecting h
  · split at h
    · cases h
    · split at h
      · cases h
      · cases h
      · exact hConnecting h

end Contexts

namespace World

variable {σ κ : Type}

def connectTo (storage : Storage σ κ) (settings : Settings) (path : String) (url : BlobUrl)
    (options : ReadOptions) (account : Option String) (w : World σ κ) :
    Except FsError (Nat × StorageContext κ) × World σ κ :=
  match storage.connect settings path url w.service with
  | (.error e, service) => (.error e, { w with service })
  | (.ok client, service) =>
    (.ok (w.contexts.created.length, { client, options }),
      ⟨service, w.contexts.enroll account { client, options }⟩)

theorem connect_eq (storage : Storage σ κ) (settings : Settings) (path : String) (url : BlobUrl)
    (w : World σ κ) :
    w.connect storage settings path url =
      match settings.readOptions with
      | .error e => (.error e, w)
      | .ok options => w.connectTo storage settings path url options none := by
  unfold connect connectTo
  cases settings.readOptions with
  | error e => rfl
  | ok options =>
    simp only
    obtain ⟨answer, service⟩ := storage.connect settings path url w.service
    cases answer <;> rfl

theorem connectShared_eq (storage : Storage σ κ) (settings : Settings) (path : String)
    (url : BlobUrl) (w : World σ κ) :
    w.connectShared storage settings path url =
      match settings.readOptions with
      | .error e => (.error e, w)
      | .ok options => w.connectTo storage settings path url options (some url.account) := by
  unfold connectShared connect connectTo
  cases settings.readOptions with
  | error e => rfl
  | ok options =>
    simp only
    obtain ⟨answer, service⟩ := storage.connect settings path url w.service
    cases answer <;> rfl

theorem acquire_eq (storage : Storage σ κ) (settings : Settings) (path : String) (url : BlobUrl)
    (w : World σ κ) :
    w.acquire storage settings path url =
      match w.contexts.route settings url.account with
      | .refused e => (.error e, w)
      | .shared id context => (.ok (id, context), w)
      | .connect options account => w.connectTo storage settings path url options account := by
  unfold acquire Contexts.route
  cases hCaching : settings.caching with
  | error e => rfl
  | ok caching =>
    cases caching with
    | false =>
      simp only [connect_eq, Contexts.connecting]
      cases settings.readOptions <;> rfl
    | true =>
      cases hRegistry : w.contexts.registry with
      | none => rfl
      | some registry =>
        simp only [Contexts.sharable?, hRegistry, Option.getD_some, connectShared_eq,
          Contexts.connecting]
        cases hLookup : registry.lookup? (registryKey url.account) with
        | none => cases settings.readOptions <;> rfl
        | some entry =>
          cases entry with
          | foreign id => rfl
          | context id =>
            simp only
            cases hContext : w.contexts.get? id with
            | none => cases settings.readOptions <;> rfl
            | some context =>
              cases hValid : context.valid with
              | true => simp [Option.filter, hValid]
              | false =>
                simp only [Option.filter, hValid]
                cases settings.readOptions <;> rfl

def connects (storage : Storage σ κ) (settings : Settings) (path : String) (url : BlobUrl)
    (w : World σ κ) : Nat :=
  let counting : World (σ × Nat) κ := ⟨(w.service, 0), w.contexts⟩
  (counting.acquire storage.counted settings path url).2.service.2

theorem connects_eq (storage : Storage σ κ) (settings : Settings) (path : String) (url : BlobUrl)
    (w : World σ κ) :
    w.connects storage settings path url =
      match w.contexts.route settings url.account with
      | .connect _ _ => 1
      | _ => 0 := by
  simp only [connects, acquire_eq]
  cases w.contexts.route settings url.account with
  | refused e => rfl
  | shared id context => rfl
  | connect options account =>
    simp only [connectTo, Storage.connect_counted]
    cases (storage.connect settings path url w.service).1 <;> rfl

theorem acquire_error {storage : Storage σ κ} {settings : Settings} {path : String} {url : BlobUrl}
    {w : World σ κ} {e : FsError} (h : (w.acquire storage settings path url).1 = .error e) :
    (w.acquire storage settings path url).2.contexts = w.contexts := by
  rw [acquire_eq] at h ⊢
  cases hRoute : w.contexts.route settings url.account with
  | refused e => rfl
  | shared id context => rfl
  | connect options target =>
    simp only [hRoute, connectTo] at h ⊢
    split at h
    · rfl
    · cases h

/-- A lookup that succeeds has shared what there was to share, or has connected once. -/
theorem acquire_ok {storage : Storage σ κ} {settings : Settings} {path : String} {url : BlobUrl}
    {w : World σ κ} {id : Nat} {context : StorageContext κ}
    (h : (w.acquire storage settings path url).1 = .ok (id, context)) :
    (settings.caching = .ok true ∧ w.contexts.sharable? url.account = some (id, context) ∧
      (w.acquire storage settings path url).2 = w ∧ w.connects storage settings path url = 0) ∨
    ∃ options target,
      ((settings.caching = .ok false ∧ target = none) ∨
        (settings.caching = .ok true ∧ target = some url.account ∧
          w.contexts.sharable? url.account = none ∧ w.contexts.registry.isSome)) ∧
      settings.readOptions = .ok options ∧
      (∃ client, (storage.connect settings path url w.service).1 = .ok client ∧
        context = { client, options }) ∧
      id = w.contexts.created.length ∧
      (w.acquire storage settings path url).2.contexts = w.contexts.enroll target context ∧
      w.connects storage settings path url = 1 := by
  rw [connects_eq]
  rw [acquire_eq] at h ⊢
  cases hRoute : w.contexts.route settings url.account with
  | refused e =>
    rw [hRoute] at h
    cases h
  | shared id' context' =>
    rw [hRoute] at h
    cases h
    obtain ⟨hCaching, hSharable⟩ := Contexts.route_eq_shared_iff.mp hRoute
    exact .inl ⟨hCaching, hSharable, rfl, rfl⟩
  | connect options target =>
    refine .inr ⟨options, target, Contexts.of_route_eq_connect hRoute,
      Contexts.readOptions_of_route_eq_connect hRoute, ?_⟩
    simp only [hRoute, connectTo] at h ⊢
    split at h
    · cases h
    · rename_i client service hConnect
      cases h
      rw [hConnect]
      exact ⟨⟨client, rfl, rfl⟩, rfl, rfl, trivial⟩

end World

end BlobFiles
