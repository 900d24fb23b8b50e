import BlobFiles.Proofs.Session.Sharable
import BlobFiles.Session.Step
import BlobFiles.Storage.Memory

/-! # Lookups change all or nothing

A lookup that fails leaves the contexts as they were. It was refused before the service was asked,
or the one connect that it made has failed. A lookup that succeeds has changed no entry but that of
its account and no context that was there before; with caching off it has changed no entry at all. A
foreign state under the key of the account stays where it is and is told nothing. It makes a lookup
fail that wants to share; with caching off nothing looks at the registry.
-/
namespace BlobFiles

namespace Contexts

variable {κ : Type} {c d : Contexts κ} {settings : Settings} {account : String}

/-- The causes for which a lookup is refused, in the order in which they are looked at. -/
inductive Refuses (c : Contexts κ) (settings : Settings) (account : String) : FsError → Prop where
  | caching {e : FsError} (hCaching : settings.caching = .error e) :
      Refuses c settings account e
  | noRegistry (hCaching : settings.caching = .ok true) (hRegistry : c.registry = none) :
      Refuses c settings account
        (.internal "Cannot cache Azure storage contexts without a client context")
  | foreign {id : Nat} (hCaching : settings.caching = .ok true)
      (hEntry : c.registered? (registryKey account) = some (.foreign id)) :
      Refuses c settings account
        (.internal s!"Registered state '{registryKey account}' is not an Azure storage context")
  | ownOptions {e : FsError} (hCaching : settings.caching = .ok false)
      (hOptions : settings.readOptions = .error e) : Refuses c settings account e
  | sharedOptions {e : FsError} (hCaching : settings.caching = .ok true)
      (hRegistry : c.registry.isSome)
      (hEntry : ∀ id, c.registered? (registryKey account) ≠ some (.foreign id))
      (hShared : c.sharable? account = none) (hOptions : settings.readOptions = .error e) :
      Refuses c settings account e

theorem connecting_eq_refused_iff {target : Option String} {e : FsError} :
    (connecting settings target : Route κ) = .refused e ↔ settings.readOptions = .error e := by
  unfold connecting
  cases settings.readOptions with
  | error e' =>
    constructor <;>
    · intro h
      cases h
      rfl
  | ok options =>
    constructor <;>
    · intro h
      cases h

theorem refuses_of_route {e : FsError} (h : c.route settings account = .refused e) :
    c.Refuses settings account e := by
  unfold route at h
  split at h
  · rename_i hCaching
    cases h
    exact .caching hCaching
  · rename_i hCaching
    exact .ownOptions hCaching (connecting_eq_refused_iff.mp h)
  · rename_i hCaching
    split at h
    · rename_i hRegistry
      cases h
      exact .noRegistry hCaching hRegistry
    · rename_i registry hRegistry
      have hLookup : c.registered? (registryKey account) =
          registry.lookup? (registryKey account) := by
        rw [registered?, hRegistry, Option.getD_some]
      split at h
      · rename_i hForeign
        cases h
        exact .foreign hCaching (hLookup.trans hForeign)
      · cases h
      · rename_i hShared hNotForeign
        have hSome : c.registry.isSome := Option.isSome_iff_exists.mpr ⟨registry, hRegistry⟩
        apply Refuses.sharedOptions hCaching hSome _ hShared (connecting_eq_refused_iff.mp h)
        intro id hEntry
        exact hNotForeign id (hLookup.symm.trans hEntry)

theorem Refuses.route {e : FsError} (h : c.Refuses settings account e) :
    c.route settings account = .refused e := by
  unfold Contexts.route
  cases h with
  | caching hCaching => rw [hCaching]
  | noRegistry hCaching hRegistry => rw [hCaching, hRegistry]
  | ownOptions hCaching hOptions =>
    rw [hCaching]
    exact connecting_eq_refused_iff.mpr hOptions
  | foreign hCaching hEntry =>
    unfold registered? at hEntry
    cases hRegistry : c.registry with
    | none =>
      rw [hRegistry] at hEntry
      cases hEntry
    | some registry =>
      rw [hRegistry, Option.getD_some] at hEntry
      rw [hCaching]
      simp only [hEntry]
  | sharedOptions hCaching hRegistry hEntry hShared hOptions =>
    obtain ⟨registry, hRegistry⟩ := Option.isSome_iff_exists.mp hRegistry
    unfold registered? at hEntry
    rw [hRegistry, Option.getD_some] at hEntry
    rw [hCaching, hRegistry]
    simp only [hShared]
    exact connecting_eq_refused_iff.mpr hOptions

/-- No entry but one may differ, contexts may have been added, and nothing was told. -/
structure OnlyEntry (key : String) (c d : Contexts κ) : Prop where
  others : ∀ other, other ≠ key → d.registered? other = c.registered? other
  created : c.created <+: d.created
  notices : d.notices = c.notices

theorem OnlyEntry.refl (key : String) (c : Contexts κ) : OnlyEntry key c c where
  others _ _ := rfl
  created := List.prefix_refl _
  notices := rfl

theorem onlyEntry_enroll (c : Contexts κ) (context : StorageContext κ) {target : Option String}
    (h : ∀ other, target = some other → other = account) :
    OnlyEntry (registryKey account) c (c.enroll target context) where
  others key hKey := by
    cases target with
    | none => rfl
    | some other =>
      rw [h other rfl]
      exact registered?_register_of_ne (c := (c.push context).2) hKey _
  created := by
    cases target <;> exact List.prefix_append _ _
  notices := by
    cases target <;> rfl

end Contexts

namespace World

variable {σ κ : Type} {storage : Storage σ κ} {settings : Settings} {path : String} {url : BlobUrl}
  {w : World σ κ}

theorem acquire_of_refuses {e : FsError} (h : w.contexts.Refuses settings url.account e) :
    w.acquire storage settings path url = (.error e, w) ∧
      w.connects storage settings path url = 0 := by
  rw [acquire_eq, connects_eq, h.route]
  exact ⟨rfl, rfl⟩

theorem refuses_or_connect_of_acquire {e : FsError}
    (h : (w.acquire storage settings path url).1 = .error e) :
    w.contexts.Refuses settings url.account e ∨
      (w.connects storage settings path url = 1 ∧
        (storage.connect settings path url w.service).1 = .error e) := by
  rw [acquire_eq] at h
  rw [connects_eq]
  cases hRoute : w.contexts.route settings url.account with
  | refused e' =>
    rw [hRoute] at h
    cases h
    exact .inl (Contexts.refuses_of_route hRoute)
  | shared id context =>
    rw [hRoute] at h
    cases h
  | connect options target =>
    simp only [hRoute, connectTo] at h
    split at h
    · rename_i hConnect
      cases h
      rw [hConnect]
      exact .inr ⟨rfl, rfl⟩
    · cases h

theorem onlyEntry_acquire :
    Contexts.OnlyEntry (registryKey url.account) w.contexts
      (w.acquire storage settings path url).2.contexts := by
  cases hAnswer : (w.acquire storage settings path url).1 with
  | error e =>
    rw [acquire_error hAnswer]
    exact .refl _ _
  | ok made =>
    obtain ⟨_, _, hSame, _⟩ | ⟨_, target, hTarget, _, _, _, hContexts, _⟩ := acquire_ok hAnswer
    · rw [hSame]
      exact .refl _ _
    · rw [hContexts]
      apply Contexts.onlyEntry_enroll
      rintro other rfl
      obtain ⟨_, hNone⟩ | ⟨_, hSome, _⟩ := hTarget
      · cases hNone
      · exact Option.some.inj hSome

theorem registry_acquire_of_not_caching (h : settings.caching = .ok false) :
    (w.acquire storage settings path url).2.contexts.registry = w.contexts.registry := by
  cases hAnswer : (w.acquire storage settings path url).1 with
  | error e => rw [acquire_error hAnswer]
  | ok made =>
    obtain ⟨hOn, _⟩ | ⟨_, target, hTarget, _, _, _, hContexts, _⟩ := acquire_ok hAnswer
    · cases h.symm.trans hOn
    · obtain ⟨_, rfl⟩ | ⟨hOn, _⟩ := hTarget
      · rw [hContexts]
        rfl
      · cases h.symm.trans hOn

theorem registered?_acquire_of_foreign {id : Nat}
    (h : w.contexts.registered? (registryKey url.account) = some (.foreign id)) :
    (w.acquire storage settings path url).2.contexts.registered? (registryKey url.account) =
      some (.foreign id) := by
  cases hCaching : settings.caching with
  | error e => rwa [(acquire_of_refuses (.caching hCaching)).1]
  | ok caching =>
    cases caching with
    | true => rwa [(acquire_of_refuses (.foreign hCaching h)).1]
    | false =>
      unfold Contexts.registered? at h ⊢
      rwa [registry_acquire_of_not_caching hCaching]

/-- What a lookup does to the contexts, whatever they are and however it ends. -/
theorem acquire_atomic (storage : Storage σ κ) (settings : Settings) (path : String)
    (url : BlobUrl) (w : World σ κ) :
    let key := registryKey url.account
    let answer := (w.acquire storage settings path url).1
    let after := (w.acquire storage settings path url).2
    (∀ e, answer = .error e →
      after.contexts = w.contexts ∧
      (w.contexts.Refuses settings url.account e ∨
        (w.connects storage settings path url = 1 ∧
          (storage.connect settings path url w.service).1 = .error e))) ∧
    (∀ e, w.contexts.Refuses settings url.account e →
      answer = .error e ∧ after = w ∧ w.connects storage settings path url = 0) ∧
    (∀ made, answer = .ok made →
      Contexts.OnlyEntry key w.contexts after.contexts ∧
      (settings.caching = .ok false → after.contexts.registry = w.contexts.registry)) ∧
    ∀ id, w.contexts.registered? key = some (.foreign id) →
      after.contexts.registered? key = some (.foreign id) ∧
      after.contexts.notices = w.contexts.notices ∧
      (settings.caching = .ok true → answer = .error
        (.internal s!"Registered state '{key}' is not an Azure storage context")) := by
  intro key answer after
  refine ⟨?_, ?_, ?_, ?_⟩
  · intro e hAnswer
    exact ⟨acquire_error hAnswer, refuses_or_connect_of_acquire hAnswer⟩
  · intro e hRefuses
    obtain ⟨hAcquire, hConnects⟩ := acquire_of_refuses hRefuses
    exact ⟨congrArg Prod.fst hAcquire, congrArg Prod.snd hAcquire, hConnects⟩
  · intro made _
    exact ⟨onlyEntry_acquire, registry_acquire_of_not_caching⟩
  · intro id hEntry
    refine ⟨registered?_acquire_of_foreign hEntry, onlyEntry_acquire.notices, ?_⟩
    intro hCaching
    exact congrArg Prod.fst (acquire_of_refuses (.foreign hCaching hEntry)).1

/-! An expired context, and a foreign state under the key of another account. -/

def mixed : World Memory.Store Memory.Client where
  service := {}
  contexts :=
    { created := [⟨⟨"acct"⟩, {}, false⟩]
      notices := [2]
      registry := some [(registryKey "acct", .context 0), (registryKey "other", .foreign 0)] }

def qualifiedPath (account : String) : String := s!"az://{account}.blob.core.windows.net/c/k"

def qualifiedUrl (account : String) : BlobUrl :=
  ⟨true, "az://", account, "blob.core.windows.net", "c", "k"⟩

/-- A setting that cannot be read, an expired context that is replaced, and a foreign state. -/
theorem acquire_atomic_mixed :
    let acquire := mixed.acquire Memory.storage
    let unread : Settings := ⟨[(Settings.bufferSizeKey, .bool true)]⟩
    let cause := "invalid type: boolean `true`, expected usize"
    let failed := acquire unread (qualifiedPath "acct") (qualifiedUrl "acct")
    let renewed := acquire {} (qualifiedPath "acct") (qualifiedUrl "acct")
    let refused := acquire {} (qualifiedPath "other") (qualifiedUrl "other")
    (failed.1 = .error (.invalidSetting Settings.bufferSizeKey cause) ∧
      failed.2.contexts = mixed.contexts) ∧
    (renewed.1 = .ok (1, ⟨⟨"acct"⟩, {}, true⟩) ∧
      Contexts.OnlyEntry (registryKey "acct") mixed.contexts renewed.2.contexts) ∧
    (mixed.contexts.registered? (registryKey "other") = some (.foreign 0) ∧
      refused.1 = .error (.internal
        "Registered state 'azure_blob_context:other' is not an Azure storage context") ∧
      refused.2 = mixed ∧
      mixed.connects Memory.storage {} (qualifiedPath "other") (qualifiedUrl "other") = 0) := by
  intro acquire unread cause failed renewed refused
  have hFailed : failed.1 = .error (.invalidSetting Settings.bufferSizeKey cause) := rfl
  have hRenewed : renewed.1 = .ok (1, ⟨⟨"acct"⟩, {}, true⟩) := rfl
  have hForeign : mixed.contexts.registered? (registryKey "other") = some (.foreign 0) := rfl
  obtain ⟨hError, -, -, -⟩ :=
    acquire_atomic Memory.storage unread (qualifiedPath "acct") (qualifiedUrl "acct") mixed
  obtain ⟨-, -, hOk, -⟩ :=
    acquire_atomic Memory.storage {} (qualifiedPath "acct") (qualifiedUrl "acct") mixed
  obtain ⟨-, hRefuses, -, hKept⟩ :=
    acquire_atomic Memory.storage {} (qualifiedPath "other") (qualifiedUrl "other") mixed
  obtain ⟨-, hSame, hConnects⟩ := hRefuses _ (.foreign rfl hForeign)
  obtain ⟨-, -, hInternal⟩ := hKept 0 hForeign
  exact ⟨⟨hFailed, (hError _ hFailed).1⟩, ⟨hRenewed, (hOk _ hRenewed).1⟩,
    hForeign, hInternal rfl, hSame, hConnects⟩

/-- With caching off, a lookup succeeds next to a foreign state under the key of its account. -/
theorem not_acquire_internal_of_foreign :
    ¬ ∀ (settings : Settings) (commands : List Command) (path : String) (url : BlobUrl) (id : Nat),
      let ss : Session Memory.Store Memory.Client :=
        (Session.start {} settings true).run Memory.storage commands
      ss.world.contexts.registered? (registryKey url.account) = some (.foreign id) →
        ∃ reason, (ss.world.acquire Memory.storage ss.settings path url).1 =
          .error (.internal reason) := by
  intro hFails
  obtain ⟨reason, hReason⟩ := hFails ⟨[(Settings.cachingKey, .bool false)]⟩
    [.register (registryKey "acct")] (qualifiedPath "acct") (qualifiedUrl "acct") 0 rfl
  cases hReason

end World

end BlobFiles
