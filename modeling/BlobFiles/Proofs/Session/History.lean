import BlobFiles.Proofs.Session.Sharable
import BlobFiles.Session.Step
import Mathlib.Data.List.Induction

/-! # Histories of context lookups

What happens to the contexts of a session, one event after the other, and what is on record
afterwards. `firstShared` reads off a record which context an account shares; that the registry
holds this very context is the invariant `Tracked`, and `lawful_history` is what follows for every
lookup on record. Of the service nothing is assumed: between two lookups it may change at will.
-/
namespace BlobFiles

inductive Event (σ : Type) where
  | acquire (settings : Settings) (path : String) (url : BlobUrl)
  | queryEnd
  | register (key : String)
  | unregister (key : String)
  /-- Whatever else is asked of the service. -/
  | traffic (change : σ → σ)

/-- A lookup and what came of it. -/
structure Lookup (κ : Type) where
  settings : Settings
  path : String
  url : BlobUrl
  result : Except FsError (Nat × StorageContext κ)
  connects : Nat

inductive Occurrence (κ : Type) where
  | lookup (l : Lookup κ)
  | queryEnd
  | register (key : String)
  | unregister (key : String)
  | traffic

variable {σ κ : Type}

namespace World

def lookup (storage : Storage σ κ) (settings : Settings) (path : String) (url : BlobUrl)
    (w : World σ κ) : Lookup κ where
  settings := settings
  path := path
  url := url
  result := (w.acquire storage settings path url).1
  connects := w.connects storage settings path url

def occur (storage : Storage σ κ) (w : World σ κ) : Event σ → Occurrence κ × World σ κ
  | .acquire settings path url =>
    (.lookup (w.lookup storage settings path url), (w.acquire storage settings path url).2)
  | .queryEnd => (.queryEnd, { w with contexts := w.contexts.queryEnd })
  | .register key => (.register key, { w with contexts := (w.contexts.registerNew key).2 })
  | .unregister key => (.unregister key, { w with contexts := w.contexts.unregister key })
  | .traffic change => (.traffic, { w with service := change w.service })

def after (storage : Storage σ κ) (events : List (Event σ)) (w : World σ κ) : World σ κ :=
  events.foldl (fun w event => (w.occur storage event).2) w

def history (storage : Storage σ κ) : List (Event σ) → World σ κ → List (Occurrence κ)
  | [], _ => []
  | event :: events, w =>
    (w.occur storage event).1 :: history storage events (w.occur storage event).2

end World

namespace Lookup

/-- The context, if the lookup was for the account, had caching on, and succeeded. -/
def shared? (account : String) (l : Lookup κ) : Option (Nat × StorageContext κ) :=
  match l.settings.caching, l.result with
  | .ok true, .ok shared => if l.url.account = account then some shared else none
  | _, _ => none

def issued? (l : Lookup κ) : Option Nat :=
  match l.result with
  | .ok (id, _) => some id
  | .error _ => none

theorem shared?_eq_some_iff {account : String} {l : Lookup κ} {shared : Nat × StorageContext κ} :
    l.shared? account = some shared ↔
      l.settings.caching = .ok true ∧ l.url.account = account ∧ l.result = .ok shared := by
  unfold shared?
  constructor
  · intro h
    split at h
    · rename_i hCaching hResult
      split at h
      · rename_i hAccount
        cases h
        exact ⟨hCaching, hAccount, hResult⟩
      · cases h
    · cases h
  · rintro ⟨hCaching, hAccount, hResult⟩
    simp only [hCaching, hResult, hAccount, if_true]

theorem issued?_eq_some_iff {id : Nat} {l : Lookup κ} :
    l.issued? = some id ↔ ∃ context, l.result = .ok (id, context) := by
  unfold issued?
  constructor
  · intro h
    split at h
    · rename_i id' context hResult
      cases h
      exact ⟨context, hResult⟩
    · cases h
  · rintro ⟨context, hResult⟩
    rw [hResult]

theorem shared?_eq_none_of_issued? {l : Lookup κ} (h : l.issued? = none) (account : String) :
    l.shared? account = none := by
  cases hShared : l.shared? account with
  | none => rfl
  | some shared =>
    obtain ⟨_, _, hResult⟩ := shared?_eq_some_iff.mp hShared
    rw [issued?_eq_some_iff.mpr ⟨shared.2, hResult⟩] at h
    cases h

end Lookup

namespace Occurrence

/-- Whether an account has nothing to share after this. -/
def resets (account : String) : Occurrence κ → Bool
  | .queryEnd => true
  | .register key => key = registryKey account
  | .unregister key => key = registryKey account
  | .lookup _ => false
  | .traffic => false

def shared? (account : String) : Occurrence κ → Option (Nat × StorageContext κ)
  | .lookup l => l.shared? account
  | _ => none

def issued? : Occurrence κ → Option Nat
  | .lookup l => l.issued?
  | _ => none

end Occurrence

/-- What came after the latest reset of an account. -/
def sinceReset (account : String) (past : List (Occurrence κ)) : List (Occurrence κ) :=
  (past.reverse.takeWhile fun o => !o.resets account).reverse

/-- The context of the first lookup with caching on since then that succeeded for the account. -/
def firstShared (account : String) (past : List (Occurrence κ)) :
    Option (Nat × StorageContext κ) :=
  (sinceReset account past).findSome? (·.shared? account)

def issued (past : List (Occurrence κ)) : List Nat := past.filterMap (·.issued?)

theorem firstShared_snoc (account : String) (past : List (Occurrence κ)) (o : Occurrence κ) :
    firstShared account (past ++ [o]) =
      if o.resets account then none else (firstShared account past).or (o.shared? account) := by
  unfold firstShared sinceReset
  rw [List.reverse_append, List.reverse_singleton, List.singleton_append, List.takeWhile_cons]
  cases hResets : o.resets account with
  | true => rfl
  | false =>
    simp only [Bool.not_false, if_true, Bool.false_eq_true, if_false, List.reverse_cons,
      List.findSome?_append]
    congr 1
    cases hShared : o.shared? account <;> simp [hShared]

theorem issued_append (past more : List (Occurrence κ)) :
    issued (past ++ more) = issued past ++ issued more := List.filterMap_append

theorem mem_issued_snoc_iff {id : Nat} {past : List (Occurrence κ)} {l : Lookup κ} :
    id ∈ issued (past ++ [.lookup l]) ↔
      id ∈ issued past ∨ ∃ context, l.result = .ok (id, context) := by
  rw [issued_append, List.mem_append, ← Lookup.issued?_eq_some_iff]
  simp only [issued, List.mem_filterMap, List.mem_singleton, exists_eq_left, Occurrence.issued?]

theorem mem_issued_iff {id : Nat} {past : List (Occurrence κ)} :
    id ∈ issued past ↔ ∃ before l context since,
      past = before ++ .lookup l :: since ∧ l.result = .ok (id, context) := by
  unfold issued
  rw [List.mem_filterMap]
  constructor
  · rintro ⟨o, hMem, hIssued⟩
    obtain ⟨before, since, rfl⟩ := List.append_of_mem hMem
    cases o with
    | lookup l =>
      obtain ⟨context, hResult⟩ := Lookup.issued?_eq_some_iff.mp hIssued
      exact ⟨before, l, context, since, rfl, hResult⟩
    | queryEnd | register | unregister | traffic => cases hIssued
  · rintro ⟨before, l, context, since, rfl, hResult⟩
    exact ⟨.lookup l, List.mem_append_right _ List.mem_cons_self,
      Lookup.issued?_eq_some_iff.mpr ⟨context, hResult⟩⟩

theorem of_firstShared {account : String} {past : List (Occurrence κ)} {id : Nat}
    {context : StorageContext κ} (h : firstShared account past = some (id, context)) :
    ∃ before l since, past = before ++ .lookup l :: since ∧
      (l.settings.caching = .ok true ∧ l.url.account = account ∧ l.result = .ok (id, context)) ∧
      firstShared account before = none ∧ ∀ o ∈ since, o.resets account = false := by
  induction past using List.reverseRecOn with
  | nil => cases h
  | append_singleton past o ih =>
    rw [firstShared_snoc] at h
    split at h
    · cases h
    · rename_i hResets
      cases hPast : firstShared account past with
      | none =>
        rw [hPast, Option.none_or] at h
        cases o with
        | lookup l =>
          exact ⟨past, l, [], rfl, Lookup.shared?_eq_some_iff.mp h, hPast, by simp⟩
        | queryEnd | register | unregister | traffic => cases h
      | some first =>
        rw [hPast, Option.some_or] at h
        obtain ⟨before, l, since, hSplit, hFirst, hNone, hSince⟩ := ih (hPast.trans h)
        refine ⟨before, l, since ++ [o], by simp [hSplit], hFirst, hNone, ?_⟩
        intro o' hMem
        rcases List.mem_append.mp hMem with hOld | hNew
        · exact hSince o' hOld
        · cases List.mem_singleton.mp hNew
          simpa using hResets

/-! ## The registry keeps to the record -/

structure Tracked (past : List (Occurrence κ)) (w : World σ κ) : Prop where
  shared : ∀ account, w.contexts.sharable? account = firstShared account past
  numbered : w.contexts.Numbered
  created : ∀ id ∈ issued past, id < w.contexts.created.length

theorem Tracked.start (service : σ) (settings : Settings) (clientContext : Bool) :
    Tracked [] (Session.start service settings clientContext : Session σ κ).world where
  shared account := by cases clientContext <;> rfl
  numbered key id h := by cases clientContext <;> cases h
  created id h := by cases h

namespace Lookup

/-- The context is new, and was made with one connect under the settings of the lookup. -/
structure Made (storage : Storage σ κ) (past : List (Occurrence κ)) (l : Lookup κ) (id : Nat)
    (context : StorageContext κ) : Prop where
  new : id ∉ issued past
  once : l.connects = 1
  client : ∃ s, (storage.connect l.settings l.path l.url s).1 = .ok context.client
  options : l.settings.readOptions = .ok context.options

/-- What a lookup does, given what came before it. -/
def Lawful (storage : Storage σ κ) (past : List (Occurrence κ)) (l : Lookup κ) : Prop :=
  ∀ id context, l.result = .ok (id, context) →
    (l.settings.caching = .ok true ∧ firstShared l.url.account past = some (id, context) ∧
      l.connects = 0) ∨
    ((l.settings.caching = .ok false ∨
        (l.settings.caching = .ok true ∧ firstShared l.url.account past = none)) ∧
      l.Made storage past id context)

end Lookup

namespace Tracked

variable {storage : Storage σ κ} {past : List (Occurrence κ)} {w : World σ κ}

theorem lookup_lawful (h : Tracked past w) (settings : Settings) (path : String) (url : BlobUrl) :
    (w.lookup storage settings path url).Lawful storage past := by
  intro id context hResult
  rcases World.acquire_ok hResult with ⟨hCaching, hSharable, _, hConnects⟩ |
    ⟨options, _, hTarget, hOptions, ⟨client, hClient, rfl⟩, hId, _, hConnects⟩
  · rw [h.shared] at hSharable
    exact .inl ⟨hCaching, hSharable, hConnects⟩
  · refine .inr ⟨?_, ?_, hConnects, ⟨w.service, hClient⟩, hOptions⟩
    · rcases hTarget with ⟨hCaching, _⟩ | ⟨hCaching, _, hNone, _⟩
      · exact .inl hCaching
      · rw [h.shared] at hNone
        exact .inr ⟨hCaching, hNone⟩
    · intro hMem
      have hOld := h.created id hMem
      omega

theorem snoc_lookup (h : Tracked past w) {w' : World σ κ} {l : Lookup κ}
    (hContexts : w'.contexts = w.contexts)
    (hResult : ∀ id context, l.result = .ok (id, context) → l.settings.caching = .ok true ∧
      w.contexts.sharable? l.url.account = some (id, context)) :
    Tracked (past ++ [.lookup l]) w' where
  shared account := by
    rw [hContexts, h.shared, firstShared_snoc]
    cases hShared : (Occurrence.lookup l).shared? account with
    | none => exact Option.or_none.symm
    | some shared =>
      obtain ⟨_, hAccount, hOk⟩ := Lookup.shared?_eq_some_iff.mp hShared
      have hSharable := (hResult _ _ hOk).2
      rw [hAccount, h.shared] at hSharable
      rw [hSharable]
      rfl
  numbered := hContexts ▸ h.numbered
  created id hMem := by
    rw [hContexts]
    rcases mem_issued_snoc_iff.mp hMem with hOld | ⟨context, hOk⟩
    · exact h.created id hOld
    · obtain ⟨hEntry, _⟩ := Contexts.sharable?_eq_some_iff.mp (hResult id context hOk).2
      exact h.numbered _ id hEntry

theorem snoc_enroll (h : Tracked past w) {w' : World σ κ} {l : Lookup κ} {options : ReadOptions}
    {client : κ} {target : Option String}
    (hContexts : w'.contexts = w.contexts.enroll target { client, options })
    (hTarget : (l.settings.caching = .ok false ∧ target = none) ∨
      (l.settings.caching = .ok true ∧ target = some l.url.account ∧
        w.contexts.sharable? l.url.account = none ∧ w.contexts.registry.isSome))
    (hResult : l.result = .ok (w.contexts.created.length, { client, options })) :
    Tracked (past ++ [.lookup l]) w' where
  shared account := by
    rw [hContexts, firstShared_snoc, ← h.shared]
    simp only [Occurrence.resets, Bool.false_eq_true, if_false]
    rcases hTarget with ⟨hCaching, rfl⟩ | ⟨hCaching, rfl, hNone, hRegistry⟩
    · have hOff : (Occurrence.lookup l).shared? account = none := by
        simp only [Occurrence.shared?, Lookup.shared?, hCaching]
      rw [hOff, Option.or_none]
      exact Contexts.sharable?_push h.numbered _ account
    · by_cases hAccount : l.url.account = account
      · subst hAccount
        obtain ⟨registry, hRegistry⟩ := Option.isSome_iff_exists.mp hRegistry
        rw [hNone, Option.none_or, Contexts.sharable?_enroll_self hRegistry rfl]
        exact (Lookup.shared?_eq_some_iff.mpr ⟨hCaching, rfl, hResult⟩).symm
      · have hOther : (Occurrence.lookup l).shared? account = none := by
          simp only [Occurrence.shared?, Lookup.shared?, hCaching, hResult, hAccount, if_false]
        rw [hOther, Option.or_none]
        exact Contexts.sharable?_enroll_of_ne h.numbered (Ne.symm hAccount) _
  numbered := hContexts ▸ h.numbered.enroll target _
  created id hMem := by
    rw [hContexts, Contexts.length_created_enroll]
    rcases mem_issued_snoc_iff.mp hMem with hOld | ⟨context, hOk⟩
    · have hId := h.created id hOld
      omega
    · rw [hResult] at hOk
      cases hOk
      omega

theorem acquire (h : Tracked past w) (settings : Settings) (path : String) (url : BlobUrl) :
    Tracked (past ++ [.lookup (w.lookup storage settings path url)])
      (w.acquire storage settings path url).2 := by
  cases hResult : (w.acquire storage settings path url).1 with
  | error e =>
    refine h.snoc_lookup (World.acquire_error hResult) ?_
    intro id context hOk
    cases hResult.symm.trans hOk
  | ok made =>
    obtain ⟨id, context⟩ := made
    rcases World.acquire_ok hResult with ⟨hCaching, hSharable, hWorld, _⟩ |
      ⟨options, target, hTarget, _, ⟨client, _, rfl⟩, rfl, hContexts, _⟩
    · refine h.snoc_lookup (congrArg World.contexts hWorld) ?_
      intro id' context' hOk
      cases hResult.symm.trans hOk
      exact ⟨hCaching, hSharable⟩
    · exact h.snoc_enroll hContexts hTarget hResult

theorem snoc_other (h : Tracked past w) {w' : World σ κ} {o : Occurrence κ}
    (hNone : o.issued? = none) (hLength : w'.contexts.created.length = w.contexts.created.length)
    (hNumbered : w'.contexts.Numbered)
    (hShared : ∀ account, w'.contexts.sharable? account =
      if o.resets account then none else w.contexts.sharable? account) :
    Tracked (past ++ [o]) w' where
  shared account := by
    have hUnshared : o.shared? account = none := by
      cases o with
      | lookup l => exact Lookup.shared?_eq_none_of_issued? hNone account
      | queryEnd | register | unregister | traffic => rfl
    rw [firstShared_snoc, hUnshared, Option.or_none, hShared, h.shared]
  numbered := hNumbered
  created id hMem := by
    rw [hLength]
    refine h.created id ?_
    rw [issued_append, List.mem_append] at hMem
    rcases hMem with hOld | hNew
    · exact hOld
    · simp [issued, hNone] at hNew

theorem occur (h : Tracked past w) (event : Event σ) :
    Tracked (past ++ [(w.occur storage event).1]) (w.occur storage event).2 := by
  cases event with
  | acquire settings path url => exact h.acquire settings path url
  | queryEnd =>
    exact h.snoc_other rfl (Contexts.length_created_foldl_notify _ _) h.numbered.queryEnd
      Contexts.sharable?_queryEnd
  | register key =>
    refine h.snoc_other rfl rfl (h.numbered.registerNew key) fun account => ?_
    simp only [World.occur, Occurrence.resets, decide_eq_true_eq]
    exact Contexts.sharable?_registerNew key account
  | unregister key =>
    refine h.snoc_other rfl rfl (h.numbered.unregister key) fun account => ?_
    simp only [World.occur, Occurrence.resets, decide_eq_true_eq]
    exact Contexts.sharable?_unregister key account
  | traffic change => exact h.snoc_other rfl rfl h.numbered fun _ => rfl

theorem after (h : Tracked past w) (events : List (Event σ)) :
    Tracked (past ++ w.history storage events) (w.after storage events) := by
  induction events generalizing past w with
  | nil => simpa [World.history, World.after] using h
  | cons event events ih => simpa [World.history, World.after] using ih (h.occur event)

end Tracked

theorem lawful_history {storage : Storage σ κ} {past : List (Occurrence κ)} {w : World σ κ}
    (h : Tracked past w) (events : List (Event σ)) {earlier later : List (Occurrence κ)}
    {l : Lookup κ} (hHistory : w.history storage events = earlier ++ .lookup l :: later) :
    l.Lawful storage (past ++ earlier) := by
  induction events generalizing past w earlier with
  | nil => simp [World.history] at hHistory
  | cons event events ih =>
    have hStep : Tracked (past ++ [(w.occur storage event).1]) (w.occur storage event).2 :=
      h.occur event
    cases earlier with
    | nil =>
      cases event with
      | acquire settings path url =>
        simp only [World.history, World.occur, List.nil_append, List.cons.injEq,
          Occurrence.lookup.injEq] at hHistory
        obtain ⟨rfl, _⟩ := hHistory
        rw [List.append_nil]
        exact h.lookup_lawful settings path url
      | queryEnd | register key | unregister key | traffic change =>
        simp [World.history, World.occur] at hHistory
    | cons first earlier =>
      simp only [World.history, List.cons_append, List.cons.injEq] at hHistory
      obtain ⟨rfl, hRest⟩ := hHistory
      have hLater := ih hStep hRest
      rwa [List.append_assoc, List.singleton_append] at hLater

end BlobFiles
