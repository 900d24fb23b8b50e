import BlobFiles.Storage.Basic

/-! # Storage contexts

A storage context is a connected client together with its read options. The contexts of a session
are numbered in the order of their creation, and a number stands for one context for good. Contexts
made with caching on are registered under the account name of the URL that asked for them, next to
foreign states that other parts of the host have registered; the end of a query is told to all that
is in the registry, once for every key, and a context that has been told is not used again.
-/
namespace BlobFiles

structure StorageContext (κ : Type) where
  client : κ
  options : ReadOptions
  valid : Bool := true
  deriving DecidableEq

namespace StorageContext

variable {σ κ : Type}

def openContainer (storage : Storage σ κ) (c : StorageContext κ) (name : String) (s : σ) :
    Except FsError Unit × σ :=
  let (result, s) := storage.openContainer c.client name s
  (result.mapError (.ofStorage "open container" name), s)

/-- The context after it was told that the query has ended. -/
def expire (c : StorageContext κ) : StorageContext κ := { c with valid := false }

def describe (storage : Storage σ κ) (c : StorageContext κ) : String :=
  s!"AzureBlobContextState \x7b account: {Text.quoted (storage.account c.client)}, " ++
    s!"read_options: {c.options.describe}, is_valid: {c.valid} \x7d"

end StorageContext

/-- What is registered under a key. -/
inductive Entry where
  | context (id : Nat)
  | foreign (id : Nat)
  deriving DecidableEq, Repr

abbrev Registry := List (String × Entry)

namespace Registry

def lookup? (r : Registry) (key : String) : Option Entry := (r.find? (·.1 = key)).map (·.2)

def remove (r : Registry) (key : String) : Registry := r.filter (·.1 ≠ key)

def insert (r : Registry) (key : String) (entry : Entry) : Registry :=
  r.remove key ++ [(key, entry)]

theorem lookup?_remove_self (r : Registry) (key : String) : (r.remove key).lookup? key = none := by
  simp [lookup?, remove, List.find?_filter]

theorem lookup?_remove_of_ne {key other : String} (h : other ≠ key) (r : Registry) :
    (r.remove key).lookup? other = r.lookup? other := by
  unfold lookup? remove
  congr 1
  induction r with
  | nil => rfl
  | cons p r ih => by_cases hp : p.1 = key <;> by_cases ho : p.1 = other <;> simp_all

theorem lookup?_insert_self (r : Registry) (key : String) (entry : Entry) :
    (r.insert key entry).lookup? key = some entry := by
  have := lookup?_remove_self r key
  simp only [lookup?, Option.map_eq_none_iff] at this
  simp [lookup?, insert, List.find?_append, this]

theorem lookup?_insert_of_ne {key other : String} (h : other ≠ key) (r : Registry) (entry : Entry) :
    (r.insert key entry).lookup? other = r.lookup? other := by
  have := lookup?_remove_of_ne h r
  unfold lookup? at this ⊢
  simp only [insert, List.find?_append]
  rw [← this]
  simp [Ne.symm h]

theorem keys_nodup_remove {r : Registry} (h : (r.map (·.1)).Nodup) (key : String) :
    ((r.remove key).map (·.1)).Nodup :=
  h.sublist (List.filter_sublist.map _)

theorem keys_nodup_insert {r : Registry} (h : (r.map (·.1)).Nodup) (key : String) (entry : Entry) :
    ((r.insert key entry).map (·.1)).Nodup := by
  rw [insert, List.map_append, List.nodup_append]
  refine ⟨keys_nodup_remove h key, by simp, ?_⟩
  intro a ha b hb
  obtain ⟨e, he, rfl⟩ := List.mem_map.1 ha
  simp only [List.map_cons, List.map_nil, List.mem_singleton] at hb
  simp only [remove, List.mem_filter, decide_eq_true_eq] at he
  rw [hb]
  exact he.2

end Registry

structure Contexts (κ : Type) where
  /-- By number. -/
  created : List (StorageContext κ) := []
  /-- How many query ends each foreign state was told of, by the state's number. -/
  notices : List Nat := []
  /-- Absent when the host offers no client context. -/
  registry : Option Registry := some []

namespace Contexts

variable {κ : Type}

def get? (c : Contexts κ) (id : Nat) : Option (StorageContext κ) := c.created[id]?

/-- A new context and its number. -/
def push (c : Contexts κ) (context : StorageContext κ) : Nat × Contexts κ :=
  (c.created.length, { c with created := c.created ++ [context] })

theorem get?_push_self (c : Contexts κ) (context : StorageContext κ) :
    (c.push context).2.get? (c.push context).1 = some context := by
  simp [push, get?]

theorem get?_push_of_lt {c : Contexts κ} {id : Nat} (h : id < c.created.length)
    (context : StorageContext κ) : (c.push context).2.get? id = c.get? id := by
  simp [push, get?, List.getElem?_append_left h]

/-- Whether there is such a state at all. -/
def Knows (c : Contexts κ) : Entry → Prop
  | .context id => id < c.created.length
  | .foreign id => id < c.notices.length

instance (c : Contexts κ) : (entry : Entry) → Decidable (c.Knows entry)
  | .context id => inferInstanceAs (Decidable (id < c.created.length))
  | .foreign id => inferInstanceAs (Decidable (id < c.notices.length))

/-- Puts a state under a key, in place of what was there. The state may be under other keys too, or
have been there before. -/
def register (c : Contexts κ) (key : String) (entry : Entry) : Contexts κ :=
  { c with registry := c.registry.map (·.insert key entry) }

/-- Puts a new foreign state under a key. -/
def registerNew (c : Contexts κ) (key : String) : Nat × Contexts κ :=
  let id := c.notices.length
  (id, { c with notices := c.notices ++ [0] }.register key (.foreign id))

def unregister (c : Contexts κ) (key : String) : Contexts κ :=
  { c with registry := c.registry.map (·.remove key) }

def isRegistered (c : Contexts κ) (key : String) : Bool :=
  ((c.registry.getD []).lookup? key).isSome

/-- Tells one registered state that the query has ended. -/
def notify (c : Contexts κ) : Entry → Contexts κ
  | .context id => { c with created := c.created.modify id StorageContext.expire }
  | .foreign id => { c with notices := c.notices.modify id (· + 1) }

def queryEnd (c : Contexts κ) : Contexts κ :=
  ((c.registry.getD []).map (·.2)).foldl notify c

end Contexts

/-- The storage service and the contexts of a session. -/
structure World (σ κ : Type) where
  service : σ
  contexts : Contexts κ

def registryKey (account : String) : String := s!"azure_blob_context:{account}"

namespace World

variable {σ κ : Type}

/-- Reads the options, connects, and numbers the new context. -/
def connect (storage : Storage σ κ) (settings : Settings) (path : String) (url : BlobUrl)
    (w : World σ κ) : Except FsError (Nat × StorageContext κ) × World σ κ :=
  match settings.readOptions with
  | .error e => (.error e, w)
  | .ok options =>
    match storage.connect settings path url w.service with
    | (.error e, service) => (.error e, { w with service })
    | (.ok client, service) =>
      let context : StorageContext κ := { client, options }
      let (id, contexts) := w.contexts.push context
      (.ok (id, context), { service, contexts })

/-- Connects and registers the new context. -/
def connectShared (storage : Storage σ κ) (settings : Settings) (path : String) (url : BlobUrl)
    (w : World σ κ) : Except FsError (Nat × StorageContext κ) × World σ κ :=
  match w.connect storage settings path url with
  | (.error e, w) => (.error e, w)
  | (.ok (id, context), w) =>
    let contexts := w.contexts.register (registryKey url.account) (.context id)
    (.ok (id, context), { w with contexts })

/-- The context for a URL, which is an earlier one when it can be shared. -/
def acquire (storage : Storage σ κ) (settings : Settings) (path : String) (url : BlobUrl)
    (w : World σ κ) : Except FsError (Nat × StorageContext κ) × World σ κ :=
  match settings.caching with
  | .error e => (.error e, w)
  | .ok false => w.connect storage settings path url
  | .ok true =>
    match w.contexts.registry with
    | none =>
      (.error (.internal "Cannot cache Azure storage contexts without a client context"), w)
    | some registry =>
      match registry.lookup? (registryKey url.account) with
      | some (.foreign _) =>
        let key := registryKey url.account
        (.error (.internal s!"Registered state '{key}' is not an Azure storage context"), w)
      | some (.context id) =>
        match w.contexts.get? id with
        | some context =>
          if context.valid then (.ok (id, context), w)
          else w.connectShared storage settings path url
        | none => w.connectShared storage settings path url
      | none => w.connectShared storage settings path url

end World

end BlobFiles
