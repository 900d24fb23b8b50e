import BlobFiles.Proofs.Session.Route

/-! # Which contexts can be shared

What registering, removing, enrolling and the end of a query do to the context that an account
shares. An operation under the key of one account leaves the other accounts alone, because accounts
with one key are the same account; the end of a query leaves nothing to share.
-/
namespace BlobFiles

theorem registryKey_injective {a b : String} (h : registryKey a = registryKey b) : a = b := by
  unfold registryKey at h
  have hLists := congrArg String.toList h
  simp only [String.toList_append] at hLists
  exact String.toList_inj.mp (List.append_cancel_left hLists)

theorem Registry.mem_of_lookup? {r : Registry} {key : String} {entry : Entry}
    (h : r.lookup? key = some entry) : (key, entry) ∈ r := by
  obtain ⟨p, hFound, rfl⟩ := Option.map_eq_some_iff.mp h
  have hKey : p.1 = key := by simpa using List.find?_some hFound
  rw [← hKey]
  exact List.mem_of_find?_eq_some hFound

namespace Contexts

variable {κ : Type} {c d : Contexts κ}

def registered? (c : Contexts κ) (key : String) : Option Entry := (c.registry.getD []).lookup? key

/-- What is registered has been created. -/
def Numbered (c : Contexts κ) : Prop :=
  ∀ key id, c.registered? key = some (.context id) → id < c.created.length

theorem sharable?_eq_some_iff {account : String} {id : Nat} {context : StorageContext κ} :
    c.sharable? account = some (id, context) ↔
      c.registered? (registryKey account) = some (.context id) ∧ c.get? id = some context ∧
        context.valid = true := by
  unfold sharable? registered?
  constructor
  · intro h
    split at h
    · rename_i found hEntry
      obtain ⟨context', hContext, hPair⟩ := Option.map_eq_some_iff.mp h
      cases hPair
      exact ⟨hEntry, Option.filter_eq_some_iff.mp hContext⟩
    · cases h
  · rintro ⟨hEntry, hContext, hValid⟩
    rw [hEntry]
    simp only [hContext, Option.filter, hValid, if_true, Option.map_some]

theorem sharable?_eq_none_iff {account : String} :
    c.sharable? account = none ↔
      ∀ id context, c.registered? (registryKey account) = some (.context id) →
        c.get? id = some context → context.valid = false := by
  constructor
  · intro h id context hEntry hContext
    cases hValid : context.valid with
    | false => rfl
    | true =>
      have hShared := sharable?_eq_some_iff.mpr ⟨hEntry, hContext, hValid⟩
      rw [h] at hShared
      cases hShared
  · intro h
    cases hShared : c.sharable? account with
    | none => rfl
    | some shared =>
      obtain ⟨hEntry, hContext, hValid⟩ := sharable?_eq_some_iff.mp hShared
      rw [h _ _ hEntry hContext] at hValid
      cases hValid

theorem sharable?_congr {account : String}
    (hEntry : d.registered? (registryKey account) = c.registered? (registryKey account))
    (hGet : ∀ id, c.registered? (registryKey account) = some (.context id) →
      d.get? id = c.get? id) :
    d.sharable? account = c.sharable? account := by
  unfold registered? at hEntry hGet
  unfold sharable?
  rw [hEntry]
  split
  · rename_i id hId
    rw [hGet id hId]
  · rfl

theorem registered?_register_self {registry : Registry} (h : c.registry = some registry)
    (key : String) (entry : Entry) : (c.register key entry).registered? key = some entry := by
  simp only [registered?, register, h, Option.map_some, Option.getD_some,
    Registry.lookup?_insert_self]

theorem registered?_register_of_ne {key other : String} (h : other ≠ key) (entry : Entry) :
    (c.register key entry).registered? other = c.registered? other := by
  unfold registered? register
  cases c.registry with
  | none => rfl
  | some registry =>
    simp only [Option.map_some, Option.getD_some, Registry.lookup?_insert_of_ne h]

theorem registered?_unregister_self (key : String) : (c.unregister key).registered? key = none := by
  unfold registered? unregister
  cases c.registry with
  | none => rfl
  | some registry => simp only [Option.map_some, Option.getD_some, Registry.lookup?_remove_self]

theorem registered?_unregister_of_ne {key other : String} (h : other ≠ key) :
    (c.unregister key).registered? other = c.registered? other := by
  unfold registered? unregister
  cases c.registry with
  | none => rfl
  | some registry => simp only [Option.map_some, Option.getD_some, Registry.lookup?_remove_of_ne h]

theorem sharable?_unregister (key account : String) :
    (c.unregister key).sharable? account =
      if key = registryKey account then none else c.sharable? account := by
  split
  · rename_i hKey
    subst hKey
    rw [sharable?_eq_none_iff]
    intro id context hEntry
    rw [registered?_unregister_self] at hEntry
    cases hEntry
  · rename_i hKey
    exact sharable?_congr (registered?_unregister_of_ne (Ne.symm hKey)) fun _ _ => rfl

theorem registered?_registerNew_ne (key : String) (id : Nat) :
    (c.registerNew key).2.registered? key ≠ some (.context id) := by
  change (c.register key (.foreign c.notices.length)).registered? key ≠ some (.context id)
  cases hRegistry : c.registry with
  | none => simp [registered?, register, hRegistry, Registry.lookup?]
  | some registry =>
    rw [registered?_register_self hRegistry]
    intro h
    cases h

theorem sharable?_registerNew (key account : String) :
    (c.registerNew key).2.sharable? account =
      if key = registryKey account then none else c.sharable? account := by
  split
  · rename_i hKey
    subst hKey
    rw [sharable?_eq_none_iff]
    intro id context hEntry
    exact absurd hEntry (registered?_registerNew_ne _ id)
  · rename_i hKey
    exact sharable?_congr (d := (c.registerNew key).2) (registered?_register_of_ne (Ne.symm hKey) _)
      fun _ _ => rfl

theorem sharable?_push (hNumbered : c.Numbered) (context : StorageContext κ) (account : String) :
    (c.push context).2.sharable? account = c.sharable? account := by
  refine sharable?_congr (d := (c.push context).2) rfl ?_
  intro id hEntry
  exact get?_push_of_lt (hNumbered _ id hEntry) context

theorem sharable?_enroll_self {registry : Registry} (hRegistry : c.registry = some registry)
    {context : StorageContext κ} (hValid : context.valid = true) (account : String) :
    (c.enroll (some account) context).sharable? account = some (c.created.length, context) := by
  refine sharable?_eq_some_iff.mpr ⟨?_, get?_push_self c context, hValid⟩
  exact registered?_register_self (c := (c.push context).2) hRegistry _ _

theorem sharable?_enroll_of_ne (hNumbered : c.Numbered) {account other : String}
    (h : other ≠ account) (context : StorageContext κ) :
    (c.enroll (some account) context).sharable? other = c.sharable? other := by
  have hKey : registryKey other ≠ registryKey account := fun hEq => h (registryKey_injective hEq)
  rw [← sharable?_push hNumbered context other]
  exact sharable?_congr (d := c.enroll (some account) context)
    (registered?_register_of_ne (c := (c.push context).2) hKey _) fun _ _ => rfl

/-! ## The end of a query -/

theorem registry_foldl_notify (entries : List Entry) (c : Contexts κ) :
    (entries.foldl notify c).registry = c.registry := by
  induction entries generalizing c with
  | nil => rfl
  | cons entry entries ih =>
    rw [List.foldl_cons, ih]
    cases entry <;> rfl

theorem length_created_foldl_notify (entries : List Entry) (c : Contexts κ) :
    (entries.foldl notify c).created.length = c.created.length := by
  induction entries generalizing c with
  | nil => rfl
  | cons entry entries ih =>
    rw [List.foldl_cons, ih]
    cases entry with
    | context id => exact List.length_modify _ _ _
    | foreign id => rfl

theorem get?_foldl_notify (entries : List Entry) (c : Contexts κ) (id : Nat) :
    (entries.foldl notify c).get? id =
      (c.get? id).map fun context =>
        if .context id ∈ entries then context.expire else context := by
  induction entries generalizing c with
  | nil => simp
  | cons entry entries ih =>
    rw [List.foldl_cons, ih]
    cases entry with
    | foreign other => simp [notify, get?]
    | context other =>
      by_cases hId : other = id
      · subst hId
        simp only [notify, get?, List.getElem?_modify_eq, List.mem_cons, true_or, if_true]
        cases c.created[other]? with
        | none => rfl
        | some context =>
          refine congrArg some ?_
          change (if _ then context.expire.expire else context.expire) = context.expire
          split <;> rfl
      · simp [notify, get?, List.getElem?_modify_ne _ _ hId, Ne.symm hId]

theorem registered?_queryEnd (key : String) : c.queryEnd.registered? key = c.registered? key := by
  unfold registered? queryEnd
  rw [registry_foldl_notify]

theorem sharable?_queryEnd (account : String) : c.queryEnd.sharable? account = none := by
  rw [sharable?_eq_none_iff]
  intro id context hEntry hContext
  rw [registered?_queryEnd] at hEntry
  have hMem : .context id ∈ (c.registry.getD []).map (·.2) :=
    List.mem_map.mpr ⟨_, Registry.mem_of_lookup? hEntry, rfl⟩
  rw [queryEnd, get?_foldl_notify] at hContext
  obtain ⟨before, -, rfl⟩ := Option.map_eq_some_iff.mp hContext
  rw [if_pos hMem]
  rfl

/-! ## What is registered stays numbered -/

theorem Numbered.queryEnd (h : c.Numbered) : c.queryEnd.Numbered := by
  intro key id hEntry
  rw [registered?_queryEnd] at hEntry
  have hLength : c.queryEnd.created.length = c.created.length := length_created_foldl_notify _ c
  rw [hLength]
  exact h key id hEntry

theorem Numbered.unregister (h : c.Numbered) (key : String) : (c.unregister key).Numbered := by
  intro other id hEntry
  by_cases hKey : other = key
  · rw [hKey, registered?_unregister_self] at hEntry
    cases hEntry
  · rw [registered?_unregister_of_ne hKey] at hEntry
    exact h other id hEntry

theorem Numbered.registerNew (h : c.Numbered) (key : String) :
    (c.registerNew key).2.Numbered := by
  intro other id hEntry
  by_cases hKey : other = key
  · rw [hKey] at hEntry
    exact absurd hEntry (registered?_registerNew_ne key id)
  · have hSame : (c.registerNew key).2.registered? other = c.registered? other :=
      registered?_register_of_ne hKey _
    rw [hSame] at hEntry
    exact h other id hEntry

theorem Numbered.push (h : c.Numbered) (context : StorageContext κ) :
    (c.push context).2.Numbered := by
  intro key id hEntry
  have hLength : (c.push context).2.created.length = c.created.length + 1 := by
    simp only [Contexts.push, List.length_append, List.length_singleton]
  have hId := h key id hEntry
  omega

theorem Numbered.register (h : c.Numbered) {id : Nat} (hId : id < c.created.length)
    (key : String) : (c.register key (.context id)).Numbered := by
  intro other id' hEntry
  by_cases hKey : other = key
  · cases hRegistry : c.registry with
    | none => simp [registered?, Contexts.register, hRegistry, Registry.lookup?] at hEntry
    | some registry =>
      rw [hKey, registered?_register_self hRegistry] at hEntry
      cases hEntry
      exact hId
  · rw [registered?_register_of_ne hKey] at hEntry
    exact h other id' hEntry

theorem Numbered.enroll (h : c.Numbered) (account : Option String) (context : StorageContext κ) :
    (c.enroll account context).Numbered := by
  cases account with
  | none => exact h.push context
  | some account =>
    refine (h.push context).register ?_ _
    simp only [Contexts.push, List.length_append, List.length_singleton]
    omega

theorem length_created_enroll (c : Contexts κ) (account : Option String)
    (context : StorageContext κ) :
    (c.enroll account context).created.length = c.created.length + 1 := by
  cases account <;> simp [enroll, push, register]

end Contexts

end BlobFiles
