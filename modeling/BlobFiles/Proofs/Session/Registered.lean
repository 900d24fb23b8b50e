import BlobFiles.Proofs.Session.Sharable
import Mathlib.Data.List.Nodup

/-! # What is registered, and what it is told

A state may be in the registry under several keys, and the end of a query tells it once for each of
them. What is not in the registry is told nothing. `Untold` is what all other changes have in
common.
-/
namespace BlobFiles

variable {κ : Type}

namespace Registry

variable {r : Registry} {key : String} {entry : Entry}

def keysOf (r : Registry) (entry : Entry) : List String := (r.filter (·.2 = entry)).map (·.1)

theorem length_keysOf (r : Registry) (entry : Entry) :
    (r.keysOf entry).length = (r.map (·.2)).count entry := by
  rw [keysOf, List.length_map, List.count_eq_countP, List.countP_map, List.countP_eq_length_filter]
  rfl

theorem mem_keysOf_iff : key ∈ r.keysOf entry ↔ (key, entry) ∈ r := by
  simp [keysOf]

theorem keysOf_remove (r : Registry) (key : String) (entry : Entry) :
    (r.remove key).keysOf entry = (r.keysOf entry).filter (· ≠ key) := by
  rw [keysOf, keysOf, remove, List.filter_map, List.filter_filter, List.filter_filter]
  congr 1
  refine List.filter_congr ?_
  intro p _
  exact Bool.and_comm _ _

theorem keysOf_insert (r : Registry) (key : String) (new entry : Entry) :
    (r.insert key new).keysOf entry =
      (r.keysOf entry).filter (· ≠ key) ++ if new = entry then [key] else [] := by
  rw [← keysOf_remove, insert, keysOf, List.filter_append, List.map_append, List.filter_singleton]
  congr 1
  by_cases hNew : new = entry <;> simp [hNew]

theorem lookup?_eq_some_iff (hKeys : (r.map (·.1)).Nodup) :
    r.lookup? key = some entry ↔ (key, entry) ∈ r := by
  refine ⟨mem_of_lookup?, ?_⟩
  intro hMem
  cases hFound : r.lookup? key with
  | none =>
    rw [lookup?, Option.map_eq_none_iff, List.find?_eq_none] at hFound
    exact absurd (decide_eq_true rfl) (hFound (key, entry) hMem)
  | some other =>
    have hSame := List.inj_on_of_nodup_map hKeys (mem_of_lookup? hFound) hMem rfl
    exact congrArg some (congrArg Prod.snd hSame)

end Registry

namespace Contexts

variable {c d : Contexts κ} {entry : Entry} {id : Nat}

def keysOf (c : Contexts κ) (entry : Entry) : List String := (c.registry.getD []).keysOf entry

/-- Whether a state is in the registry, under whatever key. -/
def Registers (c : Contexts κ) (entry : Entry) : Prop := entry ∈ (c.registry.getD []).map (·.2)

instance (c : Contexts κ) (entry : Entry) : Decidable (c.Registers entry) :=
  inferInstanceAs (Decidable (entry ∈ (c.registry.getD []).map (·.2)))

theorem registers_iff : c.Registers entry ↔ 0 < (c.keysOf entry).length := by
  rw [keysOf, Registry.length_keysOf, List.count_pos_iff, Registers]

/-- A key has one state under it, and that state is there. -/
structure Sound (c : Contexts κ) : Prop where
  keys : ((c.registry.getD []).map (·.1)).Nodup
  known : ∀ entry, c.Registers entry → c.Knows entry

theorem Sound.nodup_keysOf (h : c.Sound) (entry : Entry) : (c.keysOf entry).Nodup :=
  h.keys.sublist (List.filter_sublist.map _)

theorem Sound.mem_keysOf_iff (h : c.Sound) {key : String} :
    key ∈ c.keysOf entry ↔ c.registered? key = some entry :=
  Registry.mem_keysOf_iff.trans (Registry.lookup?_eq_some_iff h.keys).symm

/-- How often a foreign state was told. -/
def told (c : Contexts κ) (id : Nat) : Nat := (c.notices[id]?).getD 0

def Lapsed (c : Contexts κ) (id : Nat) : Prop :=
  ∃ context, c.get? id = some context ∧ context.valid = false

theorem valid_iff_not_lapsed {context : StorageContext κ} (h : c.get? id = some context) :
    context.valid = true ↔ ¬ c.Lapsed id := by
  constructor
  · rintro hValid ⟨same, hSame, hInvalid⟩
    cases h.symm.trans hSame
    cases hValid.symm.trans hInvalid
  · intro hNot
    cases hValid : context.valid with
    | true => rfl
    | false => exact absurd ⟨context, h, hValid⟩ hNot

/-! ## Telling all that is registered -/

theorem notices_foldl_notify (entries : List Entry) (c : Contexts κ) (id : Nat) :
    (entries.foldl notify c).notices[id]? =
      (c.notices[id]?).map (· + entries.count (.foreign id)) := by
  induction entries generalizing c with
  | nil => simp
  | cons entry entries ih =>
    rw [List.foldl_cons, ih]
    cases entry with
    | context other => simp [notify]
    | foreign other =>
      by_cases hId : other = id
      · subst hId
        simp [notify, Function.comp_def, Nat.add_assoc, Nat.add_comm]
      · simp [notify, hId]

theorem length_notices_foldl_notify (entries : List Entry) (c : Contexts κ) :
    (entries.foldl notify c).notices.length = c.notices.length := by
  induction entries generalizing c with
  | nil => rfl
  | cons entry entries ih =>
    rw [List.foldl_cons, ih]
    cases entry with
    | context id => rfl
    | foreign id => exact List.length_modify _ _ _

theorem Sound.told_queryEnd (h : c.Sound) (id : Nat) :
    c.queryEnd.told id = c.told id + (c.keysOf (.foreign id)).length := by
  rw [told, told, queryEnd, notices_foldl_notify, keysOf, Registry.length_keysOf]
  by_cases hRegistered : c.Registers (.foreign id)
  · have hKnown : id < c.notices.length := h.known _ hRegistered
    rw [List.getElem?_eq_getElem hKnown]
    rfl
  · rw [List.count_eq_zero_of_not_mem hRegistered]
    simp

theorem Sound.lapsed_queryEnd_iff (h : c.Sound) (id : Nat) :
    c.queryEnd.Lapsed id ↔ c.Lapsed id ∨ c.Registers (.context id) := by
  rw [Lapsed, queryEnd, get?_foldl_notify]
  constructor
  · rintro ⟨after, hAfter, hInvalid⟩
    obtain ⟨context, hContext, rfl⟩ := Option.map_eq_some_iff.mp hAfter
    split at hInvalid
    · rename_i hRegistered
      exact .inr hRegistered
    · exact .inl ⟨context, hContext, hInvalid⟩
  · rintro (⟨context, hContext, hInvalid⟩ | hRegistered)
    · refine ⟨_, congrArg (Option.map _) hContext, ?_⟩
      split
      · rfl
      · exact hInvalid
    · have hKnown : id < c.created.length := h.known _ hRegistered
      refine ⟨_, congrArg (Option.map _) (List.getElem?_eq_getElem hKnown), ?_⟩
      change (if c.Registers (.context id) then _ else _ : StorageContext κ).valid = false
      rw [if_pos hRegistered]
      rfl

/-! ## What is kept -/

/-- Nothing that was there before was told anything, and what is new has not been told either. -/
structure Untold (c d : Contexts κ) : Prop where
  told : ∃ n, d.notices = c.notices ++ List.replicate n 0
  created : ∃ made, d.created = c.created ++ made ∧ ∀ context ∈ made, context.valid = true

theorem Untold.refl (c : Contexts κ) : Untold c c where
  told := ⟨0, (List.append_nil _).symm⟩
  created := ⟨[], (List.append_nil _).symm, by simp⟩

theorem Untold.of_enroll (c : Contexts κ) (target : Option String) {context : StorageContext κ}
    (hValid : context.valid = true) : Untold c (c.enroll target context) where
  told := by
    refine ⟨0, ?_⟩
    cases target <;> exact (List.append_nil _).symm
  created := by
    refine ⟨[context], ?_, ?_⟩
    · cases target <;> rfl
    · intro other hMem
      rw [List.mem_singleton.mp hMem]
      exact hValid

theorem Untold.of_register (c : Contexts κ) (key : String) (entry : Entry) :
    Untold c (c.register key entry) where
  told := ⟨0, (List.append_nil _).symm⟩
  created := ⟨[], (List.append_nil _).symm, by simp⟩

theorem Untold.of_registerNew (c : Contexts κ) (key : String) : Untold c (c.registerNew key).2 where
  told := ⟨1, rfl⟩
  created := ⟨[], (List.append_nil _).symm, by simp⟩

theorem Untold.of_unregister (c : Contexts κ) (key : String) : Untold c (c.unregister key) where
  told := ⟨0, (List.append_nil _).symm⟩
  created := ⟨[], (List.append_nil _).symm, by simp⟩

theorem Untold.told_eq (h : Untold c d) (id : Nat) : d.told id = c.told id := by
  obtain ⟨n, hNotices⟩ := h.told
  rw [Contexts.told, Contexts.told, hNotices, List.getElem?_append]
  split
  · rfl
  · rename_i hNew
    rw [List.getElem?_eq_none (Nat.le_of_not_lt hNew), List.getElem?_replicate]
    split <;> rfl

theorem Untold.lapsed_iff (h : Untold c d) (id : Nat) : d.Lapsed id ↔ c.Lapsed id := by
  obtain ⟨made, hCreated, hValid⟩ := h.created
  unfold Lapsed get?
  rw [hCreated, List.getElem?_append]
  split
  · rfl
  · rename_i hNew
    constructor
    · rintro ⟨context, hContext, hInvalid⟩
      rw [hValid context (List.mem_of_getElem? hContext)] at hInvalid
      cases hInvalid
    · rintro ⟨context, hContext, -⟩
      rw [List.getElem?_eq_none (Nat.le_of_not_lt hNew)] at hContext
      cases hContext

theorem Untold.known (h : Untold c d) (entry : Entry) (hKnown : c.Knows entry) :
    d.Knows entry := by
  obtain ⟨n, hNotices⟩ := h.told
  obtain ⟨made, hCreated, -⟩ := h.created
  cases entry with
  | context id =>
    change id < d.created.length
    rw [hCreated, List.length_append]
    exact Nat.lt_add_right _ hKnown
  | foreign id =>
    change id < d.notices.length
    rw [hNotices, List.length_append]
    exact Nat.lt_add_right _ hKnown

end Contexts

end BlobFiles
