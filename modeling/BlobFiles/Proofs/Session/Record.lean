import BlobFiles.Proofs.Session.Registered

/-! # The record of a registry

A registry changes by moves: a state is put under a key, a key is removed, or a query ends. Each
time a state is put under a key, it is told of all queries that end until that key is put or removed
again. What a state is told in the end is the sum of this over the record, whatever keys it is put
under and however many at once.
-/
namespace BlobFiles

variable {κ : Type}

inductive Move where
  | put (key : String) (entry : Entry)
  | remove (key : String)
  | queryEnd
  deriving DecidableEq

namespace Move

/-- Whether what was under a key is replaced or removed. -/
def resets (key : String) : Move → Bool
  | .put other _ => other = key
  | .remove other => other = key
  | .queryEnd => false

/-- How many queries end before a key is put or removed. -/
def endsUntilReset (key : String) (moves : List Move) : Nat :=
  (moves.takeWhile fun move => !move.resets key).count .queryEnd

/-- How many notices come of the moves for a state: each time it is put under a key, one for every
query that ends before that key is put or removed again. -/
def noticesOf (entry : Entry) : List Move → Nat
  | [] => 0
  | .put key new :: since =>
    (if new = entry then endsUntilReset key since else 0) + noticesOf entry since
  | .remove _ :: since => noticesOf entry since
  | .queryEnd :: since => noticesOf entry since

theorem endsUntilReset_of_resets {key : String} {move : Move} (h : move.resets key = true)
    (since : List Move) : endsUntilReset key (move :: since) = 0 := by
  simp [endsUntilReset, h]

theorem endsUntilReset_of_not_resets {key : String} {move : Move} (h : move.resets key = false)
    (since : List Move) : endsUntilReset key (move :: since) =
      (if move = .queryEnd then 1 else 0) + endsUntilReset key since := by
  simp [endsUntilReset, h, List.count_cons, Nat.add_comm]

/-- What is still to come for the keys that a state is under. -/
def owed (moves : List Move) : List String → Nat
  | [] => 0
  | key :: keys => endsUntilReset key moves + owed moves keys

theorem owed_nil (keys : List String) : owed [] keys = 0 := by
  induction keys with
  | nil => rfl
  | cons first keys ih =>
    rw [owed, ih]
    rfl

theorem owed_append (keys more : List String) (moves : List Move) :
    owed moves (keys ++ more) = owed moves keys + owed moves more := by
  induction keys with
  | nil => exact (Nat.zero_add _).symm
  | cons first keys ih => rw [List.cons_append, owed, owed, ih, Nat.add_assoc]

theorem owed_queryEnd (keys : List String) (since : List Move) :
    owed (.queryEnd :: since) keys = keys.length + owed since keys := by
  induction keys with
  | nil => rfl
  | cons first keys ih =>
    rw [owed, owed, ih, endsUntilReset_of_not_resets rfl, if_pos rfl, List.length_cons]
    omega

/-- A key that is put or removed has nothing to come, and for the others nothing changes. -/
theorem owed_of_resets {move : Move} {key : String}
    (hResets : ∀ other, move.resets other = decide (key = other)) (hEnds : move ≠ .queryEnd)
    (keys : List String) (since : List Move) :
    owed (move :: since) keys = owed since (keys.filter (· ≠ key)) := by
  induction keys with
  | nil => rfl
  | cons first keys ih =>
    rw [owed, ih]
    by_cases hKey : key = first
    · subst hKey
      rw [endsUntilReset_of_resets (by simp [hResets])]
      simp
    · rw [endsUntilReset_of_not_resets (by simp [hResets, hKey]), if_neg hEnds,
        List.filter_cons_of_pos (by simpa using Ne.symm hKey), owed, Nat.zero_add]

end Move

namespace Contexts

variable {c d : Contexts κ} {moves : List Move}

/-- What one move makes of the contexts, or what becomes of them without any. -/
inductive Moved (c d : Contexts κ) : List Move → Prop where
  | still (hUntold : Untold c d) (hRegistry : d.registry = c.registry) : Moved c d []
  | put {registry : Registry} {key : String} {entry : Entry} (hUntold : Untold c d)
      (hKnown : d.Knows entry) (hBefore : c.registry = some registry)
      (hRegistry : d.registry = some (registry.insert key entry)) : Moved c d [.put key entry]
  | remove {key : String} (hUntold : Untold c d)
      (hRegistry : d.registry = c.registry.map (·.remove key)) : Moved c d [.remove key]
  | queryEnd (hEnd : d = c.queryEnd) : Moved c d [.queryEnd]

theorem keysOf_queryEnd (c : Contexts κ) (entry : Entry) :
    c.queryEnd.keysOf entry = c.keysOf entry := by
  rw [keysOf, queryEnd, registry_foldl_notify]
  rfl

namespace Moved

theorem untold (h : Moved c d moves) (hEnds : .queryEnd ∉ moves) : Untold c d := by
  cases h with
  | still hUntold | put hUntold | remove hUntold => exact hUntold
  | queryEnd => simp at hEnds

theorem told_eq (h : Moved c d moves) (hSound : c.Sound) (id : Nat) :
    d.told id = c.told id +
      if .queryEnd ∈ moves then (c.keysOf (.foreign id)).length else 0 := by
  cases h with
  | still hUntold | put hUntold | remove hUntold => simpa using hUntold.told_eq id
  | queryEnd hEnd =>
    rw [hEnd, hSound.told_queryEnd]
    simp

theorem lapsed_iff (h : Moved c d moves) (hSound : c.Sound) (id : Nat) :
    d.Lapsed id ↔ c.Lapsed id ∨ .queryEnd ∈ moves ∧ c.Registers (.context id) := by
  cases h with
  | still hUntold | put hUntold | remove hUntold => simpa using hUntold.lapsed_iff id
  | queryEnd hEnd =>
    rw [hEnd, hSound.lapsed_queryEnd_iff]
    simp

theorem known (h : Moved c d moves) {entry : Entry} (hKnown : c.Knows entry) : d.Knows entry := by
  cases h with
  | still hUntold | put hUntold | remove hUntold => exact hUntold.known entry hKnown
  | queryEnd hEnd =>
    rw [hEnd]
    cases entry with
    | context id =>
      have hLength : c.queryEnd.created.length = c.created.length :=
        length_created_foldl_notify _ c
      exact Nat.lt_of_lt_of_eq hKnown hLength.symm
    | foreign id =>
      have hLength : c.queryEnd.notices.length = c.notices.length :=
        length_notices_foldl_notify _ c
      exact Nat.lt_of_lt_of_eq hKnown hLength.symm

theorem known_of_put (h : Moved c d moves) {key : String} {entry : Entry}
    (hPut : .put key entry ∈ moves) : d.Knows entry := by
  cases h with
  | still | remove | queryEnd => simp at hPut
  | put _ hKnown =>
    cases List.mem_singleton.mp hPut
    exact hKnown

theorem sound (h : Moved c d moves) (hSound : c.Sound) : d.Sound := by
  have hKnown : ∀ entry, c.Knows entry → d.Knows entry := fun _ => h.known
  have hSame : d.registry = c.registry → d.Sound := by
    intro hRegistry
    refine ⟨hRegistry ▸ hSound.keys, ?_⟩
    intro entry hEntry
    rw [Registers, hRegistry] at hEntry
    exact hKnown entry (hSound.known entry hEntry)
  cases h with
  | still _ hRegistry => exact hSame hRegistry
  | queryEnd hEnd =>
    refine hSame ?_
    rw [hEnd]
    exact registry_foldl_notify _ c
  | @remove key _ hRegistry =>
    have hRemoved : d.registry.getD [] = (c.registry.getD []).remove key := by
      rw [hRegistry]
      cases c.registry <;> rfl
    refine ⟨hRemoved ▸ Registry.keys_nodup_remove hSound.keys key, ?_⟩
    intro entry hEntry
    rw [Registers, hRemoved] at hEntry
    exact hKnown entry (hSound.known entry ((List.filter_sublist.map _).subset hEntry))
  | @put registry key new _ hNew hBefore hRegistry =>
    obtain ⟨hKeys, hOld⟩ := hSound
    rw [hBefore] at hKeys
    have hInserted : d.registry.getD [] = registry.insert key new := by rw [hRegistry]; rfl
    refine ⟨hInserted ▸ Registry.keys_nodup_insert hKeys key new, ?_⟩
    intro entry hEntry
    rw [Registers, hInserted, Registry.insert, List.map_append, List.mem_append] at hEntry
    rcases hEntry with hRest | hLast
    · refine hKnown entry (hOld entry ?_)
      rw [Registers, hBefore]
      exact (List.filter_sublist.map _).subset hRest
    · rw [List.mem_singleton.mp hLast]
      exact hNew

/-- What is owed to a state before a move is what the move tells it and what is owed after it. -/
theorem owed_eq (h : Moved c d moves) (entry : Entry) (since : List Move) :
    Move.owed (moves ++ since) (c.keysOf entry) + Move.noticesOf entry (moves ++ since) =
      (if .queryEnd ∈ moves then (c.keysOf entry).length else 0) +
        (Move.owed since (d.keysOf entry) + Move.noticesOf entry since) := by
  cases h with
  | still _ hRegistry =>
    rw [keysOf, keysOf, hRegistry]
    simp
  | queryEnd hEnd =>
    rw [hEnd, keysOf_queryEnd, List.singleton_append, Move.owed_queryEnd]
    simp [Move.noticesOf, Nat.add_assoc]
  | @remove key _ hRegistry =>
    have hKeys : d.keysOf entry = (c.keysOf entry).filter (· ≠ key) := by
      rw [keysOf, hRegistry, keysOf, ← Registry.keysOf_remove]
      cases c.registry <;> rfl
    rw [hKeys, List.singleton_append, Move.owed_of_resets (fun _ => rfl) (by simp)]
    simp [Move.noticesOf]
  | @put registry key new _ _ hBefore hRegistry =>
    have hKeys : d.keysOf entry =
        (c.keysOf entry).filter (· ≠ key) ++ if new = entry then [key] else [] := by
      rw [keysOf, hRegistry, keysOf, hBefore]
      exact Registry.keysOf_insert registry key new entry
    have hPut : Move.owed since (if new = entry then [key] else []) =
        if new = entry then Move.endsUntilReset key since else 0 := by
      split <;> simp [Move.owed]
    rw [hKeys, List.singleton_append, Move.owed_of_resets (fun _ => rfl) (by simp),
      Move.owed_append, hPut]
    simp [Move.noticesOf, Nat.add_assoc]

end Moved

end Contexts

end BlobFiles
