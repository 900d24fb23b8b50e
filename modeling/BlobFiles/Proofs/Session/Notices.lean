import BlobFiles.Proofs.Session.Effect
import BlobFiles.Storage.Memory

/-! # Who is told of the end of a query

The end of a query is told to every state in the registry, once for each key that it is under, and
to no other. So a foreign state has been told as often as queries have ended while it was
registered, if it was never under two keys then, and a context is valid as long as no query has. A
state is under a key from the time it is put there until the key is registered again or
unregistered; a lookup replaces a context only when that is not valid any more.
-/
namespace BlobFiles

variable {σ κ : Type}

theorem Act.endsQuery_iff {act : Act} : act.endsQuery = true ↔ act = .command .queryEnd := by
  constructor
  · intro h
    cases act with
    | register => cases h
    | command command =>
      cases command with
      | queryEnd => rfl
      | _ => cases h
  · rintro rfl
    rfl

namespace Session

variable {storage : Storage σ κ} {ss : Session σ κ} {act : Act} {acts : List Act} {entry : Entry}

/-! ## Counts over a run -/

/-- Under how many keys a state is when an act ends a query. -/
def keysNow (ss : Session σ κ) (entry : Entry) (act : Act) : Nat :=
  if act.endsQuery then (ss.world.contexts.keysOf entry).length else 0

/-- Whether an act ends a query while a state is in the registry. -/
def endsNow (ss : Session σ κ) (entry : Entry) (act : Act) : Nat :=
  if act.endsQuery = true ∧ ss.world.contexts.Registers entry then 1 else 0

/-- Under how many keys a state is at the ends of queries, taken together. -/
def keysAtEnds (storage : Storage σ κ) (entry : Entry) : List Act → Session σ κ → Nat
  | [], _ => 0
  | act :: acts, ss => ss.keysNow entry act + keysAtEnds storage entry acts (ss.act storage act)

/-- How many queries end while a state is in the registry. -/
def endsWhile (storage : Storage σ κ) (entry : Entry) : List Act → Session σ κ → Nat
  | [], _ => 0
  | act :: acts, ss => ss.endsNow entry act + endsWhile storage entry acts (ss.act storage act)

theorem keysNow_queryEnd :
    ss.keysNow entry (.command .queryEnd) = (ss.world.contexts.keysOf entry).length := rfl

theorem endsNow_eq_min (ss : Session σ κ) (entry : Entry) (act : Act) :
    ss.endsNow entry act = min 1 (ss.keysNow entry act) := by
  simp only [endsNow, keysNow, Contexts.registers_iff]
  cases act.endsQuery with
  | false => rfl
  | true =>
    simp only [true_and, if_true]
    split <;> omega

theorem endsWhile_le (storage : Storage σ κ) (entry : Entry) (acts : List Act)
    (ss : Session σ κ) : ss.endsWhile storage entry acts ≤ ss.keysAtEnds storage entry acts := by
  induction acts generalizing ss with
  | nil => exact Nat.le_refl 0
  | cons act acts ih =>
    have hRest := ih (ss.act storage act)
    rw [endsWhile, keysAtEnds, endsNow_eq_min]
    omega

theorem endsWhile_eq_zero_iff (storage : Storage σ κ) (entry : Entry) (acts : List Act)
    (ss : Session σ κ) :
    ss.endsWhile storage entry acts = 0 ↔ ss.keysAtEnds storage entry acts = 0 := by
  induction acts generalizing ss with
  | nil => rfl
  | cons act acts ih =>
    have hRest := ih (ss.act storage act)
    rw [endsWhile, keysAtEnds, endsNow_eq_min]
    omega

/-- The two counts differ as soon as the state is under two keys at the end of a query. -/
theorem keysAtEnds_eq_endsWhile_iff (storage : Storage σ κ) (entry : Entry) (acts : List Act)
    (ss : Session σ κ) :
    ss.keysAtEnds storage entry acts = ss.endsWhile storage entry acts ↔
      ∀ before since, acts = before ++ .command .queryEnd :: since →
        ((ss.runActs storage before).world.contexts.keysOf entry).length ≤ 1 := by
  induction acts generalizing ss with
  | nil => exact iff_of_true rfl (by simp)
  | cons act acts ih =>
    have hLess := endsWhile_le storage entry acts (ss.act storage act)
    have hMin := endsNow_eq_min ss entry act
    have hRest := ih (ss.act storage act)
    rw [keysAtEnds, endsWhile]
    constructor
    · intro hSame before since hSplit
      cases before with
      | nil =>
        cases hSplit
        rw [keysNow_queryEnd] at hSame hMin
        change (ss.world.contexts.keysOf entry).length ≤ 1
        omega
      | cons first before =>
        cases hSplit
        exact hRest.mp (by omega) before since rfl
    · intro hOne
      have hSame := hRest.mpr fun before since hSplit =>
        hOne (act :: before) since (congrArg (act :: ·) hSplit)
      cases hEnds : act.endsQuery with
      | false =>
        rw [hSame, endsNow, keysNow, hEnds]
        rfl
      | true =>
        obtain rfl := Act.endsQuery_iff.mp hEnds
        have hFirst : (ss.world.contexts.keysOf entry).length ≤ 1 := hOne [] acts rfl
        rw [keysNow_queryEnd] at hMin ⊢
        omega

/-! ## What a run tells -/

theorem keysNow_eq (storage : Storage σ κ) (ss : Session σ κ) (entry : Entry) (act : Act) :
    ss.keysNow entry act =
      if .queryEnd ∈ ss.moves storage act then (ss.world.contexts.keysOf entry).length else 0 := by
  rw [keysNow]
  simp only [queryEnd_mem_moves_iff]

theorem sound_start (service : σ) (settings : Settings) (clientContext : Bool) :
    (start service settings clientContext : Session σ κ).world.contexts.Sound := by
  cases clientContext <;> exact ⟨List.nodup_nil, fun _ hRegistered => nomatch hRegistered⟩

theorem sound_runActs (storage : Storage σ κ) (acts : List Act)
    (hSound : ss.world.contexts.Sound) : (ss.runActs storage acts).world.contexts.Sound := by
  induction acts generalizing ss with
  | nil => exact hSound
  | cons act acts ih => exact ih ((moved_act storage ss act).sound hSound)

theorem known_runActs (storage : Storage σ κ) (acts : List Act)
    (hKnown : ss.world.contexts.Knows entry) :
    (ss.runActs storage acts).world.contexts.Knows entry := by
  induction acts generalizing ss with
  | nil => exact hKnown
  | cons act acts ih => exact ih ((moved_act storage ss act).known hKnown)

theorem known_of_put_mem_movesOf {key : String} (h : .put key entry ∈ ss.movesOf storage acts) :
    (ss.runActs storage acts).world.contexts.Knows entry := by
  induction acts generalizing ss with
  | nil => cases h
  | cons act acts ih =>
    rcases List.mem_append.mp h with hNow | hLater
    · exact known_runActs storage acts ((moved_act storage ss act).known_of_put hNow)
    · exact ih hLater

theorem told_runActs (storage : Storage σ κ) (hSound : ss.world.contexts.Sound)
    (acts : List Act) (id : Nat) :
    (ss.runActs storage acts).world.contexts.told id =
      ss.world.contexts.told id + ss.keysAtEnds storage (.foreign id) acts := by
  induction acts generalizing ss with
  | nil => rfl
  | cons act acts ih =>
    have hMoved := moved_act storage ss act
    have hRest := ih (hMoved.sound hSound)
    rw [hMoved.told_eq hSound, ← keysNow_eq] at hRest
    rw [keysAtEnds, ← Nat.add_assoc]
    exact hRest

theorem lapsed_runActs_iff (storage : Storage σ κ) (hSound : ss.world.contexts.Sound)
    (acts : List Act) (id : Nat) :
    (ss.runActs storage acts).world.contexts.Lapsed id ↔
      ss.world.contexts.Lapsed id ∨ ss.endsWhile storage (.context id) acts ≠ 0 := by
  induction acts generalizing ss with
  | nil => simp [runActs, endsWhile]
  | cons act acts ih =>
    have hMoved := moved_act storage ss act
    have hNow : .queryEnd ∈ ss.moves storage act ∧ ss.world.contexts.Registers (.context id) ↔
        ss.endsNow (.context id) act ≠ 0 := by
      rw [queryEnd_mem_moves_iff, endsNow]
      simp
    have hRest := ih (hMoved.sound hSound)
    rw [hMoved.lapsed_iff hSound, hNow, or_assoc] at hRest
    refine hRest.trans (or_congr_right ?_)
    rw [endsWhile]
    omega

/-- The keys at the ends of queries, counted along the record. -/
theorem keysAtEnds_eq (storage : Storage σ κ) (entry : Entry) (acts : List Act)
    (ss : Session σ κ) :
    ss.keysAtEnds storage entry acts =
      Move.owed (ss.movesOf storage acts) (ss.world.contexts.keysOf entry) +
        Move.noticesOf entry (ss.movesOf storage acts) := by
  induction acts generalizing ss with
  | nil =>
    rw [movesOf, Move.owed_nil]
    rfl
  | cons act acts ih =>
    rw [keysAtEnds, ih, movesOf, (moved_act storage ss act).owed_eq, ← keysNow_eq]

theorem keysAtEnds_start (storage : Storage σ κ) (service : σ) (settings : Settings)
    (clientContext : Bool) (entry : Entry) (acts : List Act) :
    let start : Session σ κ := .start service settings clientContext
    start.keysAtEnds storage entry acts = Move.noticesOf entry (start.movesOf storage acts) := by
  intro start
  have hNone : start.world.contexts.keysOf entry = [] := by cases clientContext <;> rfl
  rw [keysAtEnds_eq, hNone]
  exact Nat.zero_add _

theorem notices_eq_keysAtEnds {service : σ} {settings : Settings} {clientContext : Bool}
    {id notices : Nat} (h : ((start service settings clientContext).runActs storage
      acts).world.contexts.notices[id]? = some notices) :
    notices = (start service settings clientContext).keysAtEnds storage (.foreign id) acts := by
  have hTold := told_runActs storage (sound_start service settings clientContext) acts id
  have hNone : (start service settings clientContext : Session σ κ).world.contexts.told id = 0 :=
    rfl
  rw [hNone, Nat.zero_add, Contexts.told, h] at hTold
  exact hTold

theorem valid_iff_endsWhile_eq_zero {service : σ} {settings : Settings} {clientContext : Bool}
    {id : Nat} {context : StorageContext κ}
    (h : ((start service settings clientContext).runActs storage acts).world.contexts.get? id =
      some context) :
    context.valid = true ↔
      (start service settings clientContext).endsWhile storage (.context id) acts = 0 := by
  have hSound : (start service settings clientContext : Session σ κ).world.contexts.Sound :=
    sound_start service settings clientContext
  have hNone : ¬ (start service settings clientContext : Session σ κ).world.contexts.Lapsed id := by
    rintro ⟨_, hGet, -⟩
    cases hGet
  rw [Contexts.valid_iff_not_lapsed h, lapsed_runActs_iff storage hSound, not_or, not_ne_iff,
    and_iff_right hNone]

/-- What the states of a session have been told, after any acts and by any further act. -/
theorem notices_exact (storage : Storage σ κ) (service : σ) (settings : Settings)
    (clientContext : Bool) (acts : List Act) :
    let start : Session σ κ := .start service settings clientContext
    let now := start.runActs storage acts
    let record := start.movesOf storage acts
    (∀ entry, (now.world.contexts.keysOf entry).Nodup ∧
      ∀ key, key ∈ now.world.contexts.keysOf entry ↔
        now.world.contexts.registered? key = some entry) ∧
    (∀ key entry, .put key entry ∈ record → now.world.contexts.Knows entry) ∧
    (∀ id notices, now.world.contexts.notices[id]? = some notices →
      notices = start.keysAtEnds storage (.foreign id) acts ∧
      notices = Move.noticesOf (.foreign id) record ∧
      (notices = start.endsWhile storage (.foreign id) acts ↔
        ∀ before since, acts = before ++ .command .queryEnd :: since →
          ((start.runActs storage before).world.contexts.keysOf (.foreign id)).length ≤ 1)) ∧
    (∀ id context, now.world.contexts.get? id = some context →
      (context.valid = true ↔ start.endsWhile storage (.context id) acts = 0) ∧
      (context.valid = true ↔ Move.noticesOf (.context id) record = 0)) ∧
    (∀ act, act.endsQuery = false →
      Contexts.Untold now.world.contexts (now.act storage act).world.contexts) ∧
    ∀ more id, now.world.contexts.Lapsed id →
      (now.runActs storage more).world.contexts.Lapsed id := by
  intro start now record
  have hNow : now.world.contexts.Sound :=
    sound_runActs storage acts (sound_start service settings clientContext)
  have hCount := fun entry => keysAtEnds_start storage service settings clientContext entry acts
  refine ⟨?_, ?_, ?_, ?_, ?_, ?_⟩
  · intro entry
    exact ⟨hNow.nodup_keysOf entry, fun _ => hNow.mem_keysOf_iff⟩
  · intro key entry hPut
    exact known_of_put_mem_movesOf hPut
  · intro id notices hNotices
    have hTold : notices = start.keysAtEnds storage (.foreign id) acts :=
      notices_eq_keysAtEnds hNotices
    refine ⟨hTold, hTold.trans (hCount _), ?_⟩
    rw [hTold]
    exact keysAtEnds_eq_endsWhile_iff storage _ acts start
  · intro id context hContext
    have hValid : context.valid = true ↔ start.endsWhile storage (.context id) acts = 0 :=
      valid_iff_endsWhile_eq_zero hContext
    refine ⟨hValid, ?_⟩
    rw [hValid, endsWhile_eq_zero_iff, hCount]
  · intro act hEnds
    refine (moved_act storage now act).untold ?_
    rw [queryEnd_mem_moves_iff, hEnds]
    exact Bool.false_ne_true
  · intro more id hBefore
    exact (lapsed_runActs_iff storage hNow more id).mpr (.inl hBefore)

/-! One state under two keys, and two queries: the first context is told at the end of the first,
its successor at the end of the second, and the one that was made with caching off is never told. -/

def twoQueries : List Act :=
  [.command (.register "log"), .register "copy" (.foreign 0), .command (.context "az://c/k"),
    .command .queryEnd, .command (.unregister "log"), .command (.context "az://c/k"),
    .command (.set Settings.cachingKey (.bool false)), .command (.context "az://c/k"),
    .command .queryEnd]

def freshContext : StorageContext Memory.Client := ⟨⟨"memory"⟩, {}, true⟩

def beforeQueries : Session Memory.Store Memory.Client := .start {} {} true

def afterQueries : Contexts Memory.Client :=
  (beforeQueries.runActs Memory.storage twoQueries).world.contexts

theorem notices_exact_two_queries :
    (afterQueries.notices[0]? = some 3 ∧
      3 = beforeQueries.keysAtEnds Memory.storage (.foreign 0) twoQueries ∧
      3 = Move.noticesOf (.foreign 0) (beforeQueries.movesOf Memory.storage twoQueries)) ∧
    (afterQueries.get? 0 = some freshContext.expire ∧
      Move.noticesOf (.context 0) (beforeQueries.movesOf Memory.storage twoQueries) ≠ 0) ∧
    (afterQueries.get? 2 = some freshContext ∧
      beforeQueries.endsWhile Memory.storage (.context 2) twoQueries = 0) ∧
    afterQueries.keysOf (.context 1) = [registryKey ""] := by
  obtain ⟨-, -, hForeign, hContext, -, -⟩ := notices_exact Memory.storage {} {} true twoQueries
  have hNotices : afterQueries.notices[0]? = some 3 := rfl
  have hTold : afterQueries.get? 0 = some freshContext.expire := rfl
  have hApart : afterQueries.get? 2 = some freshContext := rfl
  obtain ⟨hKeys, hRecord, -⟩ := hForeign 0 3 hNotices
  refine ⟨⟨hNotices, hKeys, hRecord⟩, ⟨hTold, ?_⟩, ⟨hApart, (hContext 2 _ hApart).1.mp rfl⟩, rfl⟩
  intro hNone
  cases (hContext 0 _ hTold).2.mpr hNone

/-- A state that is under two keys when a query ends has been told twice. -/
theorem not_notices_eq_endsWhile :
    ¬ ∀ (acts : List Act) (id notices : Nat),
      (beforeQueries.runActs Memory.storage acts).world.contexts.notices[id]? = some notices →
        notices = beforeQueries.endsWhile Memory.storage (.foreign id) acts := by
  intro hOnce
  have hTwice := hOnce
    [.command (.register "log"), .register "copy" (.foreign 0), .command .queryEnd] 0 2 rfl
  cases hTwice.trans (show _ = 1 from rfl)

end Session

end BlobFiles
