import BlobFiles.Proofs.Session.Commands
import BlobFiles.Proofs.Session.Record
import BlobFiles.Session.Host

/-! # What acts do to the registry

An act comes to one move of the registry or to none: a query ends, a state is registered, a key is
unregistered, or a lookup puts its context there because that is new and caching is on. Only the end
of a query tells anything.
-/
namespace BlobFiles

variable {σ κ : Type}

namespace World

def moves (storage : Storage σ κ) (w : World σ κ) : Event σ → List Move
  | .acquire settings path url =>
    match settings.caching, (w.acquire storage settings path url).1 with
    | .ok true, .ok (id, _) =>
      if w.contexts.Knows (.context id) then [] else [.put (registryKey url.account) (.context id)]
    | _, _ => []
  | .queryEnd => [.queryEnd]
  | .register key => [.put key (.foreign w.contexts.notices.length)]
  | .unregister key => [.remove key]
  | .traffic _ => []

variable {storage : Storage σ κ} {settings : Settings} {path : String} {url : BlobUrl}
  {w : World σ κ}

theorem queryEnd_not_mem_moves_acquire :
    .queryEnd ∉ w.moves storage (.acquire settings path url) := by
  simp only [moves]
  split
  · split <;> simp
  · simp

/-- A lookup leaves the contexts as they are, or adds a valid one. -/
theorem moved_acquire (storage : Storage σ κ) (settings : Settings) (path : String) (url : BlobUrl)
    (w : World σ κ) :
    Contexts.Moved w.contexts (w.acquire storage settings path url).2.contexts
      (w.moves storage (.acquire settings path url)) := by
  cases hAnswer : (w.acquire storage settings path url).1 with
  | error e =>
    have hNone : w.moves storage (.acquire settings path url) = [] := by simp [moves, hAnswer]
    rw [hNone, acquire_error hAnswer]
    exact .still (.refl _) rfl
  | ok made =>
    obtain ⟨id, context⟩ := made
    obtain ⟨hCaching, hShared, hSame, -⟩ |
      ⟨options, target, hTarget, -, ⟨client, -, hContext⟩, hId, hContexts, -⟩ := acquire_ok hAnswer
    · have hKnown : w.contexts.Knows (.context id) :=
        (List.getElem?_eq_some_iff.mp (Contexts.sharable?_eq_some_iff.mp hShared).2.1).1
      have hNone : w.moves storage (.acquire settings path url) = [] := by
        simp [moves, hCaching, hAnswer, hKnown]
      rw [hNone, hSame]
      exact .still (.refl _) rfl
    · have hUntold : Contexts.Untold w.contexts (w.contexts.enroll target context) := by
        refine .of_enroll _ target ?_
        rw [hContext]
      rw [hContexts]
      rcases hTarget with ⟨hCaching, rfl⟩ | ⟨hCaching, rfl, -, hRegistry⟩
      · have hNone : w.moves storage (.acquire settings path url) = [] := by simp [moves, hCaching]
        rw [hNone]
        exact .still hUntold rfl
      · have hNew : ¬ w.contexts.Knows (.context id) := by
          rw [hId]
          exact Nat.lt_irrefl _
        have hPut : w.moves storage (.acquire settings path url) =
            [.put (registryKey url.account) (.context id)] := by
          simp [moves, hCaching, hAnswer, hNew]
        obtain ⟨registry, hRegistry⟩ := Option.isSome_iff_exists.mp hRegistry
        rw [hPut]
        refine .put hUntold ?_ hRegistry ?_
        · change id < (w.contexts.created ++ [context]).length
          simp [hId]
        · change w.contexts.registry.map _ = _
          rw [hRegistry, hId]
          rfl

end World

def Act.endsQuery : Act → Bool
  | .command .queryEnd => true
  | _ => false

theorem FileSystem.lookups_cases (settings : Option Settings) (path : String)
    (wanted : BlobUrl → Bool) :
    lookups (σ := σ) settings path wanted = [] ∨
      ∃ settings' url, lookups (σ := σ) settings path wanted = [.acquire settings' path url] := by
  unfold lookups
  split
  · split
    · exact .inr ⟨_, _, rfl⟩
    · exact .inl rfl
  · exact .inl rfl

namespace Session

def moves (storage : Storage σ κ) (ss : Session σ κ) : Act → List Move
  | .command .queryEnd => [.queryEnd]
  | .command command => (ss.contextEvents command).flatMap (ss.world.moves storage)
  | .register key entry =>
    if ss.world.contexts.registry.isSome ∧ ss.world.contexts.Knows entry then [.put key entry]
    else []

def movesOf (storage : Storage σ κ) : List Act → Session σ κ → List Move
  | [], _ => []
  | act :: acts, ss => ss.moves storage act ++ movesOf storage acts (ss.act storage act)

variable {storage : Storage σ κ} {ss : Session σ κ}

theorem moved_of_lookups {command : Command} {settings : Option Settings} {path : String}
    {wanted : BlobUrl → Bool}
    (hEvents : ss.contextEvents command = FileSystem.lookups settings path wanted) :
    Contexts.Moved ss.world.contexts
      (ss.world.after storage (ss.contextEvents command)).contexts
      ((ss.contextEvents command).flatMap (ss.world.moves storage)) := by
  rw [hEvents]
  rcases FileSystem.lookups_cases settings path wanted with hNone | ⟨settings', url, hOne⟩
  · rw [hNone]
    exact .still (.refl _) rfl
  · rw [hOne, List.flatMap_singleton]
    exact World.moved_acquire storage settings' path url ss.world

theorem moved_command (storage : Storage σ κ) (ss : Session σ κ) (command : Command) :
    Contexts.Moved ss.world.contexts (ss.step storage command).2.world.contexts
      (ss.moves storage (.command command)) := by
  rw [step_contexts]
  cases command with
  | openFile | fileExists | glob | context => exact moved_of_lookups rfl
  | queryEnd =>
    refine .queryEnd ?_
    cases hRegistry : ss.world.contexts.registry with
    | none =>
      simp only [contextEvents, registered, hRegistry]
      rw [Contexts.queryEnd, hRegistry]
      rfl
    | some registry =>
      simp only [contextEvents, registered, hRegistry]
      rfl
  | register key =>
    cases hRegistry : ss.world.contexts.registry with
    | none =>
      simp only [moves, contextEvents, registered, hRegistry]
      exact .still (.refl _) rfl
    | some registry =>
      simp only [moves, contextEvents, registered, hRegistry]
      refine .put (.of_registerNew _ key) ?_ hRegistry ?_
      · change ss.world.contexts.notices.length < (ss.world.contexts.notices ++ [0]).length
        simp
      · change ss.world.contexts.registry.map _ = _
        rw [hRegistry]
        rfl
  | unregister key =>
    cases hRegistry : ss.world.contexts.registry with
    | none =>
      simp only [moves, contextEvents, registered, hRegistry]
      exact .still (.refl _) rfl
    | some registry =>
      simp only [moves, contextEvents, registered, hRegistry]
      exact .remove (.of_unregister _ key) rfl
  | _ => exact .still (.refl _) rfl

theorem moved_act (storage : Storage σ κ) (ss : Session σ κ) (act : Act) :
    Contexts.Moved ss.world.contexts (ss.act storage act).world.contexts
      (ss.moves storage act) := by
  cases act with
  | command command => exact moved_command storage ss command
  | register key entry =>
    by_cases hKnown : ss.world.contexts.Knows entry
    · have hAct : (ss.act storage (.register key entry)).world.contexts =
          ss.world.contexts.register key entry := by
        rw [Session.act, if_pos hKnown]
        rfl
      rw [hAct]
      cases hRegistry : ss.world.contexts.registry with
      | none =>
        rw [moves, if_neg (by simp [hRegistry])]
        refine .still (.of_register _ key entry) ?_
        rw [Contexts.register, hRegistry]
        rfl
      | some registry =>
        rw [moves, if_pos ⟨by simp [hRegistry], hKnown⟩]
        refine .put (.of_register _ key entry) hKnown hRegistry ?_
        rw [Contexts.register, hRegistry]
        rfl
    · rw [Session.act, if_neg hKnown, moves, if_neg fun hBoth => hKnown hBoth.2]
      exact .still (.refl _) rfl

theorem queryEnd_not_mem_of_lookups {command : Command} {settings : Option Settings}
    {path : String} {wanted : BlobUrl → Bool}
    (hEvents : ss.contextEvents command = FileSystem.lookups settings path wanted) :
    .queryEnd ∉ (ss.contextEvents command).flatMap (ss.world.moves storage) := by
  rw [hEvents]
  rcases FileSystem.lookups_cases settings path wanted with hNone | ⟨settings', url, hOne⟩
  · rw [hNone]
    exact List.not_mem_nil
  · rw [hOne, List.flatMap_singleton]
    exact World.queryEnd_not_mem_moves_acquire

theorem queryEnd_mem_moves_iff {act : Act} :
    .queryEnd ∈ ss.moves storage act ↔ act.endsQuery = true := by
  cases act with
  | register key entry =>
    simp only [moves]
    split <;> simp [Act.endsQuery]
  | command command =>
    cases command with
    | queryEnd => exact iff_of_true (List.mem_singleton.mpr rfl) rfl
    | openFile | fileExists | glob | context =>
      exact iff_of_false (queryEnd_not_mem_of_lookups rfl) Bool.false_ne_true
    | register | unregister =>
      simp only [moves, contextEvents, registered]
      split <;> simp [World.moves, Act.endsQuery]
    | _ => exact iff_of_false List.not_mem_nil Bool.false_ne_true

end Session

end BlobFiles
