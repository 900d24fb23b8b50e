import BlobFiles.Proofs.Session.History
import BlobFiles.Storage.Memory

/-! # Sharing is exact

Whatever has happened in a session, a lookup hands out the context that its account shares, or a new
one. The two facts about the far past, that a context made with caching off is not seen again and
that none outlives the query, need no look at the registry: on a lawful record the context that an
account shares was new when it was first handed out.
-/
namespace BlobFiles

variable {σ κ : Type}

def Lawful (storage : Storage σ κ) (record : List (Occurrence κ)) : Prop :=
  ∀ earlier l later, record = earlier ++ .lookup l :: later → l.Lawful storage earlier

theorem lawful_session (storage : Storage σ κ) (service : σ) (settings : Settings)
    (clientContext : Bool) (events : List (Event σ)) :
    Lawful storage
      ((Session.start service settings clientContext : Session σ κ).world.history storage
        events) := by
  intro earlier l later hHistory
  exact lawful_history (Tracked.start service settings clientContext) events hHistory

/-- Two places in one list: the first is before the second, is the second, or is behind it. -/
theorem places_cases {α : Type} {before since before' since' : List α} {a b : α}
    (h : before ++ a :: since = before' ++ b :: since') :
    (∃ between, before' = before ++ a :: between) ∨ a = b ∨
      ∃ between, before = before' ++ b :: between ∧ since' = between ++ a :: since := by
  rcases List.append_eq_append_iff.mp h with ⟨between, hBefore', hRest⟩ | ⟨between, hBefore, hRest⟩
  · cases between with
    | nil =>
      rw [List.nil_append] at hRest
      exact .inr (.inl (List.cons.inj hRest).1)
    | cons head between =>
      obtain ⟨rfl, _⟩ := List.cons.inj hRest
      exact .inl ⟨between, hBefore'⟩
  · cases between with
    | nil =>
      rw [List.nil_append] at hRest
      exact .inr (.inl (List.cons.inj hRest).1.symm)
    | cons head between =>
      obtain ⟨rfl, hSince'⟩ := List.cons.inj hRest
      exact .inr (.inr ⟨between, hBefore, hSince'⟩)

namespace Lawful

variable {storage : Storage σ κ} {record : List (Occurrence κ)} {past rest : List (Occurrence κ)}

theorem new_of_firstShared (hLawful : Lawful storage record) (hRecord : record = past ++ rest)
    {account : String} {id : Nat} {context : StorageContext κ}
    (h : firstShared account past = some (id, context)) :
    ∃ before l since, past = before ++ .lookup l :: since ∧
      (l.settings.caching = .ok true ∧ l.url.account = account ∧ l.result = .ok (id, context)) ∧
      firstShared account before = none ∧ l.Made storage before id context ∧
      ∀ o ∈ since, o.resets account = false := by
  obtain ⟨before, l, since, hPast, ⟨hCaching, rfl, hResult⟩, hNone, hSince⟩ := of_firstShared h
  refine ⟨before, l, since, hPast, ⟨hCaching, rfl, hResult⟩, hNone, ?_, hSince⟩
  have hPlace : record = before ++ .lookup l :: (since ++ rest) := by
    rw [hRecord, hPast, List.append_assoc, List.cons_append]
  rcases hLawful _ _ _ hPlace id context hResult with ⟨_, hSome, _⟩ | ⟨_, hMade⟩
  · rw [hNone] at hSome
    cases hSome
  · exact hMade

theorem not_issued_later (hLawful : Lawful storage record) {earlier later : List (Occurrence κ)}
    {l : Lookup κ} {id : Nat} {context : StorageContext κ}
    (hRecord : record = earlier ++ .lookup l :: later) (hResult : l.result = .ok (id, context))
    (hCaching : l.settings.caching = .ok false) : id ∉ issued later := by
  intro hMem
  have hNew : id ∉ issued earlier := by
    rcases hLawful _ _ _ hRecord id context hResult with ⟨hOn, _⟩ | ⟨_, hMade⟩
    · cases hCaching.symm.trans hOn
    · exact hMade.new
  obtain ⟨between, m, context', rest, rfl, hAgain⟩ := mem_issued_iff.mp hMem
  have hPlace : record = (earlier ++ .lookup l :: between) ++ .lookup m :: rest := by
    rw [hRecord, List.append_assoc, List.cons_append]
  rcases hLawful _ _ _ hPlace id context' hAgain with ⟨_, hShared, _⟩ | ⟨_, hMade⟩
  · obtain ⟨before, first, since, hSplit, ⟨hOn, _, hFirst⟩, _, hFirstMade, _⟩ :=
      hLawful.new_of_firstShared hPlace hShared
    -- The lookup that was shared cannot stand before, at, or behind the one with caching off.
    rcases places_cases hSplit with ⟨_, hBehind⟩ | hSame | ⟨_, hBefore, _⟩
    · exact hFirstMade.new (mem_issued_iff.mpr ⟨_, _, _, _, hBehind, hResult⟩)
    · cases hSame
      cases hCaching.symm.trans hOn
    · exact hNew (mem_issued_iff.mpr ⟨_, _, _, _, hBefore, hFirst⟩)
  · exact hMade.new (mem_issued_iff.mpr ⟨_, _, _, _, rfl, hResult⟩)

theorem not_issued_before_queryEnd (hLawful : Lawful storage record)
    {before since later : List (Occurrence κ)} {l : Lookup κ} {id : Nat}
    {context : StorageContext κ}
    (hRecord : record = (before ++ .queryEnd :: since) ++ .lookup l :: later)
    (hResult : l.result = .ok (id, context)) : id ∉ issued before := by
  have hSubset : ∀ rest : List (Occurrence κ), id ∈ issued before → id ∈ issued (before ++ rest) :=
    fun rest hMem => by
      rw [issued_append]
      exact List.mem_append_left _ hMem
  rcases hLawful _ _ _ hRecord id context hResult with ⟨_, hShared, _⟩ | ⟨_, hMade⟩
  · obtain ⟨past, first, rest, hSplit, _, _, hFirstMade, hKept⟩ :=
      hLawful.new_of_firstShared hRecord hShared
    rcases places_cases hSplit with ⟨_, hBehind⟩ | hSame | ⟨_, _, hRest⟩
    · have hFirstNew := hFirstMade.new
      rw [hBehind] at hFirstNew
      exact fun hMem => hFirstNew (hSubset _ hMem)
    · cases hSame
    · cases hKept .queryEnd (hRest ▸ List.mem_append_right _ List.mem_cons_self)
  · exact fun hMem => hMade.new (hSubset _ hMem)

end Lawful

/-- What a lookup that succeeds hands out, in any session and at any time. -/
theorem lookup_shares_exactly (storage : Storage σ κ) (service : σ) (settings : Settings)
    (clientContext : Bool) (events : List (Event σ)) {earlier later : List (Occurrence κ)}
    {l : Lookup κ} {id : Nat} {context : StorageContext κ}
    (hHistory : (Session.start service settings clientContext : Session σ κ).world.history storage
      events = earlier ++ .lookup l :: later)
    (hResult : l.result = .ok (id, context)) :
    ((l.settings.caching = .ok true ∧
        match firstShared l.url.account earlier with
        | some first => (id, context) = first ∧ l.connects = 0
        | none => l.Made storage earlier id context) ∨
      (l.settings.caching = .ok false ∧ l.Made storage earlier id context ∧
        id ∉ issued later)) ∧
    ∀ before since, earlier = before ++ .queryEnd :: since → id ∉ issued before := by
  have hLawful := lawful_session storage service settings clientContext events
  refine ⟨?_, ?_⟩
  · rcases hLawful _ _ _ hHistory id context hResult with
      ⟨hCaching, hShared, hConnects⟩ | ⟨hCaching | ⟨hCaching, hNone⟩, hMade⟩
    · rw [hShared]
      exact .inl ⟨hCaching, rfl, hConnects⟩
    · exact .inr ⟨hCaching, hMade, hLawful.not_issued_later hHistory hResult hCaching⟩
    · rw [hNone]
      exact .inl ⟨hCaching, hMade⟩
  · rintro before since rfl
    exact hLawful.not_issued_before_queryEnd hHistory hResult

/-- The second lookup of a second query shares what the first lookup of that query has made. -/
theorem lookup_shares_exactly_in_second_query :
    let url : BlobUrl := ⟨true, "az://", "acct", "blob.core.windows.net", "c", "k"⟩
    let ask : Event Memory.Store := .acquire {} "az://c/k" url
    let w : World Memory.Store Memory.Client := (Session.start {} {} true).world
    let earlier := w.history Memory.storage [ask, .queryEnd, ask]
    let l := (w.after Memory.storage [ask, .queryEnd, ask]).lookup Memory.storage {} "az://c/k" url
    let context : StorageContext Memory.Client := ⟨⟨"acct"⟩, {}, true⟩
    (w.history Memory.storage [ask, .queryEnd, ask, ask] = earlier ++ [.lookup l] ∧
      l.result = .ok (1, context)) ∧
    ((l.settings.caching = .ok true ∧
        match firstShared l.url.account earlier with
        | some first => (1, context) = first ∧ l.connects = 0
        | none => l.Made Memory.storage earlier 1 context) ∨
      (l.settings.caching = .ok false ∧ l.Made Memory.storage earlier 1 context ∧
        1 ∉ issued ([] : List (Occurrence Memory.Client)))) ∧
    ∀ before since, earlier = before ++ .queryEnd :: since → 1 ∉ issued before := by
  intro url ask w earlier l context
  have hHistory : w.history Memory.storage [ask, .queryEnd, ask, ask] = earlier ++ [.lookup l] :=
    rfl
  have hResult : l.result = .ok (1, context) := rfl
  exact ⟨⟨hHistory, hResult⟩, lookup_shares_exactly Memory.storage {} {} true _ hHistory hResult⟩

end BlobFiles
