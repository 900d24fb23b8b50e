import BlobFiles.Proofs.Handle.Reachable

/-! # Downloads that deliver

A download delivers some content when it answers every range inside it with the content. A sound
reader on top of one reads without failures: every range inside the content gives the content, and a
read from the position gives what is left or as much of it as was asked for.
-/
namespace BlobFiles

/-- While `holds` is true of the service, a download of a range inside `content` is that range. -/
structure Download.Delivers {σ : Type} (download : Download σ) (content : Bytes)
    (holds : σ → Prop) : Prop where
  keeps : ∀ offset length options s, holds s → holds (download offset length options s).2
  answer : ∀ offset length options s, holds s → offset + length ≤ content.length →
    (download offset length options s).1 = .ok (slice content offset length)

theorem Download.Delivers.serves {σ : Type} {download : Download σ} {content : Bytes}
    {holds : σ → Prop} (h : download.Delivers content holds) : download.Serves content holds where
  keeps := h.keeps
  exact offset length options s data hs hInside hAnswer _ := by
    rw [h.answer offset length options s hs hInside] at hAnswer
    cases hAnswer
    rfl

namespace Reader

variable {σ : Type} {download : Download σ} {content : Bytes} {holds : σ → Prop}

theorem answer_planned (hDelivers : download.Delivers content holds) {r : Reader}
    (hSound : r.Sound content) {s : σ} (hs : holds s) {n offset : Nat}
    (hRange : n = 0 ∨ offset + n ≤ r.length) {start length : Nat}
    (hPlan : (r.plan n offset).range? = some (start, length)) :
    (download start length r.options.transfer s).1 = .ok (slice content start length) ∧
      (slice content start length).length = length := by
  have hInside := (range_of_plan hRange hPlan).2.2
  rw [hSound.length_eq] at hInside
  exact ⟨hDelivers.answer start length _ s hs hInside, length_slice hInside⟩

theorem planned_succeed (hDelivers : download.Delivers content holds) {r : Reader}
    (hSound : r.Sound content) {s : σ} (hs : holds s) {n offset : Nat}
    (hRange : n = 0 ∨ offset + n ≤ r.length) :
    ∀ d ∈ r.planned download n offset s, d.failure? = none := by
  intro d hd
  unfold planned at hd
  split at hd
  · cases hd
  · rename_i start length hPlan
    cases List.mem_singleton.mp hd
    exact DownloadRecord.failure?_eq_none_iff.mpr
      ⟨_, answer_planned hDelivers hSound hs hRange hPlan⟩

theorem readAt_delivered (hDelivers : download.Delivers content holds) {r : Reader}
    (hSound : r.Sound content) {s : σ} (hs : holds s) {n offset : Nat}
    (hRange : n = 0 ∨ offset + n ≤ content.length) :
    ∃ r' s', r.readAt download n offset s = (.ok (slice content offset n), r', s') ∧
      r'.position = offset + n ∧ r'.Sound content ∧ r'.path = r.path ∧ holds s' := by
  rw [← hSound.length_eq] at hRange
  have hPath := congrArg Prod.fst (file_readAt download r n offset s)
  have hKept : holds (r.serviceAfter download n offset s) := by
    unfold serviceAfter
    split
    · exact hs
    · exact hDelivers.keeps _ _ _ s hs
  rw [readAt_eq_carryOut download (outOfRange_of_inside hRange)] at hPath ⊢
  rcases carryOut_cases download r n offset s with ⟨data, hOk, _, hData⟩ | ⟨d, e, hLog, hFailure, _⟩
  · have hSlice : ∀ start length, (r.plan n offset).range? = some (start, length) →
        data = slice content start length := by
      intro start length hPlan
      have hAnswer := (hData start length hPlan).1
      rw [(answer_planned hDelivers hSound hs hRange hPlan).1] at hAnswer
      cases hAnswer
      rfl
    obtain ⟨hDelivered, hPosition, hSound'⟩ := finished_sound hSound hRange hSlice
    rw [hOk] at hPath
    rw [hDelivered] at hOk
    exact ⟨_, _, hOk, hPosition, hSound', hPath, hKept⟩
  · -- the one planned download is of use
    have hUseful := planned_succeed hDelivers hSound hs hRange d (hLog ▸ List.mem_singleton_self d)
    rw [hFailure] at hUseful
    cases hUseful

theorem read_delivered (hDelivers : download.Delivers content holds) {r : Reader}
    (hSound : r.Sound content) {s : σ} (hs : holds s) (n : Nat) :
    ∃ r' s', r.read download n s = (.ok (slice content r.position n), r', s') ∧
      r'.position = r.position + (slice content r.position n).length ∧ r'.Sound content ∧
      r'.path = r.path ∧ holds s' := by
  have hRange : min n (content.length - r.position) = 0 ∨
      r.position + min n (content.length - r.position) ≤ content.length := by omega
  obtain ⟨r', s', hRead, hPosition, hRest⟩ := readAt_delivered hDelivers hSound hs hRange
  rw [slice_min] at hRead
  refine ⟨r', s', ?_, ?_, hRest⟩
  · rw [read, hSound.length_eq, hRead]
  · rw [hPosition, length_slice_eq_min]

/-- What buffers of these sizes hold together. -/
def roomOf (sizes : List Nat) : Nat := sizes.foldr (· + ·) 0

/-- Reads from the position on with buffers of these sizes, one after another. -/
def readEach (download : Download σ) :
    (sizes : List Nat) → Reader → σ → Except FsError (List Bytes) × Reader × σ
  | [], r, s => (.ok [], r, s)
  | n :: sizes, r, s =>
    match r.read download n s with
    | (.error e, r, s) => (.error e, r, s)
    | (.ok data, r, s) =>
      let (result, r, s) := readEach download sizes r s
      (result.map (data :: ·), r, s)

theorem readEach_delivered (hDelivers : download.Delivers content holds) {r : Reader}
    (hSound : r.Sound content) {s : σ} (hs : holds s) (sizes : List Nat) :
    ∃ chunks r' s', r.readEach download sizes s = (.ok chunks, r', s') ∧
      chunks.flatten = slice content r.position (roomOf sizes) ∧
      ((∀ n ∈ sizes, 0 < n) → [] ∈ chunks → content.length ≤ r.position + roomOf sizes) := by
  induction sizes generalizing r s with
  | nil => exact ⟨[], r, s, rfl, (slice_zero content r.position).symm, fun _ hMem => by cases hMem⟩
  | cons n sizes ih =>
    obtain ⟨r', s', hRead, hPosition, hSound', -, hs'⟩ := read_delivered hDelivers hSound hs n
    obtain ⟨chunks, r'', s'', hRest, hFlatten, hEnd⟩ := ih hSound' hs'
    have hCount := length_slice_eq_min content r.position n
    have hRoom : roomOf (n :: sizes) = n + roomOf sizes := rfl
    rw [hRoom]
    refine ⟨slice content r.position n :: chunks, r'', s'', ?_, ?_, ?_⟩
    · simp only [readEach, hRead, hRest]
      rfl
    · rw [List.flatten_cons, hFlatten, hPosition, slice_append_slice]
    · intro hPositive hMem
      have hn : 0 < n := hPositive n List.mem_cons_self
      rcases List.mem_cons.mp hMem with hNothing | hLater
      · rw [← hNothing, List.length_nil] at hCount
        omega
      · have hReached := hEnd (fun m hm => hPositive m (List.mem_cons_of_mem n hm)) hLater
        omega

end Reader

end BlobFiles
