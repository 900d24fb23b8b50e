import BlobFiles.Proofs.Handle.Cursor
import BlobFiles.Proofs.Handle.SingleDownload

/-! # Reading on downloads every byte once

Reads from the position on, of any sizes, download the blob from its start piece after piece: a
download begins where the one before it has ended. That is so because what has been downloaded and
is still to be handed out is the end of the window, also after a read that went past the window. A
download that fails ends the row, since nothing is handed out for it.
-/
namespace BlobFiles

/-! ## Ranges in a row -/

/-- Ranges, by offset and length, that follow one another from `start` to `stop`. None is empty. -/
inductive Tiles : (start : Nat) → List (Nat × Nat) → (stop : Nat) → Prop
  | nil {start : Nat} : Tiles start [] start
  | cons {start length stop : Nat} {ranges : List (Nat × Nat)} (hPos : 0 < length)
      (hRest : Tiles (start + length) ranges stop) : Tiles start ((start, length) :: ranges) stop

namespace Tiles

variable {start middle stop : Nat} {ranges front back : List (Nat × Nat)}

theorem le (h : Tiles start ranges stop) : start ≤ stop := by
  induction h with
  | nil => exact Nat.le_refl _
  | cons _ _ ih => omega

theorem append (hFront : Tiles start front middle) (hBack : Tiles middle back stop) :
    Tiles start (front ++ back) stop := by
  induction hFront with
  | nil => exact hBack
  | cons hPos _ ih => exact .cons hPos (ih hBack)

theorem eq_nil (h : Tiles start ranges stop) (hEmpty : stop ≤ start) : ranges = [] := by
  cases h with
  | nil => rfl
  | cons hPos hRest =>
    have hLater := hRest.le
    omega

/-- The bytes from `start` to `stop` are in one range each, and no other byte is in any. -/
theorem countP_eq (h : Tiles start ranges stop) (i : Nat) :
    ranges.countP (fun range => range.1 ≤ i && i < range.1 + range.2) =
      if start ≤ i ∧ i < stop then 1 else 0 := by
  induction h with
  | nil =>
    rw [List.countP_nil, if_neg]
    omega
  | @cons start length stop ranges hPos hRest ih =>
    have hLater := hRest.le
    rw [List.countP_cons, ih]
    simp only [Bool.and_eq_true, decide_eq_true_eq]
    by_cases hHere : start ≤ i ∧ i < start + length
    · rw [if_pos hHere, if_neg (by omega), if_pos (by omega)]
    · rw [if_neg hHere, Nat.add_zero]
      congr 1
      apply propext
      omega

end Tiles

namespace Reader

variable {σ : Type} {download : Download σ} {r : Reader} {stop n : Nat}

/-! ## One read -/

/-- The blob has been downloaded up to `stop`, and what of that was not handed out yet is the end of
the window. -/
structure Streaming (r : Reader) (stop : Nat) : Prop where
  position_le : r.position ≤ stop
  stop_le : stop ≤ r.length
  window_le : r.window.stop ≤ stop
  held : r.position < stop → r.window.start ≤ r.position ∧ r.window.stop = stop
  direct : r.flags.directIo = true → r.position = stop

namespace Streaming

/-- All that has been downloaded has been handed out. -/
theorem at_end (hPosition : r.position = stop) (hInside : stop ≤ r.length)
    (hWindow : r.window.stop ≤ stop) : r.Streaming stop where
  position_le := Nat.le_of_eq hPosition
  stop_le := hInside
  window_le := hWindow
  held hBehind := absurd hPosition (Nat.ne_of_lt hBehind)
  direct _ := hPosition

theorem supply_eq (h : r.Streaming stop) (n : Nat) :
    r.position + r.window.supply r.position n = min stop (r.position + n) := by
  have hPosition := h.position_le
  unfold Window.supply Window.holds
  by_cases hBehind : r.position < stop
  · obtain ⟨hStart, hStop⟩ := h.held hBehind
    rw [if_pos (by simp [hStart, hStop, hBehind]), hStop]
    omega
  · have hWindow := h.window_le
    rw [if_neg (by simp; omega)]
    omega

/-- A download begins where the one before it has ended. -/
theorem start_eq (h : r.Streaming stop) {start length : Nat}
    (hPlan : (r.plan n r.position).range? = some (start, length)) : start = stop := by
  have hSupply := h.supply_eq n
  rcases r.plan_cases n r.position with
    ⟨hDirect, -⟩ | ⟨hAll, -⟩ | ⟨hPast, hLt⟩ | ⟨hRefill, hLt, -⟩
  · have hPosition := h.direct (directIo_of_plan hDirect)
    rw [hDirect] at hPlan
    cases hPlan
    exact hPosition
  · rw [hAll] at hPlan
    cases hPlan
  · rw [hPast] at hPlan
    cases hPlan
    omega
  · rw [hRefill] at hPlan
    cases hPlan
    omega

/-- Where the downloads end once a read has made its own. -/
def next (r : Reader) (n stop : Nat) : Nat :=
  match (r.plan n r.position).range? with
  | none => stop
  | some (start, length) => start + length

theorem tiles_planned (h : r.Streaming stop) (hRange : n = 0 ∨ r.position + n ≤ r.length)
    (download : Download σ) (s : σ) :
    Tiles stop ((r.planned download n r.position s).map fun d => (d.offset, d.length))
      (next r n stop) := by
  unfold planned next
  cases hPlan : (r.plan n r.position).range? with
  | none => exact .nil
  | some range =>
    obtain ⟨start, length⟩ := range
    obtain ⟨-, hPos, -⟩ := range_of_plan hRange hPlan
    cases h.start_eq hPlan
    exact .cons hPos .nil

theorem next_le (h : r.Streaming stop) (hRange : n = 0 ∨ r.position + n ≤ r.length) :
    next r n stop ≤ r.length := by
  unfold next
  split
  · exact h.stop_le
  · rename_i start length hPlan
    exact (range_of_plan hRange hPlan).2.2

theorem length_finished (r : Reader) (n offset : Nat) (data : Bytes) :
    (r.finished n offset data).length = r.length :=
  length_of_file (r.file_finished n offset data)

theorem finished_to_end (h : r.Streaming stop) (hInside : r.position + n ≤ r.length)
    (hStop : stop ≤ r.position + n) {data : Bytes}
    (hContents : (r.finished n r.position data).window.contents = r.window.contents) :
    (r.finished n r.position data).Streaming (r.position + n) := by
  apply at_end (r.position_finished n r.position data)
  · rwa [length_finished]
  · have hWindow : (r.finished n r.position data).window.stop = r.window.stop :=
      congrArg (·.2.1) hContents
    rw [hWindow]
    exact Nat.le_trans h.window_le hStop

theorem finished_supplied (h : r.Streaming stop) (hPlan : r.plan n r.position = .supplied)
    (hAll : r.window.supply r.position n = n) (data : Bytes) :
    (r.finished n r.position data).Streaming stop := by
  have hPosition := r.position_finished n r.position data
  have hSupply := h.supply_eq n
  have hSame : r.finished n r.position data = r.supplied n r.position := by
    simp only [Reader.finished, hPlan]
  rw [hSame] at hPosition ⊢
  have hContents := r.contents_supplied n r.position
  have hStart : (r.supplied n r.position).window.start = r.window.start :=
    congrArg (·.1) hContents
  have hStop : (r.supplied n r.position).window.stop = r.window.stop :=
    congrArg (·.2.1) hContents
  refine ⟨by omega, h.stop_le, hStop ▸ h.window_le, ?_, ?_⟩
  · intro hLeft
    obtain ⟨hFrom, hTo⟩ := h.held (by omega)
    omega
  · intro hDirect
    have hNone := h.direct hDirect
    omega

theorem finished_refill (h : r.Streaming stop) {length : Nat}
    (hPlan : r.plan n r.position = .refill stop length) (hInside : stop + length ≤ r.length)
    (hBegin : stop < r.position + n) (hEnd : r.position + n ≤ stop + length) (data : Bytes) :
    (r.finished n r.position data).Streaming (stop + length) := by
  have hPosition := r.position_finished n r.position data
  have hContents := r.contents_finished n r.position data
  rw [hPlan] at hContents
  have hStart : (r.finished n r.position data).window.start = stop := congrArg (·.1) hContents
  have hStop : (r.finished n r.position data).window.stop = stop + length :=
    congrArg (·.2.1) hContents
  refine ⟨by omega, ?_, by omega, ?_, ?_⟩
  · rwa [length_finished]
  · intro _
    omega
  · intro hDirect
    have hFlags : (r.finished n r.position data).flags = r.flags :=
      flags_of_file (r.file_finished n r.position data)
    have hBehind := h.position_le
    have hOther := plan_of_directIo (n := n) (hFlags ▸ hDirect) (by omega) r.position
    rw [hPlan] at hOther
    cases hOther

theorem finished (h : r.Streaming stop) (hRange : n = 0 ∨ r.position + n ≤ r.length)
    (data : Bytes) : (r.finished n r.position data).Streaming (next r n stop) := by
  have hSupply := h.supply_eq n
  have hBehind := h.position_le
  have hContents := r.contents_finished n r.position data
  have hInside := h.next_le hRange
  unfold next at hInside ⊢
  rcases r.plan_cases n r.position with
    ⟨hPlan, hPos⟩ | ⟨hPlan, hAll⟩ | ⟨hPlan, hLt⟩ | ⟨hPlan, hLt, hRoom⟩
  · rw [hPlan] at hContents ⊢
    have hStart := h.direct (directIo_of_plan hPlan)
    exact h.finished_to_end (by omega) (by omega) hContents
  · rw [hPlan]
    exact h.finished_supplied hPlan hAll data
  · rw [hPlan] at hContents ⊢
    have hEnd : r.position + r.window.supply r.position n + (n - r.window.supply r.position n) =
        r.position + n := by omega
    change (r.finished n r.position data).Streaming
      (r.position + r.window.supply r.position n + (n - r.window.supply r.position n))
    rw [hEnd]
    exact h.finished_to_end (by omega) (by omega) hContents
  · have hStart : r.position + r.window.supply r.position n = stop := by omega
    rw [hStart] at hPlan hRoom
    rw [hPlan] at hInside ⊢
    exact h.finished_refill hPlan hInside (by omega) (by omega) data

/-- One read more. Where its download ends does not depend on whether it succeeds. -/
theorem step (h : r.Streaming stop) (download : Download σ) (n : Nat) (s : σ) :
    ∃ stop', Tiles stop ((r.downloads download (.read n) s).map fun d => (d.offset, d.length))
        stop' ∧ stop' ≤ r.length ∧
      ((∀ d ∈ r.downloads download (.read n) s, d.failure? = none) →
        (r.read download n s).2.1.Streaming stop') := by
  have hReads := Reads.read (r := r) n
  rw [hReads.downloads_eq, read_eq_carryOut]
  have hInside := hReads.inside
  generalize min n (r.length - r.position) = m at hInside ⊢
  refine ⟨next r m stop, h.tiles_planned hInside download s, h.next_le hInside, ?_⟩
  intro hSucceed
  rcases carryOut_cases download r m r.position s with
    ⟨data, hOk, -⟩ | ⟨d, e, hLog, hFailure, -⟩
  · rw [hOk]
    exact h.finished hInside data
  · have hUseful := hSucceed d (hLog ▸ List.mem_singleton_self d)
    rw [hFailure] at hUseful
    cases hUseful

end Streaming

/-! ## Reads in a row -/

/-- What requests download one after another. -/
def downloadsOf (download : Download σ) (requests : List FileRequest) (start : Reader × σ) :
    List DownloadRecord :=
  (run download.logged requests (start.1, start.2, [])).2.2

theorem after_read_logged (download : Download σ) (n : Nat) (start : Reader × σ)
    (log : List DownloadRecord) :
    after download.logged (start.1, start.2, log) (.read n) =
      ((after download start (.read n)).1, (after download start (.read n)).2,
        log ++ start.1.downloads download (.read n) start.2) := by
  obtain ⟨r, s⟩ := start
  change (r.read download.logged n (s, log)).2 = _
  rw [(Reads.read n).downloads_eq, read_eq_carryOut, carryOut_logged, ← read_eq_carryOut]
  rfl

theorem run_reads_logged (download : Download σ) (sizes : List Nat) (start : Reader × σ)
    (log : List DownloadRecord) :
    run download.logged (sizes.map .read) (start.1, start.2, log) =
      ((run download (sizes.map .read) start).1, (run download (sizes.map .read) start).2,
        log ++ downloadsOf download (sizes.map .read) start) := by
  induction sizes generalizing start log with
  | nil => simp [run, downloadsOf]
  | cons n sizes ih =>
    have hLogged : ∀ log, run download.logged ((n :: sizes).map .read) (start.1, start.2, log) =
        run download.logged (sizes.map .read)
          (after download.logged (start.1, start.2, log) (.read n)) := fun _ => rfl
    rw [downloadsOf, hLogged, hLogged, after_read_logged, after_read_logged, ih, ih]
    rw [List.nil_append, List.append_assoc]
    rfl

theorem downloadsOf_append (download : Download σ) (sizes more : List Nat) (start : Reader × σ) :
    downloadsOf download ((sizes ++ more).map .read) start =
      downloadsOf download (sizes.map .read) start ++
        downloadsOf download (more.map .read) (run download (sizes.map .read) start) := by
  have hRun : run download.logged ((sizes ++ more).map .read) (start.1, start.2, []) =
      run download.logged (more.map .read)
        (run download.logged (sizes.map .read) (start.1, start.2, [])) := by
    rw [List.map_append, run, List.foldl_append]
    rfl
  rw [downloadsOf, hRun, run_reads_logged, run_reads_logged]
  rfl

theorem downloadsOf_cons (download : Download σ) (n : Nat) (sizes : List Nat)
    (start : Reader × σ) :
    downloadsOf download ((n :: sizes).map .read) start =
      start.1.downloads download (.read n) start.2 ++
        downloadsOf download (sizes.map .read) (after download start (.read n)) :=
  downloadsOf_append download [n] sizes start

namespace Streaming

theorem run (h : r.Streaming stop) (download : Download σ) (sizes : List Nat) (s : σ)
    (hSucceed : ∀ d ∈ downloadsOf download (sizes.map .read) (r, s), d.failure? = none) :
    ∃ stop', Tiles stop
        ((downloadsOf download (sizes.map .read) (r, s)).map fun d => (d.offset, d.length)) stop' ∧
      (Reader.run download (sizes.map .read) (r, s)).1.Streaming stop' := by
  induction sizes generalizing r stop s with
  | nil => exact ⟨stop, .nil, h⟩
  | cons n sizes ih =>
    rw [downloadsOf_cons] at hSucceed ⊢
    obtain ⟨middle, hFirst, -, hAfter⟩ := h.step download n s
    have hNext := hAfter fun d hd => hSucceed d (List.mem_append_left _ hd)
    obtain ⟨stop', hRest, hEnd⟩ :=
      ih hNext (r.read download n s).2.2 fun d hd => hSucceed d (List.mem_append_right _ hd)
    refine ⟨stop', ?_, hEnd⟩
    rw [List.map_append]
    exact hFirst.append hRest

/-- Once the whole blob has been downloaded, no read downloads anything. -/
theorem run_at_end (h : r.Streaming r.length) (download : Download σ) (sizes : List Nat) (s : σ) :
    downloadsOf download (sizes.map .read) (r, s) = [] := by
  induction sizes generalizing r s with
  | nil => rfl
  | cons n sizes ih =>
    obtain ⟨stop', hTiles, hInside, hAfter⟩ := h.step download n s
    have hNone : r.downloads download (.read n) s = [] :=
      List.map_eq_nil_iff.mp (hTiles.eq_nil hInside)
    have hNext := hAfter (by simp [hNone])
    have hLength : (r.read download n s).2.1.length = r.length :=
      length_of_file (file_readAt download r _ r.position s)
    rw [hNone] at hTiles
    cases hTiles
    rw [downloadsOf_cons, hNone, List.nil_append]
    exact ih (r := (r.read download n s).2.1) (hLength ▸ hNext) _

end Streaming

/-- Reads of any sizes from the start on, one after another. -/
theorem reads_download_each_byte_once (download : Download σ) (path : String) (flags : OpenFlags)
    (options : ReadOptions) (properties : BlobProperties) (sizes : List Nat) (s₀ : σ)
    (hSucceed : ∀ d ∈ downloadsOf download (sizes.map .read)
      (ofProperties path flags options properties, s₀), d.failure? = none) :
    let opened := (ofProperties path flags options properties, s₀)
    let asked := fun sizes : List Nat =>
      (downloadsOf download (sizes.map .read) opened).map fun d => (d.offset, d.length)
    let position := (Reader.run download (sizes.map .read) opened).1.position
    ∃ stop, Tiles 0 (asked sizes) stop ∧ stop ≤ properties.size ∧ position ≤ stop ∧
      (∀ i, (asked sizes).countP (fun range => range.1 ≤ i && i < range.1 + range.2) =
        if i < stop then 1 else 0) ∧
      (position = properties.size → stop = properties.size) ∧
      (stop = properties.size → ∀ more, asked (sizes ++ more) = asked sizes) := by
  intro opened asked position
  have hOpened : opened.1.Streaming 0 := Streaming.at_end rfl (Nat.zero_le _) (Nat.le_refl 0)
  obtain ⟨stop, hTiles, hStreaming⟩ := hOpened.run download sizes s₀ hSucceed
  have hLength : (Reader.run download (sizes.map .read) opened).1.length = properties.size :=
    length_of_file (file_run download (sizes.map .read) opened.1 s₀)
  have hInside : stop ≤ properties.size := hLength ▸ hStreaming.stop_le
  have hBehind : position ≤ stop := hStreaming.position_le
  refine ⟨stop, hTiles, hInside, hBehind, ?_, ?_, ?_⟩
  · intro i
    rw [hTiles.countP_eq i]
    simp only [Nat.zero_le, true_and]
  · intro hReached
    omega
  · intro hAll more
    rw [hAll, ← hLength] at hStreaming
    have hNone :=
      hStreaming.run_at_end download more (Reader.run download (sizes.map .read) opened).2
    change (downloadsOf download ((sizes ++ more).map .read) opened).map _ = _
    rw [downloadsOf_append, hNone, List.append_nil]

/-! ## Services that deliver -/

theorem reads_succeed {content : Bytes} {holds : σ → Prop}
    (hDelivers : download.Delivers content holds) (hSound : r.Sound content) {s : σ} (hs : holds s)
    (sizes : List Nat) :
    ∀ d ∈ downloadsOf download (sizes.map .read) (r, s), d.failure? = none := by
  induction sizes generalizing r s with
  | nil =>
    intro d hd
    cases hd
  | cons n sizes ih =>
    obtain ⟨r', s', hRead, -, hSound', -, hs'⟩ := read_delivered hDelivers hSound hs n
    have hAfter : after download (r, s) (.read n) = (r', s') := congrArg Prod.snd hRead
    rw [downloadsOf_cons, hAfter]
    intro d hd
    rcases List.mem_append.mp hd with hFirst | hRest
    · rw [(Reads.read n).downloads_eq] at hFirst
      exact planned_succeed hDelivers hSound hs (Reads.read n).inside d hFirst
    · exact ih hSound' hs' d hRest

/-- A refill, a read of nothing, a read past the window, and one up to the end. -/
theorem reads_download_each_byte_once_past_window :
    let content : Bytes := [10, 11, 12, 13, 14, 15]
    let opened := (ofProperties "az://c/k" { read := true } { bufferSize := 2 } ⟨6, none⟩, 0)
    let asked := fun sizes : List Nat =>
      (downloadsOf (steady content) (sizes.map .read) opened).map fun d => (d.offset, d.length)
    let position := (Reader.run (steady content) ([1, 0, 4, 3].map .read) opened).1.position
    (∀ d ∈ downloadsOf (steady content) ([1, 0, 4, 3].map .read) opened, d.failure? = none) ∧
    ∃ stop, Tiles 0 (asked [1, 0, 4, 3]) stop ∧ stop ≤ 6 ∧ position ≤ stop ∧
      (∀ i, (asked [1, 0, 4, 3]).countP (fun range => range.1 ≤ i && i < range.1 + range.2) =
        if i < stop then 1 else 0) ∧
      (position = 6 → stop = 6) ∧
      (stop = 6 → ∀ more, asked ([1, 0, 4, 3] ++ more) = asked [1, 0, 4, 3]) := by
  intro content opened asked position
  have hSound : opened.1.Sound content :=
    sound_ofProperties "az://c/k" { read := true } { bufferSize := 2 } content none
  have hSucceed := reads_succeed (steady_delivers content) hSound (s := 0) trivial [1, 0, 4, 3]
  exact ⟨hSucceed, reads_download_each_byte_once (steady content) "az://c/k" { read := true }
    { bufferSize := 2 } ⟨6, none⟩ [1, 0, 4, 3] 0 hSucceed⟩

example :
    let content : Bytes := [10, 11, 12, 13, 14, 15]
    let opened := (ofProperties "az://c/k" { read := true } { bufferSize := 2 } ⟨6, none⟩, 0)
    (downloadsOf (steady content) ([1, 0, 4, 3].map .read) opened).map
      (fun d => (d.offset, d.length)) = [(0, 2), (2, 3), (5, 1)] := by
  cbv

end Reader

end BlobFiles
