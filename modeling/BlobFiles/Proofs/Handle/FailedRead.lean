import BlobFiles.Proofs.Handle.Delivery
import BlobFiles.Proofs.Handle.PlainFile

/-! # What a failed read takes with it

A read from the position can fail only at its one download. By then the window's share has been
handed out and the position moved behind it, so these bytes are neither returned nor read again: a
retry goes on after them. Nothing is lost when the window has no byte at the position, nor when
reads do not look at the window.
-/
namespace BlobFiles

theorem Window.supply_eq_zero_iff {w : Window} {offset n : Nat} (hPos : 0 < n) :
    w.supply offset n = 0 ↔ w.holds offset = false := by
  unfold supply
  cases hHolds : w.holds offset with
  | true =>
    simp only [holds, Bool.and_eq_true, decide_eq_true_eq] at hHolds
    rw [if_pos rfl]
    constructor
    · intro hNone
      omega
    · intro hNot
      cases hNot
  | false => exact ⟨fun _ => rfl, fun _ => rfl⟩

namespace Reader

variable {σ : Type} {download : Download σ} {r : Reader} {n offset : Nat}

/-- How far a read that fails moves the position. -/
def lostShare (r : Reader) (n : Nat) : Nat :=
  if r.flags.directIo then 0 else r.window.supply r.position (min n (r.length - r.position))

theorem interrupted_eq (hPos : 0 < n) :
    r.interrupted n offset = if r.flags.directIo then r else r.supplied n offset := by
  unfold interrupted
  split
  · rename_i hPlan
    rw [if_pos (directIo_of_plan hPlan)]
  · rename_i hOther
    rw [if_neg]
    intro hDirect
    exact hOther offset n (plan_of_directIo hDirect hPos offset)

theorem planned_zero (download : Download σ) (r : Reader) (offset : Nat) (s : σ) :
    r.planned download 0 offset s = [] := by
  have hDirect : (r.flags.directIo && decide (0 < 0)) = false := Bool.and_false _
  have hPlan : r.plan 0 offset = .supplied := by
    rw [plan_of_buffered hDirect]
    simp only [Nat.zero_sub, if_true]
  rw [planned, hPlan]
  rfl

/-- A read from the position fails with the failure of its one download, and behind the window's
share. -/
theorem read_failed {s : σ} {e : FsError} (h : (r.read download n s).1 = .error e) :
    (∃ d cause, r.downloads download (.read n) s = [d] ∧ d.failure? = some cause ∧
      e = .ofStorage "read" r.path cause) ∧
    0 < min n (r.length - r.position) ∧
    (r.read download n s).2.1 =
      if r.flags.directIo then r else r.supplied (min n (r.length - r.position)) r.position := by
  rw [read_eq_carryOut] at h ⊢
  rw [downloads_read, downloads_readAt download (r.outOfRange_read n)]
  generalize min n (r.length - r.position) = m at h ⊢
  rcases carryOut_cases download r m r.position s with
    ⟨data, hOk, -⟩ | ⟨d, cause, hLog, hFailure, hFailed⟩
  · rw [hOk] at h
    cases h
  · have hPos : 0 < m := by
      rcases Nat.eq_zero_or_pos m with hNone | hSome
      · rw [hNone, planned_zero] at hLog
        cases hLog
      · exact hSome
    rw [hFailed] at h ⊢
    cases h
    exact ⟨⟨d, cause, hLog, hFailure, rfl⟩, hPos, interrupted_eq hPos⟩

theorem position_of_read_failed {s : σ} {e : FsError} (h : (r.read download n s).1 = .error e) :
    (r.read download n s).2.1.position = r.position + r.lostShare n := by
  obtain ⟨-, -, hReader⟩ := read_failed h
  rw [hReader, lostShare]
  split <;> rfl

theorem lostShare_eq_zero_iff (h : 0 < min n (r.length - r.position)) :
    r.lostShare n = 0 ↔ r.flags.directIo = true ∨ r.window.holds r.position = false := by
  unfold lostShare
  cases hDirect : r.flags.directIo with
  | true => exact ⟨fun _ => .inl rfl, fun _ => rfl⟩
  | false =>
    rw [if_neg Bool.false_ne_true, Window.supply_eq_zero_iff h]
    constructor
    · exact .inr
    · rintro (hNever | hMissing)
      · cases hNever
      · exact hMissing

/-- A sound reader that reads a range reads what stands there, and stays sound. -/
theorem readAt_of_sound {content : Bytes} {holds : σ → Prop}
    (hServes : download.Serves content holds) (hSize : content.length < maxOffset)
    (hSound : r.Sound content) {s : σ} (hs : holds s) {data : Bytes} {after : Reader × σ}
    (h : r.readAt download n offset s = (.ok data, after)) :
    data = slice content offset n ∧ after.1.Sound content ∧ holds after.2 := by
  rcases readAt_cases hServes hSize hSound hs n offset with
    ⟨-, -, hRead, -⟩ | ⟨-, r', s', hRead, -, hSound', hs', -⟩ | ⟨-, d, e, s', -, -, hRead, -⟩
  · rw [hRead] at h
    cases h
  · rw [hRead] at h
    cases h
    exact ⟨rfl, hSound', hs'⟩
  · rw [hRead] at h
    cases h

theorem read_of_sound {content : Bytes} {holds : σ → Prop}
    (hServes : download.Serves content holds) (hSize : content.length < maxOffset)
    (hSound : r.Sound content) {s : σ} (hs : holds s) {data : Bytes}
    (h : (r.read download n s).1 = .ok data) : data = slice content r.position n := by
  obtain ⟨hData, -⟩ := readAt_of_sound hServes hSize hSound hs (Prod.ext h rfl)
  rw [hData, hSound.length_eq, slice_min]

theorem failed_read_skips_share (download : Download σ) (path : String) (flags : OpenFlags)
    (options : ReadOptions) (properties : BlobProperties) (history : List FileRequest) (s₀ : σ)
    (n : Nat) :
    let before := run download history (ofProperties path flags options properties, s₀)
    let result := before.1.read download n before.2
    let after := result.2
    let lost := before.1.lostShare n
    ∀ e, result.1 = .error e →
      (∃ d cause, before.1.downloads download (.read n) before.2 = [d] ∧
        d.failure? = some cause ∧ e = .ofStorage "read" path cause) ∧
      before.1.readSome download n before.2 = (.error e.toIo, after) ∧
      after.1.position = before.1.position + lost ∧
      (lost = 0 ↔ flags.directIo = true ∨ before.1.window.holds before.1.position = false) ∧
      ∀ (content : Bytes) (holds : σ → Prop), download.Serves content holds →
        content.length = properties.size → content.length < maxOffset → holds s₀ →
        ∀ k data, (after.1.read download k after.2).1 = .ok data →
          data = slice content (before.1.position + lost) k := by
  intro before result after lost e hFailed
  have hFile : before.1.file = (ofProperties path flags options properties).file :=
    file_run download history _ s₀
  have hPath : before.1.path = path := congrArg Prod.fst hFile
  have hFlags : before.1.flags = flags := congrArg (·.2.1) hFile
  obtain ⟨hDownload, hPos, -⟩ := read_failed hFailed
  have hPosition : after.1.position = before.1.position + lost := position_of_read_failed hFailed
  refine ⟨hPath ▸ hDownload, ?_, hPosition, hFlags ▸ lostShare_eq_zero_iff hPos, ?_⟩
  · change (result.1.mapError FsError.toIo, after) = _
    rw [hFailed]
    rfl
  · intro content holds hServes hLength hSize hs k data hRead
    obtain ⟨size, lastModified⟩ := properties
    cases hLength
    -- the failed read is one more request, and every run keeps the reader sound
    have hAfter : run download (history ++ [.read n])
        (ofProperties path flags options ⟨content.length, lastModified⟩, s₀) = after := by
      rw [run, List.foldl_append]
      rfl
    obtain ⟨hSound, hHolds⟩ := sound_run hServes hSize (history ++ [.read n])
      (sound_ofProperties path flags options content lastModified) hs
    rw [hAfter] at hSound hHolds
    rw [← hPosition]
    exact read_of_sound hServes hSize hSound hHolds hRead

/-- The window has one of three bytes; the other two do not come, and the read that is tried again
begins after the one. -/
theorem failed_read_skips_share_flaky :
    let content : Bytes := [10, 11, 12, 13, 14, 15]
    let opened := ofProperties "az://c/k" { read := true } { bufferSize := 2 } ⟨6, none⟩
    let before := run (PlainFile.flaky content) [.read 1] (opened, 0)
    let result := before.1.read (PlainFile.flaky content) 3 before.2
    let after := result.2
    result.1 = .error (.unknown "read" "az://c/k" "connection reset") ∧
      before.1.position = 1 ∧ after.1.position = 2 ∧
      ∀ k data, (after.1.read (PlainFile.flaky content) k after.2).1 = .ok data →
        data = slice content 2 k := by
  intro content opened before result after
  have hBefore : before =
      ({ opened with position := 1, window := ⟨2, 0, 2, 1, 1, [10, 11]⟩ }, 1) := by
    change (opened.read (PlainFile.flaky content) 1 0).2 = _
    rw [read_eq_carryOut]
    rfl
  have hPosition : before.1.position = 1 := congrArg (·.1.position) hBefore
  have hLost : before.1.lostShare 3 = 1 := congrArg (·.1.lostShare 3) hBefore
  have hFailed : result.1 = .error (.unknown "read" "az://c/k" "connection reset") := by
    change (before.1.read (PlainFile.flaky content) 3 before.2).1 = _
    rw [read_eq_carryOut, hBefore]
    rfl
  obtain ⟨-, -, hAfter, -, hRetry⟩ := failed_read_skips_share (PlainFile.flaky content) "az://c/k"
    { read := true } { bufferSize := 2 } ⟨6, none⟩ [.read 1] 0 3 _ hFailed
  refine ⟨hFailed, hPosition, ?_, ?_⟩
  · change after.1.position = before.1.position + before.1.lostShare 3 at hAfter
    rw [hAfter, hPosition, hLost]
  · intro k data hRead
    have hData := hRetry content (fun _ => True) (PlainFile.flaky_serves content) rfl (by decide)
      trivial k data hRead
    change data = slice content (before.1.position + before.1.lostShare 3) k at hData
    rw [hData, hPosition, hLost]

end Reader

end BlobFiles
