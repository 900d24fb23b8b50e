import BlobFiles.Proofs.Handle.Cursor
import BlobFiles.Proofs.Handle.FailedRead
import BlobFiles.Proofs.Results

/-! # Where a positional read leaves the stream

A positional read of a stream is a seek and a read in one: when it succeeds, the stream stands
behind the bytes that were read, and goes on from there. So the position is neither kept nor left
at the start of the range, whether the bytes came from the window, by a refill, past the window or
by direct I/O. Only a stream that stood behind the range already stands where it stood.
-/
namespace BlobFiles.Reader

variable {σ : Type} {download : Download σ} {r : Reader} {n offset : Nat}

theorem shift?_zero (h : offset ≤ maxOffset) : shift? offset 0 = some offset := by
  have hInside : (0 : Int) ≤ offset ∧ (offset : Int) ≤ maxOffset :=
    ⟨Int.natCast_nonneg offset, Int.ofNat_le.mpr h⟩
  simp only [shift?, Int.add_zero, if_pos hInside, Int.toNat_natCast]

/-- A stream says where it stands without being moved. -/
theorem seekTo_current (h : r.position ≤ maxOffset) :
    r.seekTo (.fromCurrent 0) = (.ok r.position, r) := by
  rw [seekTo, target?, shift?_zero h]
  rfl

theorem finished_seek (r : Reader) (n offset : Nat) (data : Bytes) :
    (r.seek offset).finished n offset data = r.finished n offset data := by
  have hPlan : (r.seek offset).plan n offset = r.plan n offset := rfl
  unfold finished
  rw [hPlan]
  cases r.plan n offset <;> rfl

/-- The position before a read shows only in a failed one that does not look at the window. -/
theorem carryOut_seek {s : σ} {data : Bytes} (h : (r.carryOut download n offset s).1 = .ok data) :
    (r.seek offset).carryOut download n offset s = r.carryOut download n offset s := by
  have hPlan : (r.seek offset).plan n offset = r.plan n offset := rfl
  have hDelivered : (r.seek offset).delivered n offset = r.delivered n offset := rfl
  unfold carryOut at h ⊢
  rw [hPlan, hDelivered]
  cases hRange : (r.plan n offset).range? with
  | none =>
    simp only
    rw [finished_seek]
  | some range =>
    have hFetch : (r.seek offset).fetch download range.1 range.2 s =
        r.fetch download range.1 range.2 s := rfl
    rw [hRange] at h
    simp only at h ⊢
    rw [hFetch]
    generalize r.fetch download range.1 range.2 s = fetched at h ⊢
    obtain ⟨answer, s'⟩ := fetched
    cases answer with
    | error e => cases h
    | ok bytes =>
      simp only
      rw [finished_seek]

theorem readAt_succeeds_iff (hInside : n = 0 ∨ offset + n ≤ r.length) (s : σ) :
    (∃ data, (r.readAt download n offset s).1 = .ok data) ↔
      ∀ d ∈ r.downloads download (.readAt n offset) s, d.failure? = none := by
  have hRange := outOfRange_of_inside hInside
  rw [readAt_eq_carryOut download hRange, downloads_readAt download hRange]
  rcases carryOut_cases download r n offset s with
    ⟨data, hOk, hLog, -⟩ | ⟨d, e, hLog, hFailure, hError⟩
  · rw [hOk]
    exact ⟨fun _ => hLog, fun _ => ⟨_, rfl⟩⟩
  · rw [hError, hLog]
    constructor
    · rintro ⟨data, hOk⟩
      cases hOk
    · intro hUseful
      rw [hUseful d (List.mem_singleton_self d)] at hFailure
      cases hFailure

/-- Inside the blob, a positional read that succeeds is a read from where the range starts. -/
theorem readExactAt_eq_readSome (hInside : offset + n ≤ r.length) {s : σ} {data : Bytes}
    (h : (r.readExactAt download n offset s).1 = .ok data) :
    r.readExactAt download n offset s = (r.seek offset).readSome download n s := by
  have hRange := outOfRange_of_inside (Or.inr hInside : n = 0 ∨ offset + n ≤ r.length)
  have hAll : min n ((r.seek offset).length - (r.seek offset).position) = n := by
    change min n (r.length - offset) = n
    omega
  have hOk : ∃ data, (r.carryOut download n offset s).1 = .ok data := by
    rw [← readAt_eq_carryOut download hRange]
    exact ⟨data, mapError_eq_ok_iff.mp h⟩
  obtain ⟨data', hOk⟩ := hOk
  have hSame : r.readAt download n offset s = (r.seek offset).read download n s := by
    rw [read_eq_carryOut, hAll, readAt_eq_carryOut download hRange]
    exact (carryOut_seek hOk).symm
  rw [readExactAt, readSome, hSame]

/-- Wherever the bytes of a successful positional read come from, the stream stands behind them:
where a seek to the range and a read of it would have left it. -/
theorem positional_read_moves_behind_range (download : Download σ) (path : String)
    (flags : OpenFlags) (options : ReadOptions) (properties : BlobProperties)
    (history : List FileRequest) (s₀ : σ) {n offset : Nat} (hPos : 0 < n)
    (hInside : offset + n ≤ properties.size) (hSize : properties.size ≤ maxOffset) :
    let before := run download history (ofProperties path flags options properties, s₀)
    let result := before.1.readExactAt download n offset before.2
    let after := result.2
    ((∃ data, result.1 = .ok data) ↔
      ∀ d ∈ before.1.downloads download (.streamReadExactAt n offset) before.2,
        d.failure? = none) ∧
    ∀ data, result.1 = .ok data →
      result = (before.1.seek offset).readSome download n before.2 ∧
      after.1.position = offset + n ∧
      after.1.seekTo (.fromCurrent 0) = (.ok (offset + n), after.1) ∧
      after.1.position ≠ offset ∧
      (after.1.position = before.1.position ↔ before.1.position = offset + n) ∧
      ∀ (content : Bytes) (holds : σ → Prop), download.Serves content holds →
        content.length = properties.size → content.length < maxOffset → holds s₀ →
        data = slice content offset n ∧
        ∀ k next, (after.1.readSome download k after.2).1 = .ok next →
          next = slice content (offset + n) k := by
  intro before result after
  have hLength : before.1.length = properties.size :=
    length_of_file (file_run download history _ s₀)
  rw [← hLength] at hInside
  refine ⟨?_, ?_⟩
  · have hRead : (∃ data, result.1 = .ok data) ↔
        ∃ data, (before.1.readAt download n offset before.2).1 = .ok data :=
      exists_congr fun data => mapError_eq_ok_iff
    exact hRead.trans (readAt_succeeds_iff (.inr hInside) before.2)
  · intro data hOk
    have hRead : before.1.readAt download n offset before.2 = (.ok data, after) :=
      Prod.ext (mapError_eq_ok_iff.mp hOk) rfl
    have hPosition : after.1.position = offset + n := (position_of_readAt hRead).1
    refine ⟨readExactAt_eq_readSome hInside hOk, hPosition, ?_, by omega, by omega, ?_⟩
    · rw [← hPosition]
      exact seekTo_current (by omega)
    · intro content holds hServes hCount hSmall hs
      obtain ⟨size, lastModified⟩ := properties
      cases hCount
      have hOpened := sound_ofProperties path flags options content lastModified
      obtain ⟨hSound, hNow⟩ := sound_run hServes hSmall history hOpened hs
      obtain ⟨hData, hSound', hs'⟩ := readAt_of_sound hServes hSmall hSound hNow hRead
      refine ⟨hData, ?_⟩
      intro k next hNext
      rw [← hPosition]
      exact read_of_sound hServes hSmall hSound' hs' (mapError_eq_ok_iff.mp hNext)

/-- Two bytes are read ahead of where the stream stands, and the stream goes on behind them. -/
theorem positional_read_moves_behind_range_refill :
    let content : Bytes := [10, 11, 12, 13, 14, 15, 16, 17]
    let opened := ofProperties "az://c/k" { read := true } { bufferSize := 4 } ⟨8, none⟩
    let before := run (steady content) [.read 1] (opened, 0)
    let result := before.1.readExactAt (steady content) 2 4 before.2
    let after := result.2
    (0 < 2 ∧ 4 + 2 ≤ 8 ∧ 8 ≤ maxOffset) ∧ before.1.position = 1 ∧ result.1 = .ok [14, 15] ∧
      after.1.position = 6 ∧ after.1.seekTo (.fromCurrent 0) = (.ok 6, after.1) ∧
      ∀ next, (after.1.readSome (steady content) 1 after.2).1 = .ok next → next = [16] := by
  intro content opened before result after
  have hBefore : before =
      ({ opened with position := 1, window := ⟨4, 0, 4, 1, 3, [10, 11, 12, 13]⟩ }, 1) := by
    change (opened.read (steady content) 1 0).2 = _
    rw [read_eq_carryOut]
    rfl
  have hOk : result.1 = .ok [14, 15] := by
    change (before.1.readAt (steady content) 2 4 before.2).1.mapError FsError.toIo = _
    rw [hBefore, readAt_eq_carryOut _ rfl]
    rfl
  obtain ⟨-, hBehind⟩ := positional_read_moves_behind_range (steady content) "az://c/k"
    { read := true } { bufferSize := 4 } ⟨8, none⟩ [.read 1] 0 (by decide : 0 < 2)
    (by decide : 4 + 2 ≤ 8) (by decide)
  obtain ⟨-, hPosition, hCurrent, -, -, hNext⟩ := hBehind _ hOk
  refine ⟨⟨by decide, by decide, by decide⟩, congrArg (·.1.position) hBefore, hOk, hPosition,
    hCurrent, ?_⟩
  intro next hRead
  exact (hNext content (fun _ => True) (steady_delivers content).serves rfl (by decide)
    trivial).2 1 next hRead

end BlobFiles.Reader
