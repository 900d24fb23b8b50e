import BlobFiles.Proofs.Handle.Reachable

/-! # What the range check lets through

The check compares the end of a range, cut off at the largest offset of 64 bits, with the length of
the blob. For a blob shorter than the largest offset this is exactly "past the end". A blob as long
as the largest offset has ranges past its end as well; those pass the check and are downloaded.
Nothing is assumed of the download, nor of what was asked before.
-/
namespace BlobFiles

theorem Window.stop_locate (w : Window) (offset : Nat) : (w.locate offset).stop = w.stop := by
  unfold locate
  split <;> rfl

theorem Window.end_le_stop_of_supply {w : Window} {offset n : Nat} (h : 0 < w.supply offset n) :
    offset + w.supply offset n ≤ w.stop := by
  unfold supply at h ⊢
  by_cases hHolds : w.holds offset = true
  · rw [if_pos hHolds] at h ⊢
    omega
  · rw [if_neg hHolds] at h
    omega

def FsError.isOutOfRange : FsError → Bool
  | .outOfRange _ _ _ _ => true
  | _ => false

theorem FsError.isOutOfRange_ofStorage (operation path : String) (e : StorageError) :
    (FsError.ofStorage operation path e).isOutOfRange = false := by
  unfold ofStorage
  split <;> rfl

namespace Reader

variable {σ : Type} {download : Download σ} {r : Reader} {n offset : Nat}

theorem outOfRange_iff :
    r.outOfRange n offset = true ↔ 0 < n ∧ r.length < offset + n ∧ r.length < maxOffset := by
  simp only [outOfRange, Bool.and_eq_true, decide_eq_true_eq, Nat.lt_min]

/-- Only the check fails in this way; a download that is of no use fails as the storage did. -/
theorem readAt_isOutOfRange_iff {s : σ} :
    (∃ e, (r.readAt download n offset s).1 = .error e ∧ e.isOutOfRange = true) ↔
      r.outOfRange n offset = true := by
  constructor
  · rintro ⟨e, hError, hKind⟩
    cases hRange : r.outOfRange n offset with
    | true => rfl
    | false =>
      exfalso
      rw [readAt_eq_carryOut download hRange] at hError
      rcases carryOut_cases download r n offset s with ⟨data, hOk, -⟩ | ⟨d, e', -, -, hFailed⟩
      · rw [hOk] at hError
        cases hError
      · rw [hFailed] at hError
        cases hError
        rw [FsError.isOutOfRange_ofStorage] at hKind
        cases hKind
  · intro hRange
    exact ⟨_, congrArg Prod.fst (readAt_of_outOfRange download hRange s), rfl⟩

/-- The window ends inside the blob, whatever its bytes are. -/
def WindowInside (r : Reader) : Prop := r.window.stop ≤ r.length

theorem windowInside_ofProperties (path : String) (flags : OpenFlags) (options : ReadOptions)
    (properties : BlobProperties) : (ofProperties path flags options properties).WindowInside :=
  Nat.zero_le properties.size

theorem windowInside_supplied (h : r.WindowInside) (n offset : Nat) :
    (r.supplied n offset).WindowInside := by
  have hStop : (r.supplied n offset).window.stop = r.window.stop := r.window.stop_locate offset
  unfold WindowInside
  rw [hStop]
  exact h

theorem windowInside_interrupted (h : r.WindowInside) (n offset : Nat) :
    (r.interrupted n offset).WindowInside := by
  unfold interrupted
  split
  · exact h
  · exact windowInside_supplied h n offset

theorem windowInside_finished (h : r.WindowInside) (n offset : Nat) (data : Bytes) :
    (r.finished n offset data).WindowInside := by
  have hSupplied := windowInside_supplied h n offset
  rcases r.plan_cases n offset with ⟨hPlan, -⟩ | ⟨hPlan, -⟩ | ⟨hPlan, -⟩ | ⟨hPlan, hLt, hRoom⟩
  · simp only [finished, hPlan]
    exact h
  · simp only [finished, hPlan]
    exact hSupplied
  · simp only [finished, hPlan]
    exact hSupplied
  · simp only [finished, hPlan]
    -- the room is not empty, so the refill starts inside the blob
    have hInside : r.room (offset + r.window.supply offset n) ≤
        r.length - (offset + r.window.supply offset n) := Nat.min_le_right _ _
    change offset + r.window.supply offset n + r.room (offset + r.window.supply offset n) ≤ r.length
    omega

theorem windowInside_readAt (h : r.WindowInside) (n offset : Nat) (s : σ) :
    (r.readAt download n offset s).2.1.WindowInside := by
  cases hRange : r.outOfRange n offset with
  | true =>
    rw [readAt_of_outOfRange download hRange]
    exact h
  | false =>
    rw [readAt_eq_carryOut download hRange]
    rcases carryOut_cases download r n offset s with ⟨data, hOk, -⟩ | ⟨d, e, -, -, hFailed⟩
    · rw [hOk]
      exact windowInside_finished h n offset data
    · rw [hFailed]
      exact windowInside_interrupted h n offset

theorem windowInside_run (download : Download σ) (requests : List FileRequest)
    (h : r.WindowInside) (s : σ) : (run download requests (r, s)).1.WindowInside := by
  refine run_keeps (P := fun r _ => r.WindowInside) ?_ ?_ requests r s h
  · intro r n offset s h
    exact windowInside_readAt h n offset s
  · intro r offset s h
    exact h

/-- Past the end the window has nothing and there is no room for a refill, so what is planned is a
download up to the end of the range. -/
theorem range_of_plan_past_end (h : r.WindowInside) (hPos : 0 < n) (hEnd : r.length < offset + n) :
    ∃ start length, (r.plan n offset).range? = some (start, length) ∧
      start + length = offset + n := by
  unfold WindowInside at h
  rcases r.plan_cases n offset with
    ⟨hPlan, -⟩ | ⟨-, hAll⟩ | ⟨hPlan, hLt⟩ | ⟨-, hLt, hRoom⟩
  · exact ⟨offset, n, congrArg Plan.range? hPlan, rfl⟩
  · exfalso
    have hSome : 0 < r.window.supply offset n := by omega
    have hStop := Window.end_le_stop_of_supply hSome
    omega
  · refine ⟨_, _, congrArg Plan.range? hPlan, ?_⟩
    omega
  · exfalso
    have hInside : r.room (offset + r.window.supply offset n) ≤
        r.length - (offset + r.window.supply offset n) := Nat.min_le_right _ _
    omega

theorem downloads_past_end (h : r.WindowInside) (hPos : 0 < n) (hEnd : r.length < offset + n)
    (hPassed : r.outOfRange n offset = false) (s : σ) :
    ∃ d, r.downloads download (.readAt n offset) s = [d] ∧ d.offset + d.length = offset + n := by
  obtain ⟨start, length, hPlan, hSum⟩ := range_of_plan_past_end h hPos hEnd
  refine ⟨r.record download start length s, ?_, hSum⟩
  rw [downloads_readAt download hPassed, planned, hPlan]

theorem readAt_range_check (download : Download σ) (path : String) (flags : OpenFlags)
    (options : ReadOptions) (properties : BlobProperties) (history : List FileRequest) (s₀ : σ)
    (n offset : Nat) :
    let now := run download history (ofProperties path flags options properties, s₀)
    let result := now.1.readAt download n offset now.2
    let log := now.1.downloads download (.readAt n offset) now.2
    let pastEnd := 0 < n ∧ properties.size < offset + n
    ((∃ e, result.1 = .error e ∧ e.isOutOfRange = true) ↔
      pastEnd ∧ properties.size < maxOffset) ∧
    (pastEnd ∧ properties.size < maxOffset →
      result = (.error (.outOfRange path offset n properties.size), now) ∧ log = []) ∧
    (pastEnd ∧ maxOffset ≤ properties.size →
      ∃ d, log = [d] ∧ d.offset + d.length = offset + n) := by
  intro now result log pastEnd
  have hFile : now.1.file = (ofProperties path flags options properties).file :=
    file_run download history _ s₀
  have hPath : now.1.path = path := congrArg Prod.fst hFile
  have hLength : now.1.length = properties.size := congrArg (·.2.2.2.1) hFile
  have hInside : now.1.WindowInside :=
    windowInside_run download history (windowInside_ofProperties path flags options properties) s₀
  have hCheck : now.1.outOfRange n offset = true ↔ pastEnd ∧ properties.size < maxOffset := by
    rw [outOfRange_iff, hLength, and_assoc]
  refine ⟨readAt_isOutOfRange_iff.trans hCheck, ?_, ?_⟩
  · intro hRefused
    have hRange := hCheck.mpr hRefused
    refine ⟨?_, downloads_readAt_of_outOfRange download hRange now.2⟩
    rw [← hPath, ← hLength]
    exact readAt_of_outOfRange download hRange now.2
  · rintro ⟨⟨hPos, hEnd⟩, hLargest⟩
    have hPassed : now.1.outOfRange n offset = false := by
      rw [Bool.eq_false_iff, ne_eq, hCheck]
      omega
    rw [← hLength] at hEnd
    exact downloads_past_end hInside hPos hEnd hPassed now.2

/-- A blob of the largest length, read from its end. -/
theorem readAt_range_check_largest :
    let refuses : Download Unit := fun _ _ _ s => (.error (.unknown "past end"), s)
    let now := run refuses [] (ofProperties "az://c/k" { read := true } {} ⟨maxOffset, none⟩, ())
    (0 < 2 ∧ maxOffset < maxOffset + 2) ∧
      (¬∃ e, (now.1.readAt refuses 2 maxOffset now.2).1 = .error e ∧ e.isOutOfRange = true) ∧
      ∃ d, now.1.downloads refuses (.readAt 2 maxOffset) now.2 = [d] ∧
        d.offset + d.length = maxOffset + 2 := by
  intro refuses now
  obtain ⟨hRefused, -, hAsked⟩ := readAt_range_check refuses "az://c/k" { read := true } {}
    ⟨maxOffset, none⟩ [] () 2 maxOffset
  refine ⟨⟨by decide, by decide⟩, ?_, hAsked ⟨⟨by decide, by decide⟩, Nat.le_refl maxOffset⟩⟩
  rw [hRefused]
  rintro ⟨-, hShorter⟩
  exact Nat.lt_irrefl maxOffset hShorter

end Reader

end BlobFiles
