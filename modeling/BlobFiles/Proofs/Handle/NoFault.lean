import BlobFiles.Proofs.Handle.CheckedLoop
import BlobFiles.Proofs.Handle.PlainFile

/-! # No check fails

A sound window is all that the checks ask for. So no check fails in a call whose range is inside the
blob or refused; the checked file does in it what the reader does, and its window is sound again.
The blob may be as long as 64 bits allow.
-/
namespace BlobFiles

open Checked

namespace CheckedFile

variable {σ : Type} {download : Download σ} {content : Bytes} {holds : σ → Prop}

theorem locate_eq (f : CheckedFile) (offset : Nat) :
    ∃ f', f.locate offset = .ok f' ∧ f'.reader =
      { f.reader with window := f.reader.window.locate offset, position := offset } := by
  have hHeld : f.reader.window.holds offset = true ↔ f.start ≤ offset ∧ offset < f.stop := by
    rw [Window.holds, Bool.and_eq_true, decide_eq_true_eq, decide_eq_true_eq]
    rfl
  unfold locate Window.locate
  by_cases hHolds : f.start ≤ offset ∧ offset < f.stop
  · rw [if_pos hHolds, if_pos (hHeld.mpr hHolds), sub_eq_ok hHolds.1, ok_bind,
      sub_eq_ok (by omega), ok_bind, sub_eq_ok (by omega), ok_bind]
    exact ⟨_, rfl, rfl⟩
  · rw [if_neg hHolds, if_neg (mt hHeld.mp hHolds)]
    exact ⟨_, rfl, rfl⟩

/-- A call ends without a fault: with this outcome, the reader as it is then, and in the caller's
buffer the bytes, when they have come. -/
def Ends (buffer : Bytes) (outcome : Except FsError Bytes × Reader × σ)
    (result : Except Fault (Except FsError Unit × CheckedFile × Bytes × σ)) : Prop :=
  ∃ f' buffer', result = .ok (outcome.1.map fun _ => (), f', buffer', outcome.2.2) ∧
    f'.reader = outcome.2.1 ∧ buffer'.length = buffer.length ∧
    ∀ data, outcome.1 = .ok data → buffer' = data

theorem refused_iff {f : CheckedFile} {n offset : Nat} :
    f.reader.outOfRange n offset = true ↔ 0 < n ∧ f.length < min (offset + n) maxOffset := by
  rw [Reader.outOfRange, Bool.and_eq_true, decide_eq_true_eq, decide_eq_true_eq]
  rfl

theorem readAt_refused_ends (download : Download σ) {f : CheckedFile} {buffer : Bytes}
    {offset : Nat} (h : f.reader.outOfRange buffer.length offset = true) (s : σ) :
    Ends buffer (f.reader.readAt download buffer.length offset s)
      (f.readAt download buffer offset s) := by
  rw [Reader.readAt_of_outOfRange download h, readAt, if_pos (refused_iff.mp h)]
  refine ⟨f, buffer, rfl, rfl, rfl, ?_⟩
  intro data hData
  cases hData

theorem readDirect_ends {f : CheckedFile} {buffer : Bytes} {offset : Nat}
    (hEnd : offset + buffer.length ≤ maxOffset) (hDirect : f.flags.directIo = true)
    (hPos : 0 < buffer.length) (hPassed : f.reader.outOfRange buffer.length offset = false)
    (s : σ) :
    Ends buffer (f.reader.readDirect download buffer.length offset s)
      (f.readAt download buffer offset s) := by
  have hAllowed := mt refused_iff.mpr (Bool.eq_false_iff.mp hPassed)
  unfold readAt Reader.readDirect
  simp only
  rw [if_neg hAllowed, if_pos ⟨hDirect, hPos⟩]
  generalize hFetch : f.reader.fetch download offset buffer.length s = fetched
  obtain ⟨answer, s'⟩ := fetched
  cases answer with
  | error e =>
    refine ⟨f, buffer, rfl, rfl, rfl, ?_⟩
    intro data hData
    cases hData
  | ok data =>
    have hCount := (of_fetch_ok hFetch).2
    simp only
    rw [copy_eq_ok (by omega) (Nat.le_refl _), ok_bind, add_eq_ok hEnd, ok_bind, List.take_zero,
      List.drop_length, List.append_nil, List.nil_append]
    refine ⟨_, data, rfl, rfl, hCount, ?_⟩
    intro bytes hBytes
    cases hBytes
    rfl

/-- An empty buffer is full before the loop, wherever the read starts. -/
theorem readAt_empty_ends (download : Download σ) (f : CheckedFile) (offset : Nat) (s : σ) :
    Ends [] (f.reader.readAt download 0 offset s) (f.readAt download [] offset s) := by
  obtain ⟨f', hLocate, hReader⟩ := f.locate_eq offset
  have hLoop : (Filling.mk f' [] 0 0).loop download s = .ok (.ok (), ⟨f', [], 0, 0⟩, s) :=
    Filling.loop_of_no_need rfl s
  have hChecked : f.readAt download [] offset s = .ok (.ok (), f', [], s) := by
    simp only [readAt, List.length_nil, Nat.lt_irrefl, false_and, and_false, if_false, hLocate,
      ok_bind, hLoop]
    rfl
  rw [hChecked, Reader.readAt_zero, ← hReader]
  refine ⟨f', [], rfl, rfl, rfl, ?_⟩
  intro data hData
  cases hData
  rfl

theorem readAt_inside_ends (hServes : download.Serves content holds)
    (hSize : content.length ≤ maxOffset) {f : CheckedFile} (hSound : f.reader.Sound content) {s : σ}
    (hs : holds s) {buffer : Bytes} {offset : Nat}
    (hInside : buffer.length = 0 ∨ offset + buffer.length ≤ content.length) :
    Ends buffer (f.reader.readAt download buffer.length offset s)
      (f.readAt download buffer offset s) := by
  have hPassed : f.reader.outOfRange buffer.length offset = false :=
    Reader.outOfRange_of_inside (by rwa [hSound.length_eq])
  have hAllowed := mt refused_iff.mpr (Bool.eq_false_iff.mp hPassed)
  rcases hInside with hNone | hInside
  · cases List.eq_nil_of_length_eq_zero hNone
    exact readAt_empty_ends download f offset s
  · by_cases hDirect : f.flags.directIo = true ∧ 0 < buffer.length
    · have hModel : f.reader.readAt download buffer.length offset s =
          f.reader.readDirect download buffer.length offset s := by
        rw [Reader.readAt, hPassed, if_neg Bool.false_ne_true, if_pos]
        rw [Bool.and_eq_true, decide_eq_true_eq]
        exact hDirect
      rw [hModel]
      exact readDirect_ends (by omega) hDirect.1 hDirect.2 hPassed s
    · have hModel : f.reader.readAt download buffer.length offset s =
          Reader.take download { f.reader with
            window := f.reader.window.locate offset, position := offset } buffer.length [] s := by
        rw [Reader.readAt, hPassed, if_neg Bool.false_ne_true, if_neg]
        rw [Bool.and_eq_true, decide_eq_true_eq]
        exact hDirect
      obtain ⟨f', hLocate, hReader⟩ := f.locate_eq offset
      have hPosition : f'.position = offset := congrArg Reader.position hReader
      have hReady : Filling.Ready content ⟨f', buffer, 0, buffer.length⟩ := by
        refine ⟨?_, ?_, Nat.zero_add _, ?_⟩
        · rw [hReader]
          exact ⟨hSound.length_eq, hSound.window.locate offset⟩
        · rw [hPosition]
          exact hInside
        · change buffer.length ≤ maxOffset
          omega
      obtain ⟨l, hLoop, hEnds⟩ := Filling.ends_of_ready hServes hSize _ _ [] s hs _ hReady hReader
        rfl List.take_zero
      rw [hModel, readAt]
      simp only
      rw [if_neg hAllowed, if_neg hDirect, hLocate, ok_bind, hLoop]
      exact ⟨l.file, l.buffer, rfl, hEnds⟩

/-- A read is never refused: its range is inside the blob or empty. -/
theorem read_ends (hServes : download.Serves content holds) (hSize : content.length ≤ maxOffset)
    {f : CheckedFile} (hSound : f.reader.Sound content) {s : σ} (hs : holds s) (buffer : Bytes) :
    let n := min buffer.length (f.length - f.position)
    let outcome := f.reader.read download buffer.length s
    ∃ f' buffer', f.read download buffer s = .ok (outcome.1.map fun _ => n, f', buffer',
        outcome.2.2) ∧
      f'.reader = outcome.2.1 ∧ buffer'.length = buffer.length ∧
      ∀ data, outcome.1 = .ok data → buffer'.take n = data := by
  intro n outcome
  have hLength : f.length = content.length := hSound.length_eq
  have hAll : n ≤ buffer.length := Nat.min_le_left _ _
  have hFront : (slice buffer 0 (n - 0)).length = n := length_slice (by omega)
  have hInside : (slice buffer 0 (n - 0)).length = 0 ∨
      f.position + (slice buffer 0 (n - 0)).length ≤ content.length := by omega
  obtain ⟨f', front, hRead, hReader, hCount, hBytes⟩ :=
    readAt_inside_ends hServes hSize hSound hs hInside
  rw [hFront] at hRead hReader hCount hBytes
  change readAt _ f _ _ s = .ok (outcome.1.map _, f', front, outcome.2.2) at hRead
  refine ⟨f', front ++ buffer.drop n, ?_, hReader, ?_, ?_⟩
  · rw [read, part_eq_ok (Nat.zero_le _) hAll, ok_bind, hRead, ok_bind]
    cases outcome.1 <;> rfl
  · rw [List.length_append, hCount, List.length_drop]
    omega
  · intro data hData
    rw [← hCount, List.take_left]
    exact hBytes data hData

theorem sound_readAt (hServes : download.Serves content holds) {r : Reader}
    (hSound : r.Sound content) {s : σ} (hs : holds s) {n offset : Nat}
    (hInside : n = 0 ∨ offset + n ≤ content.length) :
    (r.readAt download n offset s).2.1.Sound content ∧
      holds (r.readAt download n offset s).2.2 := by
  rcases Reader.readAt_inside_cases hServes hSound hs hInside with
    ⟨r', s', hRead, -, hSound', hs', -⟩ | ⟨d, e, s', -, -, hRead, hs'⟩
  · rw [hRead]
    exact ⟨hSound', hs'⟩
  · rw [hRead]
    exact ⟨Reader.interrupted_sound hSound n offset, hs'⟩

/-- One call: no check fails, the file is the reader's and its window stays sound. -/
theorem answer_eq (hServes : download.Serves content holds) (hSize : content.length ≤ maxOffset)
    {f : CheckedFile} (hSound : f.reader.Sound content) {s : σ} (hs : holds s) {call : Call}
    (hProper : call.Proper content.length) :
    ∃ f', f.answer download call s = .ok ((f.reader.answer download call.request s).1, f',
        (f.reader.answer download call.request s).2.2) ∧
      f'.reader = (f.reader.answer download call.request s).2.1 ∧ f'.reader.Sound content ∧
      holds (f.reader.answer download call.request s).2.2 := by
  cases call with
  | seek offset => exact ⟨f.seek offset, rfl, rfl, ⟨hSound.length_eq, hSound.window⟩, hs⟩
  | read buffer =>
    have hInside : min buffer.length (f.reader.length - f.reader.position) = 0 ∨
        f.reader.position + min buffer.length (f.reader.length - f.reader.position) ≤
          content.length := by
      have hLength := hSound.length_eq
      omega
    obtain ⟨f', buffer', hRead, hReader, -, hBytes⟩ := read_ends hServes hSize hSound hs buffer
    obtain ⟨hSound', hs'⟩ := sound_readAt hServes hSound hs hInside
    refine ⟨f', ?_, hReader, hReader ▸ hSound', hs'⟩
    simp only [answer, hRead, ok_bind, Call.request, Reader.answer]
    cases hOutcome : (f.reader.read download buffer.length s).1 with
    | error e => rfl
    | ok data =>
      change Except.ok (Except.ok (FileReply.some _), _) = _
      rw [hBytes data hOutcome]
      rfl
  | readAt buffer offset =>
    have hCall : Ends buffer (f.reader.readAt download buffer.length offset s)
          (f.readAt download buffer offset s) ∧
        (f.reader.readAt download buffer.length offset s).2.1.Sound content ∧
        holds (f.reader.readAt download buffer.length offset s).2.2 := by
      rcases or_assoc.mpr hProper with hInside | hRefused
      · exact ⟨readAt_inside_ends hServes hSize hSound hs hInside,
          sound_readAt hServes hSound hs hInside⟩
      · have hLength : f.length = content.length := hSound.length_eq
        have hOut : f.reader.outOfRange buffer.length offset = true := by
          rw [refused_iff, hLength]
          exact hRefused
        refine ⟨readAt_refused_ends download hOut s, ?_⟩
        rw [Reader.readAt_of_outOfRange download hOut]
        exact ⟨hSound, hs⟩
    obtain ⟨⟨f', buffer', hRead, hReader, -, hBytes⟩, hSound', hs'⟩ := hCall
    refine ⟨f', ?_, hReader, hReader ▸ hSound', hs'⟩
    simp only [answer, hRead, ok_bind, Call.request, Reader.answer]
    cases hOutcome : (f.reader.readAt download buffer.length offset s).1 with
    | error e => rfl
    | ok data =>
      rw [hBytes data hOutcome]
      rfl

theorem run_eq (hServes : download.Serves content holds) (hSize : content.length ≤ maxOffset)
    {calls : List Call} (hProper : ∀ call ∈ calls, call.Proper content.length) {f : CheckedFile}
    (hSound : f.reader.Sound content) {s : σ} (hs : holds s) :
    ∃ f' s', run download calls (f, s) = .ok (f', s') ∧
      Reader.run download (calls.map Call.request) (f.reader, s) = (f'.reader, s') ∧
      f'.reader.Sound content ∧ holds s' := by
  induction calls generalizing f s with
  | nil => exact ⟨f, s, rfl, rfl, hSound, hs⟩
  | cons call calls ih =>
    obtain ⟨f₁, hAnswer, hReader, hSound₁, hs₁⟩ :=
      answer_eq hServes hSize hSound hs (hProper call List.mem_cons_self)
    obtain ⟨f', s', hRun, hModel, hSound', hs'⟩ :=
      ih (fun later hMem => hProper later (List.mem_cons_of_mem call hMem)) hSound₁ hs₁
    refine ⟨f', s', ?_, ?_, hSound', hs'⟩
    · rw [run, hAnswer, ok_bind]
      exact hRun
    · rw [← hModel, hReader]
      rfl

theorem reader_ofProperties (path : String) (flags : OpenFlags) (options : ReadOptions)
    (p : BlobProperties) :
    (ofProperties path flags options p).reader = Reader.ofProperties path flags options p := by
  unfold ofProperties Reader.ofProperties reader
  cases flags.read with
  | false => rfl
  | true =>
    simp only [if_true, List.length_replicate]
    rfl

/-- The window is a part of the content, its bytes are the front of the storage, and what is ready
is the end of it. -/
structure Holds (content : Bytes) (f : CheckedFile) : Prop where
  start_le_stop : f.start ≤ f.stop
  stop_le_length : f.stop ≤ f.length
  size_le_storage : f.stop - f.start ≤ f.storage.length
  bytes_eq : f.storage.take (f.stop - f.start) = slice content f.start (f.stop - f.start)
  available_eq : f.available = 0 ∨ f.index + f.available = f.stop - f.start

theorem holds_of_sound {f : CheckedFile} (h : f.reader.Sound content) : f.Holds content where
  start_le_stop := h.window.start_le_stop
  stop_le_length := by
    have hLength : f.length = content.length := h.length_eq
    rw [hLength]
    exact h.window.stop_le_length
  size_le_storage := h.window.size_le_capacity
  bytes_eq := h.window.bytes_eq
  available_eq := h.window.available_eq

/-- After any calls, whatever became of their downloads, no check has failed, the window is sound,
and no check of the next call fails either; the file does what the reader does. No loop goes on for
ever, with whatever it starts. -/
theorem no_check_fails (hServes : download.Serves content holds)
    (hSize : content.length ≤ maxOffset) (path : String) (flags : OpenFlags)
    (options : ReadOptions) (lastModified : Option Time.Instant) {calls : List Call}
    (hProper : ∀ call ∈ calls, call.Proper content.length) {s₀ : σ} (hs : holds s₀) :
    let p : BlobProperties := ⟨content.length, lastModified⟩
    (∃ f s, run download calls (ofProperties path flags options p, s₀) = .ok (f, s) ∧
      Reader.run download (calls.map Call.request)
        (Reader.ofProperties path flags options p, s₀) = (f.reader, s) ∧
      f.length = content.length ∧ f.Holds content ∧
      ∀ call : Call, call.Proper content.length →
        ∃ f' s', f.answer download call s =
            .ok ((f.reader.answer download call.request s).1, f', s') ∧
          (f.reader.answer download call.request s).2 = (f'.reader, s') ∧ f'.Holds content) ∧
    ∀ (l l' : Filling) (s s' : σ), l.need ≠ 0 → l.pass download s = .ok (.inl l', s') →
      l'.left < l.left := by
  intro p
  refine ⟨?_, fun l l' s s' => Filling.left_lt_of_pass⟩
  have hOpened : (ofProperties path flags options p).reader.Sound content := by
    rw [reader_ofProperties]
    exact Reader.sound_ofProperties path flags options content lastModified
  obtain ⟨f, s, hRun, hModel, hSound, hNow⟩ := run_eq hServes hSize hProper hOpened hs
  rw [reader_ofProperties] at hModel
  refine ⟨f, s, hRun, hModel, hSound.length_eq, holds_of_sound hSound, ?_⟩
  intro call hCall
  obtain ⟨f', hAnswer, hReader, hSound', -⟩ := answer_eq hServes hSize hSound hNow hCall
  exact ⟨f', _, hAnswer, Prod.ext hReader.symm rfl, holds_of_sound hSound'⟩

/-- Reads through a window of two bytes: one by a refill, one that fails behind the window's last
byte, one that is refused, and one whose download falls short. -/
theorem no_check_fails_flaky :
    let content : Bytes := [10, 11, 12, 13, 14, 15]
    let calls : List Call :=
      [.read [0], .readAt [0, 0, 0] 1, .readAt [0, 0] 5, .seek 4, .read [0, 0]]
    (PlainFile.flaky content).Serves content (fun _ => True) ∧ content.length ≤ maxOffset ∧
      (∀ call ∈ calls, call.Proper content.length) ∧
      (∃ f s, run (PlainFile.flaky content) calls
          (ofProperties "az://c/k" { read := true } { bufferSize := 2 } ⟨6, none⟩, 0) =
            .ok (f, s) ∧
        f.length = 6 ∧ f.Holds content ∧
        ∃ f' s', f.answer (PlainFile.flaky content) (.readAt [0, 0, 0] 3) s =
            .ok ((f.reader.answer (PlainFile.flaky content) (.readAt 3 3) s).1, f', s') ∧
          f'.Holds content) := by
  intro content calls
  have hProper : ∀ call ∈ calls, call.Proper content.length := by
    simp [calls, content, Call.Proper, maxOffset]
  obtain ⟨⟨f, s, hRun, -, hLength, hHolds, hNext⟩, -⟩ :=
    no_check_fails (PlainFile.flaky_serves content) (by decide) "az://c/k" { read := true }
      { bufferSize := 2 } none hProper trivial
  obtain ⟨f', s', hAnswer, -, hHolds'⟩ :=
    hNext (.readAt [0, 0, 0] 3) (.inr (.inl (by decide)))
  exact ⟨PlainFile.flaky_serves content, by decide, hProper, f, s, hRun, hLength, hHolds, f', s',
    hAnswer, hHolds'⟩

end CheckedFile

end BlobFiles
