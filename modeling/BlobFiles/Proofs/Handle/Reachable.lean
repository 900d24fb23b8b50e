import BlobFiles.Proofs.Handle.DownloadLog
import BlobFiles.Proofs.Handle.Soundness

/-! # What every request keeps

All requests to an open file are made of reads at an offset and of seeks, so a property of the
reader and the service that these keep is kept by every request and by every run of requests. Two
such properties are here: what file is open, and soundness. `readAt_cases` says how a read of a
sound reader can end.
-/
namespace BlobFiles.Reader

section Keeps

variable {σ : Type} {download : Download σ} {P : Reader → σ → Prop}
  (hRead : ∀ r n offset s, P r s →
    P (r.readAt download n offset s).2.1 (r.readAt download n offset s).2.2)

include hRead

theorem readExactly_keeps (r : Reader) (need : Nat) (out : Bytes) (s : σ) (h : P r s) :
    P (readExactly download r need out s).2.1 (readExactly download r need out s).2.2 := by
  induction need using Nat.strongRecOn generalizing r out s with
  | ind need ih =>
    have hOnce : P (r.readSome download need s).2.1 (r.readSome download need s).2.2 :=
      hRead r (min need (r.length - r.position)) r.position s h
    rw [readExactly]
    by_cases hNeed : need = 0
    · rw [if_pos hNeed]
      exact h
    · rw [if_neg hNeed]
      generalize r.readSome download need s = once at hOnce ⊢
      obtain ⟨result, r', s'⟩ := once
      match result with
      | .error e => exact hOnce
      | .ok [] => exact hOnce
      | .ok (b :: data) => exact ih (need - (data.length + 1)) (by omega) r' _ s' hOnce

theorem readSome_keeps (n : Nat) {r r' : Reader} {s s' : σ} {result : Except IoError Bytes}
    (h : P r s) (hOnce : r.readSome download n s = (result, r', s')) : P r' s' := by
  have hKept : P (r.readSome download n s).2.1 (r.readSome download n s).2.2 :=
    hRead r (min n (r.length - r.position)) r.position s h
  rwa [hOnce] at hKept

theorem drain_keeps (n : Nat) (r : Reader) (out : Bytes) (s : σ) (h : P r s) :
    P (drain download n r out s).2.1 (drain download n r out s).2.2 := by
  fun_induction drain download n r out s with
  | case1 r out s e r' s' hOnce => exact readSome_keeps hRead n h hOnce
  | case2 r out s r' s' hOnce => exact readSome_keeps hRead n h hOnce
  | case3 r out s b data r' s' hOnce ih => exact ih (readSome_keeps hRead n h hOnce)

variable (hSeek : ∀ r offset s, P r s → P (r.seek offset) s)

include hSeek

theorem answer_keeps (request : FileRequest) (r : Reader) (s : σ) (h : P r s) :
    P (r.answer download request s).2.1 (r.answer download request s).2.2 := by
  cases request with
  | read n => exact hRead r _ _ s h
  | readAt n offset => exact hRead r n offset s h
  | seek offset => exact hSeek r offset s h
  | write | sync | describe | streamLength => exact h
  | streamRead n => exact hRead r _ _ s h
  | streamReadExact n => exact readExactly_keeps hRead r n [] s h
  | streamReadExactAt n offset => exact hRead r n offset s h
  | streamReadToEnd n => exact drain_keeps hRead n r [] s h
  | streamSeek target =>
    change P (r.seekTo target).2 s
    unfold seekTo
    split
    · exact hSeek r _ s h
    · exact h

theorem run_keeps (requests : List FileRequest) (r : Reader) (s : σ) (h : P r s) :
    P (run download requests (r, s)).1 (run download requests (r, s)).2 := by
  induction requests generalizing r s with
  | nil => exact h
  | cons request requests ih => exact ih _ _ (answer_keeps hRead hSeek request r s h)

end Keeps

variable {σ : Type}

/-- What does not change while a file is open: its path, flags, options, length and modification
time, and the size of the window's storage. -/
def file (r : Reader) : String × OpenFlags × ReadOptions × Nat × Option Time.Instant × Nat :=
  (r.path, r.flags, r.options, r.length, r.lastModified, r.window.capacity)

theorem flags_of_file {r r' : Reader} (h : r'.file = r.file) : r'.flags = r.flags :=
  congrArg (fun file => file.2.1) h

theorem options_of_file {r r' : Reader} (h : r'.file = r.file) : r'.options = r.options :=
  congrArg (fun file => file.2.2.1) h

theorem length_of_file {r r' : Reader} (h : r'.file = r.file) : r'.length = r.length :=
  congrArg (fun file => file.2.2.2.1) h

theorem capacity_of_file {r r' : Reader} (h : r'.file = r.file) :
    r'.window.capacity = r.window.capacity :=
  congrArg (fun file => file.2.2.2.2.2) h

theorem file_supplied (r : Reader) (n offset : Nat) : (r.supplied n offset).file = r.file := by
  simp only [file, supplied, serve, locate, Window.advance, Window.capacity_locate]

theorem file_interrupted (r : Reader) (n offset : Nat) :
    (r.interrupted n offset).file = r.file := by
  unfold interrupted
  split
  · rfl
  · exact file_supplied r n offset

theorem file_finished (r : Reader) (n offset : Nat) (data : Bytes) :
    (r.finished n offset data).file = r.file := by
  unfold finished
  split
  · exact file_supplied r n offset
  · rfl
  · exact file_supplied r n offset
  · exact file_supplied r n offset

theorem file_readAt (download : Download σ) (r : Reader) (n offset : Nat) (s : σ) :
    (r.readAt download n offset s).2.1.file = r.file := by
  cases hRange : r.outOfRange n offset with
  | true => rw [readAt_of_outOfRange download hRange]
  | false =>
    rw [readAt_eq_carryOut download hRange, carryOut]
    split
    · exact file_finished r n offset []
    · rename_i start length _
      obtain ⟨answer, s'⟩ := r.fetch download start length s
      cases answer with
      | error e => exact file_interrupted r n offset
      | ok data => exact file_finished r n offset data

theorem file_run (download : Download σ) (requests : List FileRequest) (r : Reader) (s : σ) :
    (run download requests (r, s)).1.file = r.file := by
  refine run_keeps (P := fun r' _ => r'.file = r.file) ?_ ?_ requests r s rfl
  · intro r' n offset s' h
    rw [file_readAt, h]
  · intro r' offset s' h
    exact h

/-- A read inside the content gives it, unless its download is of no use; then the window's share
has been handed out and is lost. -/
theorem readAt_inside_cases {download : Download σ} {content : Bytes} {holds : σ → Prop}
    (hServes : download.Serves content holds) {r : Reader} (hSound : r.Sound content) {s : σ}
    (hs : holds s) {n offset : Nat} (hRange : n = 0 ∨ offset + n ≤ content.length) :
    (∃ r' s', r.readAt download n offset s = (.ok (slice content offset n), r', s') ∧
      r'.position = offset + n ∧ r'.Sound content ∧ holds s' ∧
      ∀ d ∈ r.downloads download (.readAt n offset) s, d.failure? = none) ∨
    ∃ d e s', r.downloads download (.readAt n offset) s = [d] ∧ d.failure? = some e ∧
      r.readAt download n offset s =
        (.error (.ofStorage "read" r.path e), r.interrupted n offset, s') ∧
      holds s' := by
  rw [← hSound.length_eq] at hRange
  have hPassed := outOfRange_of_inside hRange
  have hs' : holds (r.serviceAfter download n offset s) := by
    unfold serviceAfter
    split
    · exact hs
    · exact hServes.keeps _ _ _ s hs
  rw [readAt_eq_carryOut download hPassed, downloads_readAt download hPassed]
  rcases carryOut_cases download r n offset s with
    ⟨data, hOk, hLog, hData⟩ | ⟨d, e, hLog, hFailure, hError⟩
  · have hSlice : ∀ start length, (r.plan n offset).range? = some (start, length) →
        data = slice content start length := by
      intro start length hPlan
      obtain ⟨hAnswer, hCount⟩ := hData start length hPlan
      have hInside := (range_of_plan hRange hPlan).2.2
      rw [hSound.length_eq] at hInside
      exact hServes.exact start length _ s data hs hInside hAnswer hCount
    obtain ⟨hDelivered, hPosition, hSound'⟩ := finished_sound hSound hRange hSlice
    rw [hDelivered] at hOk
    exact .inl ⟨_, _, hOk, hPosition, hSound', hs', hLog⟩
  · exact .inr ⟨d, e, _, hLog, hFailure, hError, hs'⟩

/-- Below the largest length, a read outside the content is refused and changes nothing. -/
theorem readAt_cases {download : Download σ} {content : Bytes} {holds : σ → Prop}
    (hServes : download.Serves content holds) (hSize : content.length < maxOffset) {r : Reader}
    (hSound : r.Sound content) {s : σ} (hs : holds s) (n offset : Nat) :
    (0 < n ∧ content.length < offset + n ∧
      r.readAt download n offset s = (.error (.outOfRange r.path offset n r.length), r, s) ∧
      r.downloads download (.readAt n offset) s = []) ∨
    ((n = 0 ∨ offset + n ≤ content.length) ∧
      ∃ r' s', r.readAt download n offset s = (.ok (slice content offset n), r', s') ∧
        r'.position = offset + n ∧ r'.Sound content ∧ holds s' ∧
        ∀ d ∈ r.downloads download (.readAt n offset) s, d.failure? = none) ∨
    ((n = 0 ∨ offset + n ≤ content.length) ∧
      ∃ d e s', r.downloads download (.readAt n offset) s = [d] ∧ d.failure? = some e ∧
        r.readAt download n offset s =
          (.error (.ofStorage "read" r.path e), r.interrupted n offset, s') ∧
        holds s') := by
  have hLength := hSound.length_eq
  by_cases hRange : n = 0 ∨ offset + n ≤ content.length
  · rcases readAt_inside_cases hServes hSound hs hRange with hServed | hFailed
    · exact .inr (.inl ⟨hRange, hServed⟩)
    · exact .inr (.inr ⟨hRange, hFailed⟩)
  · have hOut : r.outOfRange n offset = true := by
      rw [← Bool.not_eq_false, outOfRange_eq_false_iff (by omega), hLength]
      exact hRange
    exact .inl ⟨by omega, by omega, readAt_of_outOfRange download hOut s,
      downloads_readAt_of_outOfRange download hOut s⟩

theorem sound_run {download : Download σ} {content : Bytes} {holds : σ → Prop}
    (hServes : download.Serves content holds) (hSize : content.length < maxOffset)
    (requests : List FileRequest) {r : Reader} (hSound : r.Sound content) {s : σ} (hs : holds s) :
    (run download requests (r, s)).1.Sound content ∧ holds (run download requests (r, s)).2 := by
  refine run_keeps (P := fun r s => r.Sound content ∧ holds s) ?_ ?_ requests r s ⟨hSound, hs⟩
  · rintro r n offset s ⟨hSound, hs⟩
    rcases readAt_cases hServes hSize hSound hs n offset with
      ⟨-, -, hRead, -⟩ | ⟨-, r', s', hRead, -, hSound', hs', -⟩ | ⟨-, d, e, s', -, -, hRead, hs'⟩
    · rw [hRead]
      exact ⟨hSound, hs⟩
    · rw [hRead]
      exact ⟨hSound', hs'⟩
    · rw [hRead]
      exact ⟨interrupted_sound hSound n offset, hs'⟩
  · rintro r offset s ⟨hSound, hs⟩
    exact ⟨⟨hSound.length_eq, hSound.window⟩, hs⟩

theorem sound_ofProperties (path : String) (flags : OpenFlags) (options : ReadOptions)
    (content : Bytes) (lastModified : Option Time.Instant) :
    (ofProperties path flags options ⟨content.length, lastModified⟩).Sound content :=
  ⟨rfl, .empty content _⟩

end BlobFiles.Reader
