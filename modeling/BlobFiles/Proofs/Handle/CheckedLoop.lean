import BlobFiles.Proofs.Handle.CheckedFile

/-! # The loop of a checked read

A sound window, a range inside the blob and a buffer with room for it are all that the checks of the
loop ask for, and every pass keeps them. So the loop ends without a fault, and it does to the file
and to the caller's buffer what the reader's loop does.
-/
namespace BlobFiles

open Checked

theorem slice_take {buffer : Bytes} {start n size : Nat} (h : start + n ≤ size) :
    slice (buffer.take size) start n = slice buffer start n := by
  simp only [slice]
  rw [List.drop_take, List.take_take, Nat.min_eq_left (by omega)]

/-- A copy leaves a buffer as long as before, and what is in front of the copied bytes unchanged. -/
theorem copied (buffer : Bytes) {data : Bytes} {start stop : Nat} (h : start + data.length = stop)
    (hStop : stop ≤ buffer.length) :
    (buffer.take start ++ data ++ buffer.drop stop).length = buffer.length ∧
      (buffer.take start ++ data ++ buffer.drop stop).take stop = buffer.take start ++ data := by
  have hFront : (buffer.take start ++ data).length = stop := by
    rw [List.length_append, List.length_take]
    omega
  constructor
  · rw [List.length_append, hFront, List.length_drop]
    omega
  · rw [← hFront, List.take_left]

namespace CheckedFile

variable {σ : Type} {download : Download σ} {content : Bytes} {holds : σ → Prop}

/-! ## One pass -/

/-- A read on its way inside the blob, into a buffer that has room for all of it. -/
structure Filling.Ready (content : Bytes) (l : Filling) : Prop where
  sound : l.file.reader.Sound content
  inside : l.file.position + l.need ≤ content.length
  room : l.filled + l.need = l.buffer.length
  short : l.buffer.length ≤ maxOffset

theorem Filling.Ready.serve_eq (hSize : content.length ≤ maxOffset) {l : Filling}
    (h : l.Ready content) :
    let served := min l.file.available l.need
    ∃ l', l.serve = .ok l' ∧ l'.Ready content ∧ l'.file.reader = l.file.reader.serve served ∧
      l'.need = l.need - served ∧ l'.buffer.length = l.buffer.length ∧
      l'.buffer.take l'.filled =
        l.buffer.take l.filled ++ l.file.reader.window.next served := by
  intro served
  obtain ⟨hSound, hInside, hRoom, hShort⟩ := h
  obtain ⟨hStart, hStop, hCapacity, -, hAvailable⟩ := hSound.window
  change l.file.start ≤ l.file.stop at hStart
  change l.file.stop ≤ content.length at hStop
  change l.file.stop - l.file.start ≤ l.file.storage.length at hCapacity
  change l.file.available = 0 ∨ l.file.index + l.file.available = l.file.stop - l.file.start
    at hAvailable
  have hReady : served ≤ l.file.available := Nat.min_le_left _ _
  have hNeed : served ≤ l.need := Nat.min_le_right _ _
  by_cases hNone : served = 0
  · refine ⟨l, if_pos hNone, ⟨hSound, hInside, hRoom, hShort⟩, ?_, by omega, rfl, ?_⟩
    · rw [hNone]
      rfl
    · rw [hNone, Window.next, List.take_zero, List.append_nil]
  · have hUpTo : l.file.index + served ≤ l.file.stop - l.file.start := by omega
    have hBytes : slice l.file.storage l.file.index (l.file.index + served - l.file.index) =
        l.file.reader.window.next served := by
      rw [Nat.add_sub_cancel_left]
      exact (slice_take hUpTo).symm
    have hCount : (l.file.reader.window.next served).length = served := by
      rw [← hBytes, Nat.add_sub_cancel_left]
      exact length_slice (by omega)
    have hEnd : l.filled + (l.file.reader.window.next served).length = l.filled + served := by
      rw [hCount]
    obtain ⟨hLength, hFront⟩ := copied l.buffer hEnd (by omega)
    have hReached : decide (l.file.start + (l.file.index + served) ≤ l.file.stop) = true :=
      decide_eq_true (by omega)
    refine ⟨⟨{ l.file with
        index := l.file.index + served, available := l.file.available - served,
        position := l.file.position + served }, _, l.filled + served, l.need - served⟩, ?_,
      ⟨⟨hSound.length_eq, hSound.window.advance served⟩, ?_, ?_, ?_⟩, rfl, rfl, hLength, hFront⟩
    · unfold serve
      simp only
      rw [if_neg hNone, add_eq_ok (by omega), ok_bind, add_eq_ok (by omega), ok_bind, assert,
        if_pos hReached, ok_bind, part_eq_ok (by omega) (by omega), ok_bind, hBytes,
        add_eq_ok (by omega), ok_bind, copy_eq_ok (by rw [hCount]) (by omega), ok_bind,
        sub_eq_ok hNeed, ok_bind, sub_eq_ok hReady, ok_bind, add_eq_ok (by omega), ok_bind]
      rfl
    · change l.file.position + served + (l.need - served) ≤ content.length
      omega
    · rw [hLength]
      change l.filled + served + (l.need - served) = l.buffer.length
      omega
    · rw [hLength]
      exact hShort

theorem of_fetch_ok {r : Reader} {offset length : Nat} {s s' : σ} {data : Bytes}
    (h : r.fetch download offset length s = (.ok data, s')) :
    download offset length r.options.transfer s = (.ok data, s') ∧ data.length = length := by
  unfold Reader.fetch at h
  generalize download offset length r.options.transfer s = result at h ⊢
  obtain ⟨answer, service⟩ := result
  cases answer with
  | error e => cases h
  | ok bytes =>
    by_cases hLength : bytes.length = length
    · simp only [if_pos hLength] at h
      cases h
      exact ⟨rfl, hLength⟩
    · simp only [if_neg hLength] at h
      cases h

/-- How many bytes a refill at the position brings. -/
def room (f : CheckedFile) : Nat := min f.storage.length (f.length - f.position)

/-- The file with `data` as its window, from the position on. -/
def refilled (f : CheckedFile) (data : Bytes) : CheckedFile :=
  { f with
    storage := f.storage.take 0 ++ data ++ f.storage.drop f.room
    start := f.position, stop := f.position + f.room, index := 0, available := f.room }

theorem Filling.Ready.supply_failed {l : Filling} (h : l.Ready content) {s s' : σ} {e : FsError}
    (hFetch : l.file.reader.fetch download l.file.position
      (if l.file.room < l.need then l.need else l.file.room) s = (.error e, s')) :
    l.supply download s = .ok (.inr (.error e, l), s') := by
  have hLength : l.file.length = content.length := h.sound.length_eq
  have hInside := h.inside
  unfold supply
  simp only
  rw [sub_eq_ok (by omega), ok_bind]
  change (if l.file.room < l.need then _ else _) = _
  by_cases hPast : l.file.room < l.need
  · rw [if_pos hPast] at hFetch ⊢
    rw [hFetch]
    rfl
  · rw [if_neg hPast] at hFetch ⊢
    unfold CheckedFile.room at hFetch
    rw [hFetch]
    rfl

/-- What is needed and does not fit fills the caller's buffer to its end. -/
theorem Filling.Ready.supply_past (hSize : content.length ≤ maxOffset) {l : Filling}
    (h : l.Ready content) (hPast : l.file.room < l.need) {s s' : σ} {data : Bytes}
    (hFetch : l.file.reader.fetch download l.file.position l.need s = (.ok data, s')) :
    ∃ l', l.supply download s = .ok (.inr (.ok (), l'), s') ∧
      l'.file.reader = l.file.reader.passBy (l.file.position + l.need) ∧
      l'.buffer = l.buffer.take l.filled ++ data := by
  have hLength : l.file.length = content.length := h.sound.length_eq
  obtain ⟨-, hInside, hRoom, -⟩ := h
  have hCount := (of_fetch_ok hFetch).2
  refine ⟨⟨{ l.file with index := 0, available := 0, position := l.file.position + l.need },
    l.buffer.take l.filled ++ data, l.filled, l.need⟩, ?_, rfl, rfl⟩
  unfold supply
  simp only
  rw [sub_eq_ok (by omega), ok_bind]
  change (if l.file.room < l.need then _ else _) = _
  rw [if_pos hPast, hFetch]
  simp only
  rw [copy_eq_ok (by omega) (Nat.le_refl _), ok_bind, add_eq_ok (by omega), ok_bind,
    List.drop_length, List.append_nil]
  rfl

/-- What is needed and fits is ready after a refill. -/
theorem Filling.Ready.supply_refill (hServes : download.Serves content holds)
    (hSize : content.length ≤ maxOffset) {l : Filling} (h : l.Ready content)
    (hFits : l.need ≤ l.file.room) {s s' : σ} (hs : holds s) {data : Bytes}
    (hFetch : l.file.reader.fetch download l.file.position l.file.room s = (.ok data, s')) :
    ∃ l', l.supply download s = .ok (.inl l', s') ∧ l'.Ready content ∧
      l'.file.reader = { l.file.reader with
        window := l.file.reader.window.fill l.file.position l.file.room data } ∧
      l'.need = l.need ∧ l'.buffer = l.buffer ∧ l'.filled = l.filled := by
  have hLength : l.file.length = content.length := h.sound.length_eq
  obtain ⟨hSound, hInside, hRoom, hShort⟩ := h
  obtain ⟨hAnswer, hCount⟩ := of_fetch_ok hFetch
  have hStorage : l.file.room ≤ l.file.storage.length := Nat.min_le_left _ _
  have hRest : l.file.room ≤ l.file.length - l.file.position := Nat.min_le_right _ _
  have hEnd : l.file.position + l.file.room ≤ content.length := by omega
  have hData : data = slice content l.file.position l.file.room :=
    hServes.exact _ _ _ s data hs hEnd (congrArg Prod.fst hAnswer) hCount
  have hWhole : 0 + data.length = l.file.room := (Nat.zero_add _).trans hCount
  obtain ⟨hSame, hFront⟩ := copied l.file.storage hWhole hStorage
  have hReader : (l.file.refilled data).reader = { l.file.reader with
      window := l.file.reader.window.fill l.file.position l.file.room data } := by
    unfold refilled
    simp only [reader, Window.fill, Nat.add_sub_cancel_left]
    rw [hSame, hFront, List.take_zero, List.nil_append]
  refine ⟨⟨l.file.refilled data, l.buffer, l.filled, l.need⟩, ?_, ⟨?_, hInside, hRoom, hShort⟩,
    hReader, rfl, rfl, rfl⟩
  · unfold supply
    simp only
    rw [sub_eq_ok (by omega), ok_bind]
    change (if l.file.room < l.need then _ else _) = _
    rw [if_neg (by omega)]
    unfold CheckedFile.room at hFetch
    rw [hFetch]
    simp only
    change (copy l.file.storage 0 l.file.room data >>= _) = _
    rw [copy_eq_ok (by omega) hStorage, ok_bind]
    change (add l.file.position l.file.room >>= _) = _
    rw [add_eq_ok (by omega), ok_bind]
    rfl
  · change (l.file.refilled data).reader.Sound content
    rw [hReader, hData]
    exact ⟨hSound.length_eq, .fill hEnd hStorage⟩

/-! ## The whole loop -/

theorem Filling.loop_of_no_need {l : Filling} (h : l.need = 0) (s : σ) :
    l.loop download s = .ok (.ok (), l, s) := by
  rw [loop, dif_pos h]

theorem Filling.loop_of_again {l l' : Filling} {s s' : σ} (hNeed : l.need ≠ 0)
    (h : l.pass download s = .ok (.inl l', s')) : l.loop download s = l'.loop download s' := by
  rw [loop, dif_neg hNeed]
  split
  · rename_i hPass
    cases hPass.symm.trans h
  · rename_i hPass
    cases hPass.symm.trans h
    rfl
  · rename_i hPass
    cases hPass.symm.trans h

theorem Filling.loop_of_over {l l' : Filling} {s s' : σ} {answer : Except FsError Unit}
    (hNeed : l.need ≠ 0) (h : l.pass download s = .ok (.inr (answer, l'), s')) :
    l.loop download s = .ok (answer, l', s') := by
  rw [loop, dif_neg hNeed]
  split
  · rename_i hPass
    cases hPass.symm.trans h
  · rename_i hPass
    cases hPass.symm.trans h
  · rename_i hPass
    cases hPass.symm.trans h
    rfl

theorem Filling.loop_of_served {l l' : Filling} (h : l.serve = .ok l') (hAll : l'.need = 0)
    (s : σ) : l.loop download s = .ok (.ok (), l', s) := by
  by_cases hNeed : l.need = 0
  · have hNone : min l.file.available l.need = 0 := by omega
    unfold serve at h
    rw [if_pos hNone] at h
    cases h
    exact loop_of_no_need hNeed s
  · have hPass : l.pass download s = .ok (.inl l', s) := by
      rw [pass, h, ok_bind, if_neg (by omega)]
      rfl
    exact (loop_of_again hNeed hPass).trans (loop_of_no_need hAll s)

/-- What the window had ready was not enough, and now it has nothing. -/
theorem Filling.pass_of_short (download : Download σ) {l l' : Filling} (h : l.serve = .ok l')
    (hShort : l'.need ≠ 0) :
    l.need ≠ 0 ∧ ∀ s, l.pass download s = l'.supply download s := by
  obtain ⟨hRest, hLeft⟩ := of_serve h
  refine ⟨by omega, ?_⟩
  intro s
  rw [pass, h, ok_bind, if_pos (by omega)]

/-- The loop ends without a fault: with this outcome, the reader as it is then, and in the caller's
buffer the bytes, when they have come. -/
def Filling.Ends (download : Download σ) (l : Filling) (s : σ)
    (outcome : Except FsError Bytes × Reader × σ) : Prop :=
  ∃ l', l.loop download s = .ok (outcome.1.map fun _ => (), l', outcome.2.2) ∧
    l'.file.reader = outcome.2.1 ∧ l'.buffer.length = l.buffer.length ∧
    ∀ data, outcome.1 = .ok data → l'.buffer = data

variable {l : Filling} {served rest room : Nat} {next : Reader} {s s' : σ}

theorem Filling.ends_of_served (hSize : content.length ≤ maxOffset) (h : l.Ready content)
    (hServed : min l.file.available l.need = served) (hNext : l.file.reader.serve served = next)
    (hAll : l.need - served = 0) :
    l.Ends download s
      (.ok (l.buffer.take l.filled ++ l.file.reader.window.next served), next, s) := by
  subst hServed
  obtain ⟨l', hServe, hReady, hReader, hNeed, hLength, hOut⟩ := h.serve_eq hSize
  have hNone : l'.need = 0 := hNeed.trans hAll
  refine ⟨l', loop_of_served hServe hNone s, hReader.trans hNext, hLength, ?_⟩
  intro data hData
  cases hData
  have hFilled : l'.filled = l'.buffer.length := by
    have hRoom := hReady.room
    omega
  rw [← hOut, hFilled, List.take_length]

/-- The window has only `served` bytes ready. Then `rest` are still needed of the reader `next`,
whose window takes `room` at a refill. -/
structure Filling.Short (l : Filling) (served rest room : Nat) (next : Reader) : Prop where
  served_eq : min l.file.available l.need = served
  next_eq : l.file.reader.serve served = next
  rest_eq : l.need - served = rest
  room_eq : min next.window.capacity (next.length - next.position) = room
  rest_ne : rest ≠ 0

/-- A pass that falls short is a download for what is left then. -/
theorem Filling.Short.pass_eq (hShort : l.Short served rest room next) (download : Download σ)
    (hSize : content.length ≤ maxOffset) (h : l.Ready content) :
    ∃ l' : Filling, l'.Ready content ∧ l'.file.reader = next ∧ l'.need = rest ∧
      l'.file.room = room ∧ l'.buffer.length = l.buffer.length ∧
      l'.buffer.take l'.filled =
        l.buffer.take l.filled ++ l.file.reader.window.next served ∧
      l.need ≠ 0 ∧ ∀ s, l.pass download s = l'.supply download s := by
  obtain ⟨rfl, hNext, hRest, hRoom, hSome⟩ := hShort
  obtain ⟨l', hServe, hReady, hReader, hNeed, hLength, hOut⟩ := h.serve_eq hSize
  obtain rfl : l'.file.reader = next := hReader.trans hNext
  obtain rfl : l'.need = rest := hNeed.trans hRest
  exact ⟨l', hReady, rfl, rfl, hRoom, hLength, hOut, pass_of_short download hServe hSome⟩

theorem Filling.Short.ends_of_failed (hShort : l.Short served rest room next)
    (hSize : content.length ≤ maxOffset) (h : l.Ready content) {e : FsError}
    (hFetch : next.fetch download next.position (if room < rest then rest else room) s =
      (.error e, s')) :
    l.Ends download s (.error e, next, s') := by
  obtain ⟨l', hReady, rfl, rfl, rfl, hLength, -, hNeed, hPass⟩ := hShort.pass_eq download hSize h
  refine ⟨l', loop_of_over hNeed ((hPass s).trans (hReady.supply_failed hFetch)), rfl, hLength, ?_⟩
  intro data hData
  cases hData

theorem Filling.Short.ends_of_past (hShort : l.Short served rest room next)
    (hSize : content.length ≤ maxOffset) (h : l.Ready content) (hPast : room < rest) {data : Bytes}
    (hFetch : next.fetch download next.position rest s = (.ok data, s')) :
    l.Ends download s
      (.ok (l.buffer.take l.filled ++ l.file.reader.window.next served ++ data),
        next.passBy (next.position + rest), s') := by
  obtain ⟨l', hReady, rfl, rfl, rfl, hLength, hOut, hNeed, hPass⟩ :=
    hShort.pass_eq download hSize h
  obtain ⟨l'', hSupply, hPassed, hBuffer⟩ := hReady.supply_past hSize hPast hFetch
  refine ⟨l'', loop_of_over hNeed ((hPass s).trans hSupply), hPassed, ?_, ?_⟩
  · have hCount := (of_fetch_ok hFetch).2
    have hFilled := hReady.room
    rw [hBuffer, List.length_append, List.length_take, hCount]
    omega
  · intro bytes hBytes
    cases hBytes
    rw [hBuffer, hOut]

/-- A refill makes the loop go on, with the window that the reader has then. -/
theorem Filling.Short.ends_of_refill (hShort : l.Short served rest room next)
    (hServes : download.Serves content holds) (hSize : content.length ≤ maxOffset)
    (h : l.Ready content) (hFits : rest ≤ room) (hs : holds s) {data : Bytes}
    (hFetch : next.fetch download next.position room s = (.ok data, s'))
    {outcome : Except FsError Bytes × Reader × σ}
    (hLater : holds s' → ∀ l' : Filling, l'.Ready content →
      l'.file.reader = { next with window := next.window.fill next.position room data } →
      l'.need = rest →
      l'.buffer.take l'.filled = l.buffer.take l.filled ++ l.file.reader.window.next served →
      l'.Ends download s' outcome) :
    l.Ends download s outcome := by
  obtain ⟨l', hReady, rfl, rfl, rfl, hLength, hOut, hNeed, hPass⟩ :=
    hShort.pass_eq download hSize h
  obtain ⟨l'', hSupply, hReady', hFilled, hSame, hBuffer, hAt⟩ :=
    hReady.supply_refill hServes hSize hFits hs hFetch
  have hKept := hServes.keeps l'.file.reader.position l'.file.room
    l'.file.reader.options.transfer s hs
  rw [(of_fetch_ok hFetch).1] at hKept
  obtain ⟨l₃, hLoop, hEnd, hLength', hBytes⟩ :=
    hLater hKept l'' hReady' hFilled hSame (by rw [hBuffer, hAt, hOut])
  refine ⟨l₃, (loop_of_again hNeed ((hPass s).trans hSupply)).trans hLoop, hEnd, ?_, hBytes⟩
  rw [hLength', hBuffer, hLength]

/-- The induction is on the reader's loop, which takes in one step the bytes that the window has
ready and the download after them. -/
theorem Filling.ends_of_ready (hServes : download.Serves content holds)
    (hSize : content.length ≤ maxOffset) (r : Reader) (need : Nat) (out : Bytes) (s : σ) :
    holds s → ∀ l : Filling, l.Ready content → l.file.reader = r → l.need = need →
      l.buffer.take l.filled = out → l.Ends download s (Reader.take download r need out s) := by
  fun_induction Reader.take download r need out s with
  | case1 r need out s served out' next rest hRest =>
    rintro - l h rfl rfl rfl
    exact ends_of_served hSize h rfl rfl hRest
  | case2 r need out s served next rest hRest room hPast e s' hFetch =>
    rintro - l h rfl rfl rfl
    have hAsked : next.fetch download next.position (if room < rest then rest else room) s =
        (.error e, s') := by rwa [if_pos hPast]
    have hShort : l.Short served rest room next := ⟨rfl, rfl, rfl, rfl, hRest⟩
    exact hShort.ends_of_failed hSize h hAsked
  | case3 r need out s served out' next rest hRest room hPast data s' hFetch =>
    rintro - l h rfl rfl rfl
    have hShort : l.Short served rest room next := ⟨rfl, rfl, rfl, rfl, hRest⟩
    exact hShort.ends_of_past hSize h hPast hFetch
  | case4 r need out s served next rest hRest room hFits e s' hFetch =>
    rintro - l h rfl rfl rfl
    have hAsked : next.fetch download next.position (if room < rest then rest else room) s =
        (.error e, s') := by rwa [if_neg hFits]
    have hShort : l.Short served rest room next := ⟨rfl, rfl, rfl, rfl, hRest⟩
    exact hShort.ends_of_failed hSize h hAsked
  | case5 r need out s served out' next rest hRest room hFits data s' hFetch ih =>
    rintro hs l h rfl rfl rfl
    have hShort : l.Short served rest room next := ⟨rfl, rfl, rfl, rfl, hRest⟩
    exact hShort.ends_of_refill hServes hSize h (Nat.not_lt.mp hFits) hs hFetch ih

end CheckedFile

end BlobFiles
