import BlobFiles.Proofs.Handle.Delivery

/-! # A stream is a cursor

A cursor is some content in memory and a position in it: it has no window, makes no downloads and
does not loop. Over downloads that deliver the content, any requests to a blocking stream give the
replies and the positions that the cursor gives. The bound on the offsets is the one thing that a
cursor knows besides: it refuses to be moved where 64 bits do not reach.
-/
namespace BlobFiles

inductive StreamRequest where
  | read (n : Nat)
  | readExact (n : Nat)
  | readToEnd (n : Nat)
  | seek (target : SeekTarget)
  deriving DecidableEq, Repr

namespace StreamRequest

def toFile : StreamRequest → FileRequest
  | read n => .streamRead n
  | readExact n => .streamReadExact n
  | readToEnd n => .streamReadToEnd n
  | seek target => .streamSeek target

/-- Buffers have room for a byte, and offsets are of 64 bits. -/
def Proper : StreamRequest → Prop
  | readToEnd n => 0 < n
  | seek (.start offset) => offset ≤ maxOffset
  | _ => True

end StreamRequest

namespace Cursor

def target (content : Bytes) (position : Nat) : SeekTarget → Int
  | .start offset => offset
  | .fromEnd delta => content.length + delta
  | .fromCurrent delta => position + delta

/-- What the cursor answers, and where it stands then. -/
def answer (path : String) (content : Bytes) (position : Nat) :
    StreamRequest → Except FileFailure FileReply × Nat
  | .read n =>
    let data := slice content position n
    (.ok (.some data), position + data.length)
  | .readExact n =>
    if n ≤ content.length - position then
      (.ok (.exactly (slice content position n)), position + n)
    else
      (.error (.io ⟨.unexpectedEof, "failed to fill whole buffer"⟩), max position content.length)
  | .readToEnd _ => (.ok (.some (content.drop position)), max position content.length)
  | .seek goal =>
    let offset := target content position goal
    if 0 ≤ offset ∧ offset ≤ maxOffset then (.ok (.number offset.toNat), offset.toNat)
    else
      (.error (.io ⟨.invalidInput, s!"invalid seek before the start of {path}"⟩), position)

/-- The answers to requests one after another, each with the position behind it. -/
def trace (path : String) (content : Bytes) :
    List StreamRequest → Nat → List (Except FileFailure FileReply × Nat)
  | [], _ => []
  | request :: requests, position =>
    let answered := answer path content position request
    answered :: trace path content requests answered.2

end Cursor

namespace Reader

variable {σ : Type} {download : Download σ} {content : Bytes} {holds : σ → Prop}

def streamTrace (download : Download σ) :
    List StreamRequest → Reader → σ → List (Except FileFailure FileReply × Nat)
  | [], _, _ => []
  | request :: requests, r, s =>
    let (result, r, s) := r.answer download request.toFile s
    (result, r.position) :: streamTrace download requests r s

/-- The reader and the service are ready for the next request at `position`. -/
structure Ready (content : Bytes) (holds : σ → Prop) (path : String) (position : Nat) (r : Reader)
    (s : σ) : Prop where
  sound : r.Sound content
  path_eq : r.path = path
  position_eq : r.position = position
  service : holds s

theorem Ready.seek {path : String} {position : Nat} {r : Reader} {s : σ}
    (h : r.Ready content holds path position s) (offset : Nat) :
    (r.seek offset).Ready content holds path offset s :=
  ⟨⟨h.sound.length_eq, h.sound.window⟩, h.path_eq, rfl, h.service⟩

theorem readSome_ready (hDelivers : download.Delivers content holds) {path : String}
    {position : Nat} {r : Reader} {s : σ} (h : r.Ready content holds path position s) (n : Nat) :
    ∃ r' s', r.readSome download n s = (.ok (slice content position n), r', s') ∧
      r'.Ready content holds path (position + (slice content position n).length) s' := by
  obtain ⟨r', s', hRead, hPosition, hSound, hPath, hs'⟩ :=
    read_delivered hDelivers h.sound h.service n
  rw [h.position_eq] at hRead hPosition
  refine ⟨r', s', ?_, hSound, hPath.trans h.path_eq, hPosition, hs'⟩
  rw [readSome, hRead]
  rfl

theorem readExactly_ready (hDelivers : download.Delivers content holds) {path : String}
    {position : Nat} {r : Reader} {s : σ} (h : r.Ready content holds path position s) (need : Nat)
    (out : Bytes) :
    (need ≤ content.length - position ∧ ∃ r' s',
      readExactly download r need out s = (.ok (out ++ slice content position need), r', s') ∧
        r'.Ready content holds path (position + need) s') ∨
    (content.length - position < need ∧ ∃ r' s',
      readExactly download r need out s = (.error endOfStream, r', s') ∧
        r'.Ready content holds path (max position content.length) s') := by
  induction need using Nat.strongRecOn generalizing position r out s with
  | ind need ih =>
    rw [readExactly]
    by_cases hNeed : need = 0
    · subst hNeed
      rw [if_pos rfl, slice_zero, List.append_nil]
      exact .inl ⟨Nat.zero_le _, r, s, rfl, h⟩
    · rw [if_neg hNeed]
      obtain ⟨r', s', hRead, hReady⟩ := readSome_ready hDelivers h need
      have hCount := length_slice_eq_min content position need
      rw [hRead]
      cases hData : slice content position need with
      | nil =>
        rw [hData, List.length_nil] at hReady hCount
        have hMax : max position content.length = position := by omega
        rw [hMax]
        exact .inr ⟨by omega, r', s', rfl, hReady⟩
      | cons b data =>
        rw [hData] at hReady hCount
        simp only [List.length_cons] at hReady hCount ⊢
        rcases ih (need - (data.length + 1)) (by omega) hReady (out ++ b :: data) with
          ⟨hLeft, r'', s'', hRest, hReady'⟩ | ⟨hShort, r'', s'', hRest, hReady'⟩
        · have hAll : need = data.length + 1 := by omega
          have hNothing : slice content (position + (data.length + 1))
              (need - (data.length + 1)) = [] := by
            rw [hAll, Nat.sub_self, slice_zero]
          rw [hNothing, List.append_nil] at hRest
          have hEnd : position + (data.length + 1) + (need - (data.length + 1)) =
              position + need := by omega
          rw [hEnd] at hReady'
          exact .inl ⟨by omega, r'', s'', hRest, hReady'⟩
        · have hMax : max (position + (data.length + 1)) content.length =
              max position content.length := by omega
          rw [hMax] at hReady'
          exact .inr ⟨by omega, r'', s'', hRest, hReady'⟩

theorem drain_ready (hDelivers : download.Delivers content holds) {path : String}
    {position : Nat} {n : Nat} (hBuffer : 0 < n) {r : Reader} {s : σ}
    (h : r.Ready content holds path position s) (out : Bytes) :
    ∃ r' s', drain download n r out s = (.ok (out ++ content.drop position), r', s') ∧
      r'.Ready content holds path (max position content.length) s' := by
  fun_induction drain download n r out s generalizing position with
  | case1 r out s e r' s' hOnce =>
    obtain ⟨_, _, hRead, _⟩ := readSome_ready hDelivers h n
    rw [hOnce] at hRead
    cases hRead
  | case2 r out s r' s' hOnce =>
    obtain ⟨_, _, hRead, hReady⟩ := readSome_ready hDelivers h n
    have hCount := length_slice_eq_min content position n
    rw [hOnce] at hRead
    simp only [Prod.mk.injEq, Except.ok.injEq] at hRead
    obtain ⟨hNone, rfl, rfl⟩ := hRead
    rw [← hNone, List.length_nil] at hReady hCount
    have hMax : max position content.length = position := by omega
    rw [hMax, List.drop_of_length_le (by omega), List.append_nil]
    exact ⟨r', s', rfl, hReady⟩
  | case3 r out s b data r' s' hOnce ih =>
    obtain ⟨_, _, hRead, hReady⟩ := readSome_ready hDelivers h n
    have hCount := length_slice_eq_min content position n
    rw [hOnce] at hRead
    simp only [Prod.mk.injEq, Except.ok.injEq] at hRead
    obtain ⟨hData, rfl, rfl⟩ := hRead
    rw [← hData] at hReady hCount
    obtain ⟨r'', s'', hDrained, hReady'⟩ := ih hReady
    have hShare : slice content position (b :: data).length = b :: data := by
      rw [hCount, slice_min]
      exact hData.symm
    have hFront := slice_append_drop content position (b :: data).length
    rw [hShare] at hFront
    have hMax : max (position + (b :: data).length) content.length =
        max position content.length := by omega
    rw [List.append_assoc, hFront] at hDrained
    rw [hMax] at hReady'
    exact ⟨r'', s'', hDrained, hReady'⟩

theorem target?_eq {path : String} {position : Nat} {r : Reader} {s : σ}
    (h : r.Ready content holds path position s) {goal : SeekTarget}
    (hProper : (StreamRequest.seek goal).Proper) :
    r.target? goal =
      let offset := Cursor.target content position goal
      if 0 ≤ offset ∧ offset ≤ maxOffset then some offset.toNat else none := by
  cases goal with
  | start offset =>
    have hInside : 0 ≤ (offset : Int) ∧ (offset : Int) ≤ maxOffset :=
      ⟨Int.natCast_nonneg offset, Int.ofNat_le.mpr hProper⟩
    exact (if_pos hInside).symm
  | fromEnd delta =>
    rw [target?, h.sound.length_eq]
    rfl
  | fromCurrent delta =>
    rw [target?, h.position_eq]
    rfl

/-- One request is answered as by the cursor, and the next one will be. -/
theorem answer_ready (hDelivers : download.Delivers content holds) {path : String}
    {position : Nat} {r : Reader} {s : σ} (h : r.Ready content holds path position s)
    {request : StreamRequest} (hProper : request.Proper) :
    ∃ r' s', r.answer download request.toFile s =
        ((Cursor.answer path content position request).1, r', s') ∧
      r'.Ready content holds path (Cursor.answer path content position request).2 s' := by
  cases request with
  | read n =>
    obtain ⟨r', s', hRead, hReady⟩ := readSome_ready hDelivers h n
    refine ⟨r', s', ?_, hReady⟩
    simp only [StreamRequest.toFile, answer, hRead]
    rfl
  | readExact n =>
    simp only [StreamRequest.toFile, answer, readExact, Cursor.answer]
    rcases readExactly_ready hDelivers h n [] with
      ⟨hLeft, r', s', hRead, hReady⟩ | ⟨hShort, r', s', hRead, hReady⟩
    · rw [hRead, if_pos hLeft]
      exact ⟨r', s', rfl, hReady⟩
    · rw [hRead, if_neg (Nat.not_le.mpr hShort)]
      exact ⟨r', s', rfl, hReady⟩
  | readToEnd n =>
    obtain ⟨r', s', hRead, hReady⟩ := drain_ready hDelivers hProper h []
    refine ⟨r', s', ?_, hReady⟩
    simp only [StreamRequest.toFile, answer, readToEnd, hRead]
    rfl
  | seek goal =>
    simp only [StreamRequest.toFile, answer, seekTo, target?_eq h hProper, Cursor.answer]
    by_cases hInside : 0 ≤ Cursor.target content position goal ∧
        Cursor.target content position goal ≤ maxOffset
    · rw [if_pos hInside, if_pos hInside]
      exact ⟨_, s, rfl, h.seek _⟩
    · rw [if_neg hInside, if_neg hInside, h.path_eq]
      exact ⟨r, s, rfl, h⟩

theorem streamTrace_of_ready (hDelivers : download.Delivers content holds) {path : String}
    {requests : List StreamRequest} (hProper : ∀ request ∈ requests, request.Proper)
    {position : Nat} {r : Reader} {s : σ} (h : r.Ready content holds path position s) :
    streamTrace download requests r s = Cursor.trace path content requests position := by
  induction requests generalizing position r s with
  | nil => rfl
  | cons request requests ih =>
    obtain ⟨r', s', hAnswer, hReady⟩ :=
      answer_ready hDelivers h (hProper request List.mem_cons_self)
    have hRest := ih (fun later hMem => hProper later (List.mem_cons_of_mem request hMem)) hReady
    simp only [streamTrace, Cursor.trace, hAnswer, hReady.position_eq, hRest]

theorem streamTrace_eq_cursor_trace (hDelivers : download.Delivers content holds) (path : String)
    (flags : OpenFlags) (options : ReadOptions) (lastModified : Option Time.Instant)
    {requests : List StreamRequest} (hProper : ∀ request ∈ requests, request.Proper) {s : σ}
    (hs : holds s) :
    streamTrace download requests
        (ofProperties path flags options ⟨content.length, lastModified⟩) s =
      Cursor.trace path content requests 0 := by
  have hReady : (ofProperties path flags options ⟨content.length, lastModified⟩).Ready content
      holds path 0 s := ⟨sound_ofProperties path flags options content lastModified, rfl, rfl, hs⟩
  exact streamTrace_of_ready hDelivers hProper hReady

/-- The client that always answers, and counts what it is asked. -/
def steady (content : Bytes) : Download Nat := fun offset length _ calls =>
  (.ok (slice content offset length), calls + 1)

theorem steady_delivers (content : Bytes) :
    (steady content).Delivers content fun _ => True where
  keeps _ _ _ _ _ := trivial
  answer _ _ _ _ _ _ := rfl

/-- Seeks from all three places, past the end, to the last offset and one too far, with reads in
between. -/
theorem streamTrace_eq_cursor_trace_far :
    let content : Bytes := [10, 11, 12, 13, 14]
    let requests : List StreamRequest := [.readExact 2, .seek (.fromCurrent (-3)),
      .seek (.fromEnd (-1)), .readExact 2, .seek (.start maxOffset), .read 4,
      .seek (.fromCurrent 1), .seek (.start 1), .readToEnd 3]
    (steady content).Delivers content (fun _ => True) ∧
      (∀ request ∈ requests, request.Proper) ∧
      streamTrace (steady content) requests
          (ofProperties "az://c/k" { read := true } { bufferSize := 2 } ⟨5, none⟩) 0 =
        Cursor.trace "az://c/k" content requests 0 := by
  intro content requests
  have hProper : ∀ request ∈ requests, request.Proper := by
    simp [requests, StreamRequest.Proper, maxOffset]
  exact ⟨steady_delivers content, hProper,
    streamTrace_eq_cursor_trace (steady_delivers content) "az://c/k" { read := true }
      { bufferSize := 2 } none hProper trivial⟩

end Reader

end BlobFiles
