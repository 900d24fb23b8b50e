import BlobFiles.Handle.Window

/-! # Reading a blob as a file

A `Reader` is an open blob of known length with a position and a window. `read` goes on from the
position and stops at the end; `readAt` takes exactly the range it is asked for. A range that the
window does not hold is downloaded: into the window when it fits, past it otherwise. A download that
brings another number of bytes than it was asked for counts as failed, and a failed one leaves the
window as it was.
-/
namespace BlobFiles

structure Reader where
  path : String
  flags : OpenFlags
  options : ReadOptions
  length : Nat
  lastModified : Option Time.Instant
  window : Window
  position : Nat := 0

/-- The largest offset of 64 bits. -/
def maxOffset : Nat := 0xFFFFFFFFFFFFFFFF

namespace Reader

variable {σ : Type}

/-- Only a file that is open for reading reads ahead. -/
def ofProperties (path : String) (flags : OpenFlags) (options : ReadOptions) (p : BlobProperties) :
    Reader where
  path := path
  flags := flags
  options := options
  length := p.size
  lastModified := p.lastModified
  window := { capacity := if flags.read then options.bufferSize else 0 }

def seek (r : Reader) (offset : Nat) : Reader := { r with position := offset }

def wrongLength (length offset received : Nat) : StorageError where
  code := "InvalidRange"
  reason := "The range specified is invalid for the current size of the resource."
  detail := s!"requested {length} bytes at offset {offset}, received {received}"

/-- Downloads exactly `length` bytes. -/
def fetch (r : Reader) (download : Download σ) (offset length : Nat) (s : σ) :
    Except FsError Bytes × σ :=
  match download offset length r.options.transfer s with
  | (.error e, s) => (.error (.ofStorage "read" r.path e), s)
  | (.ok data, s) =>
    if data.length = length then (.ok data, s)
    else (.error (.ofStorage "read" r.path (wrongLength length offset data.length)), s)

/-- Hands out `n` bytes of the window, which has as many. -/
def serve (r : Reader) (n : Nat) : Reader :=
  { r with window := r.window.advance n, position := r.position + n }

/-- After a download past the window that ended at `offset`. -/
def passBy (r : Reader) (offset : Nat) : Reader :=
  { r with window := r.window.pause, position := offset }

/-- Takes `need` bytes from the position on, behind those already `out`. -/
def take (download : Download σ) (r : Reader) (need : Nat) (out : Bytes) (s : σ) :
    Except FsError Bytes × Reader × σ :=
  let served := min r.window.available need
  let out := out ++ r.window.next served
  let r' := r.serve served
  let rest := need - served
  if rest = 0 then (.ok out, r', s)
  else
    let room := min r'.window.capacity (r'.length - r'.position)
    if room < rest then
      match r'.fetch download r'.position rest s with
      | (.error e, s) => (.error e, r', s)
      | (.ok data, s) =>
        (.ok (out ++ data), r'.passBy (r'.position + rest), s)
    else
      match r'.fetch download r'.position room s with
      | (.error e, s) => (.error e, r', s)
      | (.ok data, s) =>
        take download { r' with window := r'.window.fill r'.position room data } rest out s
termination_by (need, if r.window.available = 0 then 1 else 0)
decreasing_by
  by_cases h : r.window.available = 0
  · have : need - min r.window.available need = need := by omega
    rw [this]
    apply Prod.Lex.right
    simp [Window.fill, h]
    grind
  · apply Prod.Lex.left
    omega

/-- A download of its own, past the window. -/
def readDirect (download : Download σ) (r : Reader) (n offset : Nat) (s : σ) :
    Except FsError Bytes × Reader × σ :=
  match r.fetch download offset n s with
  | (.error e, s) => (.error e, r, s)
  | (.ok data, s) => (.ok data, r.passBy (offset + n), s)

def outOfRange (r : Reader) (n offset : Nat) : Bool :=
  0 < n && r.length < min (offset + n) maxOffset

/-- Reads the `n` bytes from `offset` on and leaves the position behind them. -/
def readAt (download : Download σ) (r : Reader) (n offset : Nat) (s : σ) :
    Except FsError Bytes × Reader × σ :=
  if r.outOfRange n offset then (.error (.outOfRange r.path offset n r.length), r, s)
  else if r.flags.directIo && 0 < n then readDirect download r n offset s
  else take download { r with window := r.window.locate offset, position := offset } n [] s

/-- Reads `n` bytes from the position on, or what is left. -/
def read (download : Download σ) (r : Reader) (n : Nat) (s : σ) :
    Except FsError Bytes × Reader × σ :=
  readAt download r (min n (r.length - r.position)) r.position s

/-- A read that succeeds ends behind all that was needed. -/
theorem position_of_take {download : Download σ} {r r' : Reader} {need : Nat} {out data : Bytes}
    {s s' : σ} (h : take download r need out s = (.ok data, r', s')) :
    r'.position = r.position + need ∧ r'.length = r.length := by
  fun_induction take download r need out s with
  | case1 r need out s served out' next rest hRest =>
    simp only [Prod.mk.injEq] at h
    obtain ⟨_, rfl, _⟩ := h
    have hServed : served = need := by omega
    exact ⟨congrArg (r.position + ·) hServed, rfl⟩
  | case2 => cases h
  | case3 r need out s served out' next rest hRest room hRoom data' s'' hFetch =>
    cases h
    have hSum : served + rest = need := by omega
    refine ⟨?_, rfl⟩
    change r.position + served + rest = r.position + need
    omega
  | case4 => cases h
  | case5 r need out s served out' next rest hRest room hRoom data' s'' hFetch ih =>
    obtain ⟨hPosition, hLength⟩ := ih h
    refine ⟨?_, hLength⟩
    rw [hPosition]
    change r.position + served + rest = r.position + need
    omega

theorem position_of_readAt {download : Download σ} {r r' : Reader} {n offset : Nat} {data : Bytes}
    {s s' : σ} (h : r.readAt download n offset s = (.ok data, r', s')) :
    r'.position = offset + n ∧ r'.length = r.length := by
  unfold readAt at h
  split at h
  · cases h
  · split at h
    · unfold readDirect at h
      split at h
      · cases h
      · cases h
        exact ⟨rfl, rfl⟩
    · exact position_of_take h

theorem readAt_zero (download : Download σ) (r : Reader) (offset : Nat) (s : σ) :
    r.readAt download 0 offset s =
      (.ok [], { r with window := r.window.locate offset, position := offset }, s) := by
  have hRange : r.outOfRange 0 offset = false := rfl
  have hDirect : (r.flags.directIo && decide (0 < 0)) = false := Bool.and_false _
  rw [readAt, hRange, hDirect, take]
  simp [Window.next, serve, Window.advance]

def describe (r : Reader) : String :=
  s!"BlobFileHandle \x7b path: {Text.quoted r.path}, flags: {r.flags.describe}, " ++
    s!"length: {r.length}, file_offset: {r.position}, " ++
    s!"buffer: {r.window.start}..{r.window.stop} \x7d"

end Reader

end BlobFiles
