import BlobFiles.Proofs.Handle.Soundness
import BlobFiles.Proofs.Results

/-! # Reading with every operation checked

A reader adds and subtracts without bounds and keeps the bytes of its window as a list of their own.
Here is the same reading as it goes on in buffers of fixed sizes and in numbers of 64 bits: the
window's whole storage and the caller's buffer are written part by part, and every sum, difference,
part, copy and assertion is checked. A check that fails is a `Fault`, which ends everything.
Whether one can fail is not decided here, only that the loop of a read ends whatever it is given.
-/
namespace BlobFiles

inductive Fault where
  /-- A sum that needs more than 64 bits. -/
  | overflow
  /-- A difference below zero. -/
  | underflow
  /-- A part of a buffer that the buffer does not have. -/
  | bounds
  /-- A copy between parts of different lengths. -/
  | lengths
  | assertion
  deriving DecidableEq, Repr

namespace Checked

def add (a b : Nat) : Except Fault Nat :=
  if a + b ≤ maxOffset then .ok (a + b) else .error .overflow

def sub (a b : Nat) : Except Fault Nat :=
  if b ≤ a then .ok (a - b) else .error .underflow

def assert (condition : Bool) : Except Fault Unit :=
  if condition then .ok () else .error .assertion

/-- The bytes of a buffer from `start` up to `stop`. -/
def part (buffer : Bytes) (start stop : Nat) : Except Fault Bytes :=
  if start ≤ stop ∧ stop ≤ buffer.length then .ok (slice buffer start (stop - start))
  else .error .bounds

/-- The buffer with `data` from `start` up to `stop`. -/
def copy (buffer : Bytes) (start stop : Nat) (data : Bytes) : Except Fault Bytes :=
  if start ≤ stop ∧ stop ≤ buffer.length then
    if data.length = stop - start then .ok (buffer.take start ++ data ++ buffer.drop stop)
    else .error .lengths
  else .error .bounds

theorem add_eq_ok {a b : Nat} (h : a + b ≤ maxOffset) : add a b = .ok (a + b) := if_pos h

theorem sub_eq_ok {a b : Nat} (h : b ≤ a) : sub a b = .ok (a - b) := if_pos h

theorem part_eq_ok {buffer : Bytes} {start stop : Nat} (h : start ≤ stop)
    (hStop : stop ≤ buffer.length) :
    part buffer start stop = .ok (slice buffer start (stop - start)) := if_pos ⟨h, hStop⟩

theorem copy_eq_ok {buffer data : Bytes} {start stop : Nat} (h : start + data.length = stop)
    (hStop : stop ≤ buffer.length) :
    copy buffer start stop data = .ok (buffer.take start ++ data ++ buffer.drop stop) := by
  unfold copy
  rw [if_pos ⟨by omega, hStop⟩, if_pos (by omega)]

theorem eq_of_sub {a b c : Nat} (h : sub a b = .ok c) : c = a - b := by
  unfold sub at h
  split at h
  · cases h
    rfl
  · cases h

end Checked

open Checked

/-- An open blob, with the window's storage as it is. -/
structure CheckedFile where
  path : String
  flags : OpenFlags
  options : ReadOptions
  length : Nat
  lastModified : Option Time.Instant
  /-- All of the window's storage, with or without bytes of the blob. -/
  storage : Bytes
  start : Nat
  stop : Nat
  index : Nat
  available : Nat
  position : Nat

namespace CheckedFile

variable {σ : Type}

/-- The reader that the file is. -/
def reader (f : CheckedFile) : Reader where
  path := f.path
  flags := f.flags
  options := f.options
  length := f.length
  lastModified := f.lastModified
  position := f.position
  window :=
    { capacity := f.storage.length, start := f.start, stop := f.stop, index := f.index,
      available := f.available, bytes := f.storage.take (f.stop - f.start) }

def ofProperties (path : String) (flags : OpenFlags) (options : ReadOptions) (p : BlobProperties) :
    CheckedFile where
  path := path
  flags := flags
  options := options
  length := p.size
  lastModified := p.lastModified
  storage := if flags.read then List.replicate options.bufferSize 0 else []
  start := 0
  stop := 0
  index := 0
  available := 0
  position := 0

/-! ## The loop of a read -/

/-- A read on its way: so much of the caller's buffer is filled, and so much is needed. -/
structure Filling where
  file : CheckedFile
  buffer : Bytes
  filled : Nat
  need : Nat

/-- Copies what the window has ready. -/
def Filling.serve (l : Filling) : Except Fault Filling :=
  let f := l.file
  let served := min f.available l.need
  if served = 0 then .ok l
  else do
    let upTo ← add f.index served
    let reached ← add f.start upTo
    assert (reached ≤ f.stop)
    let bytes ← part f.storage f.index upTo
    let filled ← add l.filled served
    let buffer ← copy l.buffer l.filled filled bytes
    let need ← sub l.need served
    let available ← sub f.available served
    let position ← add f.position served
    return ⟨{ f with index := upTo, available, position }, buffer, filled, need⟩

/-- How a pass of the loop ends: the loop goes on, or it is over with the answer to the read. -/
abbrev Pass := Filling ⊕ Except FsError Unit × Filling

/-- Downloads what is needed past the window, when it is more than fits, or fills the window. -/
def Filling.supply (download : Download σ) (l : Filling) (s : σ) : Except Fault (Pass × σ) := do
  let f := l.file
  let rest ← sub f.length f.position
  let room := min f.storage.length rest
  if room < l.need then
    match f.reader.fetch download f.position l.need s with
    | (.error e, s) => return (.inr (.error e, l), s)
    | (.ok data, s) =>
      let buffer ← copy l.buffer l.filled l.buffer.length data
      let position ← add f.position l.need
      return (.inr (.ok (), ⟨{ f with index := 0, available := 0, position }, buffer, l.filled,
        l.need⟩), s)
  else
    match f.reader.fetch download f.position room s with
    | (.error e, s) => return (.inr (.error e, l), s)
    | (.ok data, s) =>
      let storage ← copy f.storage 0 room data
      let stop ← add f.position room
      return (.inl ⟨{ f with storage, index := 0, available := room, start := f.position, stop },
        l.buffer, l.filled, l.need⟩, s)

def Filling.pass (download : Download σ) (l : Filling) (s : σ) : Except Fault (Pass × σ) := do
  let l ← l.serve
  if 0 < l.need ∧ l.file.available = 0 then l.supply download s
  else return (.inl l, s)

theorem Filling.of_serve {l l' : Filling} (h : l.serve = .ok l') :
    l'.need = l.need - min l.file.available l.need ∧
      l'.file.available = l.file.available - min l.file.available l.need := by
  unfold serve at h
  simp only at h
  split at h
  · cases h
    omega
  · simp only [bind_eq_ok_iff] at h
    obtain ⟨_, -, _, -, _, -, _, -, _, -, _, -, need, hNeed, available, hAvailable, _, -, h⟩ := h
    cases h
    exact ⟨eq_of_sub hNeed, eq_of_sub hAvailable⟩

theorem Filling.of_supply {download : Download σ} {l l' : Filling} {s s' : σ}
    (h : l.supply download s = .ok (.inl l', s')) :
    l'.need = l.need ∧ l.need ≤ l'.file.available := by
  unfold supply at h
  simp only [bind_eq_ok_iff] at h
  obtain ⟨rest, -, h⟩ := h
  split at h
  · split at h
    · cases h
    · simp only [bind_eq_ok_iff] at h
      obtain ⟨_, -, _, -, h⟩ := h
      cases h
  · split at h
    · cases h
    · simp only [bind_eq_ok_iff] at h
      obtain ⟨_, -, _, -, h⟩ := h
      cases h
      exact ⟨rfl, by simp only; omega⟩

/-- What is still to be done: a byte needs two passes at most, one to make it ready and one to
serve it. -/
def Filling.left (l : Filling) : Nat := 2 * l.need + if l.file.available = 0 then 1 else 0

/-- A pass after which the loop goes on has served something, or it has made ready what there was
nothing of. -/
theorem Filling.left_lt_of_pass {download : Download σ} {l l' : Filling} {s s' : σ}
    (hNeed : l.need ≠ 0) (h : l.pass download s = .ok (.inl l', s')) : l'.left < l.left := by
  unfold pass at h
  rw [bind_eq_ok_iff] at h
  obtain ⟨served, hServed, h⟩ := h
  obtain ⟨hRest, hAvailable⟩ := of_serve hServed
  unfold left
  split at h
  · obtain ⟨hSame, hReady⟩ := of_supply h
    rw [if_neg (by omega)]
    split <;> omega
  · cases h
    split <;> split <;> omega

def Filling.loop (download : Download σ) (l : Filling) (s : σ) :
    Except Fault (Except FsError Unit × Filling × σ) :=
  if _hNeed : l.need = 0 then .ok (.ok (), l, s)
  else
    match _h : l.pass download s with
    | .error fault => .error fault
    | .ok (.inl l, s) => loop download l s
    | .ok (.inr (answer, l), s) => .ok (answer, l, s)
termination_by l.left
decreasing_by exact left_lt_of_pass _hNeed _h

/-! ## Calls -/

def locate (f : CheckedFile) (offset : Nat) : Except Fault CheckedFile :=
  if f.start ≤ offset ∧ offset < f.stop then do
    let index ← sub offset f.start
    let size ← sub f.stop f.start
    let available ← sub size index
    return { f with index, available, position := offset }
  else .ok { f with index := 0, available := 0, position := offset }

/-- Fills a buffer from `offset` on. -/
def readAt (download : Download σ) (f : CheckedFile) (buffer : Bytes) (offset : Nat) (s : σ) :
    Except Fault (Except FsError Unit × CheckedFile × Bytes × σ) :=
  let n := buffer.length
  if 0 < n ∧ f.length < min (offset + n) maxOffset then
    .ok (.error (.outOfRange f.path offset n f.length), f, buffer, s)
  else if f.flags.directIo ∧ 0 < n then
    match f.reader.fetch download offset n s with
    | (.error e, s) => .ok (.error e, f, buffer, s)
    | (.ok data, s) => do
      let buffer ← copy buffer 0 n data
      let position ← add offset n
      return (.ok (), { f with index := 0, available := 0, position }, buffer, s)
  else do
    let f ← f.locate offset
    let (answer, l, s) ← (Filling.mk f buffer 0 n).loop download s
    return (answer, l.file, l.buffer, s)

/-- Fills the front of a buffer from the position on, as far as the blob goes. -/
def read (download : Download σ) (f : CheckedFile) (buffer : Bytes) (s : σ) :
    Except Fault (Except FsError Nat × CheckedFile × Bytes × σ) := do
  let n := min buffer.length (f.length - f.position)
  let front ← part buffer 0 n
  let (answer, f, front, s) ← f.readAt download front f.position s
  let buffer := front ++ buffer.drop n
  return (answer.map fun _ => n, f, buffer, s)

def seek (f : CheckedFile) (offset : Nat) : CheckedFile := { f with position := offset }

/-- A call with the buffer it fills. -/
inductive Call where
  | read (buffer : Bytes)
  | readAt (buffer : Bytes) (offset : Nat)
  | seek (offset : Nat)
  deriving DecidableEq, Repr

/-- The request that a reader is sent. -/
def Call.request : Call → FileRequest
  | .read buffer => .read buffer.length
  | .readAt buffer offset => .readAt buffer.length offset
  | .seek offset => .seek offset

/-- The range of the call is inside a blob of `size` bytes or it is one that is refused. Of the
others there are some only if the blob is as long as 64 bits allow. -/
def Call.Proper (size : Nat) : Call → Prop
  | .readAt buffer offset =>
    buffer.length = 0 ∨ offset + buffer.length ≤ size ∨
      0 < buffer.length ∧ size < min (offset + buffer.length) maxOffset
  | .read _ | .seek _ => True

/-- What a call answers, with the bytes that are in the buffer then. -/
def answer (download : Download σ) (f : CheckedFile) (call : Call) (s : σ) :
    Except Fault (Except FileFailure FileReply × CheckedFile × σ) :=
  match call with
  | .read buffer => do
    let (count, f, buffer, s) ← f.read download buffer s
    return ((count.map fun n => .some (buffer.take n)).mapError .fs, f, s)
  | .readAt buffer offset => do
    let (done, f, buffer, s) ← f.readAt download buffer offset s
    return ((done.map fun _ => .exactly buffer).mapError .fs, f, s)
  | .seek offset => return (.ok .done, f.seek offset, s)

def run (download : Download σ) : List Call → CheckedFile × σ → Except Fault (CheckedFile × σ)
  | [], now => return now
  | call :: calls, (f, s) => do
    let (_, f, s) ← f.answer download call s
    run download calls (f, s)

end CheckedFile

end BlobFiles
