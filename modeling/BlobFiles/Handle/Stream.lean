import BlobFiles.Handle.Reader

/-! # Blocking streams

A reader seen as a byte stream: reads that fill a buffer, reads up to the end, and seeking from
either end or from the position. A stream may be moved past its end, where it has no bytes, but not
before its start nor past the last offset of 64 bits.
-/
namespace BlobFiles

inductive SeekTarget where
  | start (offset : Nat)
  | fromEnd (delta : Int)
  | fromCurrent (delta : Int)
  deriving DecidableEq, Repr

namespace Reader

variable {σ : Type}

/-- An offset moved by a signed distance, when the result is an offset again. -/
def shift? (offset : Nat) (delta : Int) : Option Nat :=
  let target := (offset : Int) + delta
  if 0 ≤ target ∧ target ≤ maxOffset then some target.toNat else none

def target? (r : Reader) : SeekTarget → Option Nat
  | .start offset => some offset
  | .fromEnd delta => shift? r.length delta
  | .fromCurrent delta => shift? r.position delta

/-- The new position; a refused target leaves the reader where it is. -/
def seekTo (r : Reader) (target : SeekTarget) : Except IoError Nat × Reader :=
  match r.target? target with
  | some offset => (.ok offset, r.seek offset)
  | none => (.error ⟨.invalidInput, s!"invalid seek before the start of {r.path}"⟩, r)

def readSome (download : Download σ) (r : Reader) (n : Nat) (s : σ) :
    Except IoError Bytes × Reader × σ :=
  let (result, r, s) := r.read download n s
  (result.mapError FsError.toIo, r, s)

def readExactAt (download : Download σ) (r : Reader) (n offset : Nat) (s : σ) :
    Except IoError Bytes × Reader × σ :=
  let (result, r, s) := r.readAt download n offset s
  (result.mapError FsError.toIo, r, s)

def endOfStream : IoError := ⟨.unexpectedEof, "failed to fill whole buffer"⟩

/-- Reads until `need` more bytes have come; a read that brings none is the end. -/
def readExactly (download : Download σ) (r : Reader) (need : Nat) (out : Bytes) (s : σ) :
    Except IoError Bytes × Reader × σ :=
  if need = 0 then (.ok out, r, s)
  else
    match r.readSome download need s with
    | (.error e, r, s) => (.error e, r, s)
    | (.ok [], r, s) => (.error endOfStream, r, s)
    | (.ok (b :: data), r, s) =>
      readExactly download r (need - (data.length + 1)) (out ++ b :: data) s
termination_by need

def readExact (download : Download σ) (r : Reader) (n : Nat) (s : σ) :
    Except IoError Bytes × Reader × σ :=
  readExactly download r n [] s

theorem remaining_lt_of_readSome {download : Download σ} {r r' : Reader} {n : Nat} {b : UInt8}
    {data : Bytes} {s s' : σ} (h : r.readSome download n s = (.ok (b :: data), r', s')) :
    r'.length - r'.position < r.length - r.position := by
  unfold readSome read at h
  generalize hRead : r.readAt download (min n (r.length - r.position)) r.position s = once at h
  obtain ⟨result, r'', s''⟩ := once
  cases result with
  | error e => cases h
  | ok bytes =>
    cases h
    obtain ⟨hPosition, hLength⟩ := position_of_readAt hRead
    have hSome : min n (r.length - r.position) ≠ 0 := by
      intro hNone
      rw [hNone, readAt_zero] at hRead
      cases hRead
    omega

/-- Reads with an `n`-byte buffer until a read brings nothing. Every other read takes one of the
remaining bytes at least. -/
def drain (download : Download σ) (n : Nat) (r : Reader) (out : Bytes) (s : σ) :
    Except IoError Bytes × Reader × σ :=
  match _h : r.readSome download n s with
  | (.error e, r, s) => (.error e, r, s)
  | (.ok [], r, s) => (.ok out, r, s)
  | (.ok (b :: data), r, s) => drain download n r (out ++ b :: data) s
termination_by r.length - r.position
decreasing_by exact remaining_lt_of_readSome _h

def readToEnd (download : Download σ) (r : Reader) (n : Nat) (s : σ) :
    Except IoError Bytes × Reader × σ :=
  drain download n r [] s

end Reader

end BlobFiles
