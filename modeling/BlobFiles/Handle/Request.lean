import BlobFiles.Handle.Stream

/-! # Requests to an open file

All that can be asked of a reader, by the file system or through a blocking stream, as data: a
request, its reply, and `Reader.answer`, which gives the one for the other. Sequences of requests
are lists, and what a sequence leaves behind is a fold over `Reader.after`.
-/
namespace BlobFiles

inductive FileRequest where
  | read (n : Nat)
  | readAt (n offset : Nat)
  | seek (offset : Nat)
  | write
  | sync
  | describe
  | streamRead (n : Nat)
  | streamReadExact (n : Nat)
  | streamReadExactAt (n offset : Nat)
  /-- Up to the end, with an `n`-byte buffer. -/
  | streamReadToEnd (n : Nat)
  | streamSeek (target : SeekTarget)
  | streamLength
  deriving DecidableEq, Repr

inductive FileReply where
  | done
  /-- As many bytes as came. -/
  | some (data : Bytes)
  /-- As many bytes as were asked for. -/
  | exactly (data : Bytes)
  | number (n : Nat)
  | text (s : String)
  deriving DecidableEq, Repr

/-- Streams fail in their own way. -/
inductive FileFailure where
  | fs (e : FsError)
  | io (e : IoError)
  deriving DecidableEq, Repr

namespace Reader

variable {σ : Type}

def answer (download : Download σ) (r : Reader) (request : FileRequest) (s : σ) :
    Except FileFailure FileReply × Reader × σ :=
  match request with
  | .read n =>
    let (result, r, s) := r.read download n s
    ((result.map .some).mapError .fs, r, s)
  | .readAt n offset =>
    let (result, r, s) := r.readAt download n offset s
    ((result.map .exactly).mapError .fs, r, s)
  | .seek offset => (.ok .done, r.seek offset, s)
  | .write => (.error (.fs .writeRefused), r, s)
  | .sync => (.error (.fs .syncRefused), r, s)
  | .describe => (.ok (.text r.describe), r, s)
  | .streamRead n =>
    let (result, r, s) := r.readSome download n s
    ((result.map .some).mapError .io, r, s)
  | .streamReadExact n =>
    let (result, r, s) := r.readExact download n s
    ((result.map .exactly).mapError .io, r, s)
  | .streamReadExactAt n offset =>
    let (result, r, s) := r.readExactAt download n offset s
    ((result.map .exactly).mapError .io, r, s)
  | .streamReadToEnd n =>
    let (result, r, s) := r.readToEnd download n s
    ((result.map .some).mapError .io, r, s)
  | .streamSeek target =>
    let (result, r) := r.seekTo target
    ((result.map .number).mapError .io, r, s)
  | .streamLength => (.ok (.number r.length), r, s)

/-- The reader and the service after a request. -/
def after (download : Download σ) : Reader × σ → FileRequest → Reader × σ
  | (r, s), request => (r.answer download request s).2

def run (download : Download σ) (requests : List FileRequest) (start : Reader × σ) : Reader × σ :=
  requests.foldl (after download) start

end Reader

end BlobFiles
