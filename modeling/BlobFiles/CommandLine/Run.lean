import BlobFiles.CommandLine.Arguments
import BlobFiles.FileSystem
import BlobFiles.Settings.File

/-! # What the command does

With a wildcard in its path the command prints the URLs of the matching blobs, one a line; otherwise
it prints bytes of one blob, in reads of limited size. It may also just say whether the blob exists.
The settings file and the storage service are given; nothing here reads or writes by itself.
-/
namespace BlobFiles.CommandLine

/-- A failure, and the one that caused it. -/
structure Report where
  message : String
  cause : Option String := none
  deriving DecidableEq, Repr

/-- Every line of the cause is indented. -/
def Report.text (r : Report) : String :=
  match r.cause with
  | none => s!"Error: {r.message}"
  | some cause =>
    let lines := (cause.toList.splitOn '\n').map fun line => "    " ++ String.ofList line
    s!"Error: {r.message}\n\nCaused by:\n" ++ "\n".intercalate lines

structure Outcome where
  exitCode : Nat
  output : Bytes := []
  errors : String := ""
  deriving DecidableEq, Repr

def Outcome.failed (output : Bytes) (r : Report) : Outcome := ⟨1, output, r.text⟩

def Outcome.ofStop : Stop → Outcome
  | .help => ⟨0, helpText.toUTF8.toList, ""⟩
  | .usage e =>
    ⟨2, [], s!"error: {e.message}\n\n{usageLine}\n\nFor more information, try '--help'."⟩

def lines (texts : List String) : Bytes := texts.flatMap fun t => (t ++ "\n").toUTF8.toList

/-- Read at most this much at a time. -/
def pieceSize : Nat := 64 * 1024

variable {σ κ : Type}

/-- Reads piece after piece up to `stop`, at most `rounds` of them. What was read before a failure
is kept. -/
def readPieces (download : Download σ) (stop : Nat) :
    (rounds : Nat) → Reader → Bytes → σ → Bytes × Option FsError
  | 0, _, out, _ => (out, none)
  | rounds + 1, r, out, s =>
    if stop ≤ r.position then (out, none)
    else
      match r.read download (min (stop - r.position) pieceSize) s with
      | (.error e, _, _) => (out, some e)
      | (.ok [], _, _) => (out, none)
      | (.ok data, r, s) => readPieces download stop rounds r (out ++ data) s

/-- The offset at which printing ends. -/
def stopAt (a : Arguments) (size : Nat) : Nat :=
  match a.length with
  | some length => min (min (a.offset + length) maxOffset) size
  | none => size

/-- Every piece has a byte at least, so there are no more of them than bytes. -/
def printRange (storage : Storage σ κ) (a : Arguments) (handle : Handle κ) (s : σ) : Outcome :=
  let stop := stopAt a handle.reader.length
  let (output, failure) := readPieces (storage.downloadOf handle.blob) stop (stop - a.offset)
    (handle.reader.seek a.offset) [] s
  match failure with
  | none => ⟨0, output, ""⟩
  | some e => .failed output ⟨e.message, none⟩

/-- The settings for a run: those of the file, then those of the arguments. -/
def settings (a : Arguments) (content : Option Bytes) : Except Settings.FileError Settings := do
  let s ← if a.settings.isSome then Settings.ofFile content else pure {}
  let s := match a.accountName with
    | some name => s.set Settings.accountNameKey (.string name)
    | none => s
  return match a.bufferSize with
    | some size => s.set Settings.bufferSizeKey (.integer size)
    | none => s

def runWith (storage : Storage σ κ) (a : Arguments) (s : Settings) (w : World σ κ) : Outcome :=
  match BlobUrl.parse a.path with
  | .error e => .failed [] ⟨e.message, none⟩
  | .ok url =>
    if a.exists? then
      let (found, _) := FileSystem.fileExists storage (some s) a.path w
      ⟨0, lines [toString found], ""⟩
    else if (Glob.sharedPrefix? url.path).isSome then
      match FileSystem.glob storage (some s) a.path w with
      | (.ok urls, _) => ⟨0, lines urls, ""⟩
      | (.error e, _) => .failed [] ⟨e.message, none⟩
    else
      match FileSystem.openFile storage (some s) a.path { read := true } w with
      | (.ok handle, w) => printRange storage a handle w.service
      | (.error e, _) => .failed [] ⟨s!"Failed to open {a.path}", some e.message⟩

/-- The outcome of a run, given the content of the settings file if it could be read. -/
def run (storage : Storage σ κ) (service : σ) (content : Option Bytes) (a : Arguments) : Outcome :=
  match settings a content with
  | .error e => .failed [] ⟨e.message (a.settings.getD ""), none⟩
  | .ok s => runWith storage a s ⟨service, {}⟩

end BlobFiles.CommandLine
