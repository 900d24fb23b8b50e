import BlobFiles.CommandLine.Run
import BlobFiles.Storage.Remote

/-! # The command

Reads the settings file, runs, and prints. There is no network here: a run ends, at the latest, with
the first request to a remote account.
-/
namespace BlobFiles.CommandLine

/-- The content of a file, if it can be read. -/
def readFile? (path : String) : IO (Option Bytes) := do
  try
    let data ← IO.FS.readBinFile path
    return some data.toList
  catch _ => return none

def outcome (arguments : List String) : IO Outcome :=
  match Arguments.parse arguments with
  | .error stop => return .ofStop stop
  | .ok a => do
    let content ← match a.settings with
      | some path => readFile? path
      | none => pure none
    return run (Remote.storage Remote.offline) () content a

def print (o : Outcome) : IO UInt32 := do
  (← IO.getStdout).write ⟨o.output.toArray⟩
  if !o.errors.isEmpty then IO.eprintln o.errors
  return o.exitCode.toUInt32

end BlobFiles.CommandLine

def main (arguments : List String) : IO UInt32 := do
  BlobFiles.CommandLine.print (← BlobFiles.CommandLine.outcome arguments)
