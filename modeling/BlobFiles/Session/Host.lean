import BlobFiles.Session.Step

/-! # The registry in the hands of the host

A host does more than give commands. It can take hold of the registry and put any state that there
is under any key: a state that is under another key already, one that was taken out before, or a
context that a lookup has made.
-/
namespace BlobFiles

inductive Act where
  | command (command : Command)
  | register (key : String) (entry : Entry)

namespace Session

variable {σ κ : Type}

/-- What there is not cannot be put under a key. -/
def act (storage : Storage σ κ) (ss : Session σ κ) : Act → Session σ κ
  | .command command => (ss.step storage command).2
  | .register key entry =>
    if ss.world.contexts.Knows entry then
      ss.withContexts (ss.world.contexts.register key entry)
    else ss

def runActs (storage : Storage σ κ) (acts : List Act) (ss : Session σ κ) : Session σ κ :=
  acts.foldl (fun ss act => ss.act storage act) ss

end Session

end BlobFiles
