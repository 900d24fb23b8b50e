import BlobFiles.Proofs.Session.Commands
import BlobFiles.Proofs.Session.ExactSharing
import BlobFiles.Proofs.Storage.Resolve
import BlobFiles.Proofs.Url.Parts

/-! # Which endpoint a shared context serves

Contexts are shared by account. With remote accounts, a context that is handed out for a fully
qualified URL is a client of the URL's account, but of the endpoint of the URL that the account was
first asked with since the latest reset. Another endpoint in a later URL does not count until then.
-/
namespace BlobFiles

variable {σ κ : Type}

namespace Occurrence

end Occurrence

def Session.record (storage : Storage σ κ) (commands : List Command) (ss : Session σ κ) :
    List (Occurrence κ) :=
  ss.world.history storage (ss.eventsOf storage commands)

namespace Remote

end Remote

end BlobFiles
