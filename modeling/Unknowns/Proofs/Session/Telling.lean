import Unknowns.Proofs.Bindings.Journal
import Unknowns.Proofs.Handle.Supply
import Unknowns.Proofs.Session.Frame

/-! What a step of a session tells by its events, and what it hands out meanwhile. -/

namespace Unknowns

namespace Event

end Event

variable {τ : Type} [Universe τ]

namespace Command

end Command

/-- The handles that a response hands out. -/
def Response.minted (response : Response τ) : List Handle :=
  match response.reply with
  | .done (.handle handle) => [handle]
  | .done (.handles handles) => handles
  | _ => []

namespace Session

variable {session next : Session τ} {response : Response τ}

variable {catalogue : Catalogue τ} {command : Command τ}

variable [DecidableEq τ]

end Session

end Unknowns
