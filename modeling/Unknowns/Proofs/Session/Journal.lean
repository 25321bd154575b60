import Unknowns.Proofs.Session.Telling
import Unknowns.ValueType.Transforms

/-! The events of a session over one store are its journal. -/

namespace Unknowns

variable {τ : Type} [Universe τ]

namespace Session

/-- The events that responses came with, in the order in which they were sent. -/
def log (responses : List (Response τ)) : List Event :=
  responses.flatMap (·.events)

section

variable {catalogue : Catalogue τ} {session next : Session τ} {command : Command τ}
  {store : String} {created : List String} {log : List Event}

variable [DecidableEq τ]

end

end Session

end Unknowns
