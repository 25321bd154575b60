import Unknowns.Handle
import Unknowns.Outline

/-! Faults of a store: what went wrong, with which variable, and how it is told. -/

namespace Unknowns

/-- A reason why a variable cannot be bound or read. -/
inductive Fault
  | unbound (handle : Handle)
  | alreadyBound (handle : Handle)
  | typeMismatch (handle : Handle) (expected : String)
deriving DecidableEq

namespace Fault

/-- The sentence that tells a fault. -/
def message : Fault → String
  | .unbound handle => "variable " ++ handle.text ++ " is unbound"
  | .alreadyBound handle => "variable " ++ handle.text ++ " is already bound"
  | .typeMismatch handle expected =>
    "variable " ++ handle.text ++ " is not bound to a value of type `" ++ expected ++ "`"

/-- The description of a fault by its kind and parts. -/
def outline : Fault → Outline
  | .unbound handle => .tuple "Unbound" [.atom handle.text]
  | .alreadyBound handle => .tuple "AlreadyBound" [.atom handle.text]
  | .typeMismatch handle expected =>
    .record "TypeMismatch"
      [("variable", .atom handle.text), ("expected", .ofName expected)] true

end Fault

end Unknowns
