import Unknowns.Handle
import Unknowns.Universe

/-! Variables: handles viewed at a type, which are the same variable at every type. -/

namespace Unknowns

/-- A variable viewed at a type; the type says what it may be bound to, not which one it is. -/
@[ext]
structure Variable {τ : Type} (type : τ) where
  handle : Handle

namespace Variable

variable {τ : Type} {type : τ}

-- Types need not be told apart for variables of one type to be.
instance : DecidableEq (Variable type) := fun _ _ => decidable_of_iff' _ Variable.ext_iff

/-- The variable without its type. -/
def erase (v : Variable type) : Handle := v.handle

/-- The text that a variable is shown by: the name of its type, and its handle. -/
def text [Universe τ] (v : Variable type) : String :=
  "Variable<" ++ Universe.name type ++ ">(" ++ v.handle.text ++ ")"

end Variable

/-- A variable together with the type it is viewed at. -/
structure SomeVariable (τ : Type) where
  type : τ
  view : Variable type

/-- The variable of a handle, viewed at any type. -/
def Handle.typed {τ : Type} (handle : Handle) (type : τ) : Variable type := ⟨handle⟩

/-- Things that stand for a variable, typed or not. -/
class Identified (α : Type) where
  handle : α → Handle

instance : Identified Handle := ⟨id⟩

instance {τ : Type} {type : τ} : Identified (Variable type) := ⟨Variable.erase⟩

section

variable {α β : Type} [Identified α] [Identified β]

/-- Whether two things stand for the same variable, whatever types they are viewed at. -/
def sameIdentity (left : α) (right : β) : Bool :=
  Identified.handle left == Identified.handle right

/-- The order in which the variables of two things were minted. -/
def mintingOrder (left : α) (right : β) : Ordering :=
  (Identified.handle left).order (Identified.handle right)

/-- The order of minting where an order may be left open, which it never is. -/
def mintingOrder? (left : α) (right : β) : Option Ordering :=
  some (mintingOrder left right)

/-- What a thing feeds to a hash: its handle alone. -/
def identityHash (thing : α) : UInt64 :=
  -- Equal things must feed a hash alike, so the type is left out.
  hash (Identified.handle thing)

end

instance {τ : Type} {type : τ} : Hashable (Variable type) := ⟨identityHash⟩

end Unknowns
