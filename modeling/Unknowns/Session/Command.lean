import Unknowns.Session.Catalogue

/-! The commands of a session, which call variables, properties and stores by name. -/

namespace Unknowns

/-- A value given from outside; it may refer to variables, which are looked up by name. -/
abbrev Reading (τ : Type) [Universe τ] := (String → Option Handle) → Argument τ

/-- What a property is derived from. -/
inductive Origin
  | variable (name : String)
  | property (name : String)
deriving DecidableEq

/-- One step of a session; `name` is what its product is called, and `names` what its products are. -/
inductive Command (τ : Type) [Universe τ]
  | mint (name : String) (type : τ)
  | mintSeveral (types : List τ) (names : List String)
  | mintOnThreads (threads each : Nat)
  | view (source : String) (type : τ) (name : String)
  | inspect (source : String)
  | compare (left right : String)
  | sort (sources : List String)
  | label (entries : List (String × String)) (wanted : List String)
  | derive (origin : Origin) (times : Nat) (name : String)
  | map (origin : Origin) (transform : String) (argument : Reading τ) (times : Nat)
      (name : String)
  | copyProperty (property name : String)
  | describeProperty (property : String)
  | evaluate (property : String) (type : τ) (input : Reading τ)
  | apply (property : String) (type : τ) (input : Reading τ)
  | evaluateEach (property : String) (type : τ) (inputs : List (Reading τ))
  | create (capacity : Option Nat) (name : String)
  | copyStore (store name : String)
  | bind (store source : String) (value : Reading τ)
  | unbind (store source : String)
  | isBound (store source : String)
  | value (store source : String)
  | evaluateIn (store : String) (origin : Origin)
  | describeStore (store : String)
  | describeFault (step : Nat)
  | compareFaults (left right : Nat)

end Unknowns
