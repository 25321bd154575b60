import Unknowns.Bindings
import Unknowns.Event

/-! Requests: the calls that are made on a store, each with what it returns and leaves. -/

namespace Unknowns

/-- What a variable is named by in a call: itself, a reference to it, or its handle. -/
inductive Mention (τ : Type)
  | variable (named : SomeVariable τ)
  | reference (named : SomeVariable τ)
  | erased (handle : Handle)

instance {τ : Type} : Identified (Mention τ) where
  handle
    | .variable named => named.view.erase
    | .reference named => named.view.erase
    | .erased handle => handle

/-- A call that may change a store. -/
inductive StoreChange (τ : Type) [Universe τ]
  | bind {type : τ} (v : Variable type) (content : Carrier type)
  | unbind (mention : Mention τ)

/-- A call on a store; a variable is evaluated as the property that it stands for. -/
inductive StoreRequest (τ : Type) [Universe τ]
  | change (change : StoreChange τ)
  | isBound (mention : Mention τ)
  | value {type : τ} (v : Variable type)
  | evaluateVariable {type : τ} (v : Variable type)
  | evaluateProperty {target : τ} (property : Property target)
  | describe

/-- What a call on a store returns. -/
inductive StoreResult (τ : Type) [Universe τ]
  | bound
  | truth (truth : Bool)
  | value (value : Value τ)
  | evaluation {target : τ} (evaluation : Evaluation target)
  | description (description : StoreDescription)
  | fault (fault : Fault)

/-- Everything that a call on a store leaves: its result, the events it sent, and the store. -/
structure Served (τ : Type) [Universe τ] where
  result : StoreResult τ
  events : List Event := []
  store : Bindings τ

variable {τ : Type} [Universe τ]

/-- Makes a change; one that fails or removes nothing is not heard of. -/
def StoreChange.serve (store : Bindings τ) : StoreChange τ → Served τ
  | @StoreChange.bind _ _ type v content =>
    match store.bind v content with
    | .error fault => { result := .fault fault, store }
    | .ok larger =>
      { result := .bound
        events := [.bound v.erase (Universe.name type)]
        store := larger }
  | .unbind mention =>
    let (removed, smaller) := store.unbind mention
    { result := .truth removed
      events := if removed then [.unbound (Identified.handle mention)] else []
      store := smaller }

/-- The event of a property that was made from a variable. -/
def Property.derivedEvent {target : τ} (property : Property target) : Event :=
  .derived property.handle property.sourceName (Universe.name target)

variable [DecidableEq τ]

/-- Carries out a call on a store; only changes leave another store. -/
def StoreRequest.serve (store : Bindings τ) : StoreRequest τ → Served τ
  | .change made => made.serve store
  | .isBound mention => { result := .truth (store.isBound mention), store }
  | @StoreRequest.value _ _ type v =>
    match store.value v with
    | .error fault => { result := .fault fault, store }
    | .ok content => { result := .value ⟨type, content⟩, store }
  | .evaluateVariable v =>
    -- The derivation comes first, and is heard of even when the variable turns out to be unbound.
    { result := .evaluation (store.evaluate v.property)
      events := [v.property.derivedEvent]
      store }
  | .evaluateProperty property => { result := .evaluation (store.evaluate property), store }
  | .describe => { result := .description store.description, store }

end Unknowns
