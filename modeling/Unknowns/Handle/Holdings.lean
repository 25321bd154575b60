import Unknowns.Bindings.Request
import Unknowns.Session.Catalogue

/-! Holdings: the handles that a program makes of one another, each traced to the minting behind it. -/

namespace Unknowns

/-- A handle as a program holds it: viewed at a type, or erased. -/
inductive Held (τ : Type)
  | typed (named : SomeVariable τ)
  | erased (handle : Handle)

instance {τ : Type} : Identified (Held τ) where
  handle
    | .typed named => named.view.erase
    | .erased handle => handle

/-- The variable of a handle that is held at a type. -/
def Held.typed? {τ : Type} : Held τ → Option (SomeVariable τ)
  | .typed named => some named
  | .erased _ => none

/-- The ways to make a handle of another one. -/
inductive Conversion (τ : Type)
  | copy
  | erase
  | view (type : τ)
  | asVariable
  | fromVariable
  | fromReference

/-- The handle that a conversion makes, if it is one for handles of this form. -/
def Conversion.apply? {τ : Type} : Conversion τ → Held τ → Option (Held τ)
  | .copy, held => some held
  | .erase, .typed named => some (.erased named.view.erase)
  | .view type, .erased handle => some (.typed ⟨type, handle.typed type⟩)
  | .asVariable, .typed named => some (.typed named)
  | .fromVariable, .typed named => some (.erased (Identified.handle (Mention.variable named)))
  | .fromReference, .typed named => some (.erased (Identified.handle (Mention.reference named)))
  | _, _ => none

/-- A thing together with the minting that it descends from; mintings are counted from zero. -/
structure Traced (α : Type) where
  thing : α
  minting : Nat

/-- Another thing that is made of a traced one. -/
def Traced.remade {α β : Type} (traced : Traced α) (other : β) : Traced β :=
  ⟨other, traced.minting⟩

variable {τ : Type} [Universe τ]

/-- A store, with its bound variables traced one by one in the order of its own list. -/
structure TracedStore (τ : Type) [Universe τ] where
  store : Bindings τ
  keys : List (Traced Handle)
  listed : keys.map (·.thing) = store.handles

namespace TracedStore

/-- A new store. -/
def create (capacity : Option Nat) : TracedStore τ where
  store := .create capacity
  keys := []
  listed := by cases capacity <;> rfl

/-- The store after a binding; its key is the handle of the variable that was bound. -/
def bind (traced : TracedStore τ) (variable_ : Traced (SomeVariable τ))
    (content : Carrier variable_.thing.type) : TracedStore τ :=
  match made : traced.store.bind variable_.thing.view content with
  | .error _ => traced
  | .ok larger =>
    { store := larger
      keys := variable_.remade variable_.thing.view.erase :: traced.keys
      listed := by
        rw [Bindings.handles_of_bind made, ← traced.listed]
        rfl }

/-- The store after an unbinding. -/
def unbind (traced : TracedStore τ) (held : Held τ) : TracedStore τ where
  store := (traced.store.unbind held).2
  keys := traced.keys.filter (·.thing ≠ Identified.handle held)
  listed := by
    rw [Bindings.handles_unbind, ← traced.listed, List.filter_map]
    rfl

end TracedStore

/-- Everything that a program holds, in the order it was made, and the handles it may yet mint. -/
structure Holdings (τ : Type) [Universe τ] where
  supply : Supply
  mintings : Nat
  handles : List (Traced (Held τ))
  properties : List (Traced (SomeProperty τ))
  stores : List (TracedStore τ)

/-- A step of a program; what it is made of is called by its place among what is held. -/
inductive Making (τ : Type) [Universe τ]
  | mint (type : τ)
  | mintSeveral (types : List τ)
  | convert (conversion : Conversion τ) (source : Nat)
  | property (source : Nat)
  | map (source : Nat) (transform : (type : τ) → Option (FoundTransform type))
  | mapProperty (source : Nat) (transform : (type : τ) → Option (FoundTransform type))
  | copyProperty (source : Nat)
  | variableOf (property : Nat)
  | create (capacity : Option Nat)
  | copyStore (source : Nat)
  | bind (store source : Nat) (value : Argument τ)
  | unbind (store source : Nat)
  | variablesOf (store : Nat)

namespace Holdings

/-- A program that holds nothing. -/
def start (supply : Supply) : Holdings τ := ⟨supply, 0, [], [], []⟩

/-- One more variable, which descends from the minting that is made for it. -/
def mint (holdings : Holdings τ) (type : τ) : Holdings τ :=
  let (handle, supply) := holdings.supply.mint
  { holdings with
    supply
    mintings := holdings.mintings + 1
    handles := holdings.handles ++ [⟨.typed ⟨type, handle.typed type⟩, holdings.mintings⟩] }

/-- The holdings with further handles. -/
def addHandles (holdings : Holdings τ) (handles : List (Traced (Held τ))) : Holdings τ :=
  { holdings with handles := holdings.handles ++ handles }

/-- The holdings with a further property. -/
def addProperty (holdings : Holdings τ) (property : Traced (SomeProperty τ)) : Holdings τ :=
  { holdings with properties := holdings.properties ++ [property] }

/-- The holdings with a further store. -/
def addStore (holdings : Holdings τ) (store : TracedStore τ) : Holdings τ :=
  { holdings with stores := holdings.stores ++ [store] }

/-- The holdings with another state of a store. -/
def setStore (holdings : Holdings τ) (place : Nat) (store : TracedStore τ) : Holdings τ :=
  { holdings with stores := holdings.stores.set place store }

/-- A held handle that is viewed at a type. -/
def viewed? (holdings : Holdings τ) (source : Nat) : Option (Traced (SomeVariable τ)) := do
  let held ← holdings.handles[source]?
  return held.remade (← held.thing.typed?)

variable [DecidableEq τ]

/-- The holdings after a step, if everything it is made of is held. -/
def make? (holdings : Holdings τ) : Making τ → Option (Holdings τ)
  | .mint type => some (holdings.mint type)
  | .mintSeveral types => some (types.foldl mint holdings)
  | .convert conversion source => do
    let held ← holdings.handles[source]?
    return holdings.addHandles [held.remade (← conversion.apply? held.thing)]
  | .property source => do
    let named ← holdings.viewed? source
    return holdings.addProperty (named.remade ⟨named.thing.type, named.thing.view.property⟩)
  | .map source transform => do
    let named ← holdings.viewed? source
    let found ← transform named.thing.type
    return holdings.addProperty
      (named.remade ⟨found.target, named.thing.view.map found.transform⟩)
  | .mapProperty source transform => do
    let property ← holdings.properties[source]?
    let found ← transform property.thing.target
    return holdings.addProperty
      (property.remade ⟨found.target, property.thing.property.map found.transform⟩)
  | .copyProperty source => do
    return holdings.addProperty (← holdings.properties[source]?)
  | .variableOf source => do
    let property ← holdings.properties[source]?
    return holdings.addHandles [property.remade (.erased property.thing.property.handle)]
  | .create capacity => some (holdings.addStore (.create capacity))
  | .copyStore source => do
    return holdings.addStore (← holdings.stores[source]?)
  | .bind store source value => do
    let bindings ← holdings.stores[store]?
    let named ← holdings.viewed? source
    let content ← value named.thing.type
    return holdings.setStore store (bindings.bind named content)
  | .unbind store source => do
    let bindings ← holdings.stores[store]?
    let held ← holdings.handles[source]?
    return holdings.setStore store (bindings.unbind held.thing)
  | .variablesOf store => do
    let bindings ← holdings.stores[store]?
    return holdings.addHandles (bindings.keys.map fun key => key.remade (.erased key.thing))

/-- The holdings after a step; one that calls for what is not held changes nothing. -/
def make (holdings : Holdings τ) (making : Making τ) : Holdings τ :=
  (holdings.make? making).getD holdings

/-- The holdings after all steps of a program. -/
def run (holdings : Holdings τ) (makings : List (Making τ)) : Holdings τ :=
  makings.foldl make holdings

end Holdings

end Unknowns
