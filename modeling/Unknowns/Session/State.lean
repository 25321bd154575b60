import Unknowns.Bindings

/-! What a session remembers from one step to the next. -/

namespace Unknowns

/-- Named things. -/
def Scope (α : Type) := String → Option α

namespace Scope

variable {α : Type}

/-- No names at all. -/
def empty : Scope α := fun _ => none

/-- A thing gets a name, which whatever had it before loses. -/
def put (scope : Scope α) (name : String) (thing : α) : Scope α :=
  fun other => if other = name then some thing else scope other

/-- A name stands for what was put under it last. -/
@[simp] theorem put_same (scope : Scope α) (name : String) (thing : α) :
    scope.put name thing name = some thing := by
  simp [put]

/-- Other names keep what they stand for. -/
theorem put_of_ne {scope : Scope α} {name other : String} {thing : α} (differ : other ≠ name) :
    scope.put name thing other = scope other := by
  simp [put, differ]

end Scope

/-- The state of a session: the handles left, the named things, and how each step ended. -/
structure Session (τ : Type) [Universe τ] where
  supply : Supply
  views : Scope (SomeVariable τ)
  properties : Scope (SomeProperty τ)
  stores : Scope (Bindings τ)
  -- One entry per step, the first step first.
  faults : List (Option Fault)

namespace Session

variable {τ : Type} [Universe τ]

/-- A session before its first step, with the handles it may hand out. -/
def start (supply : Supply) : Session τ :=
  ⟨supply, .empty, .empty, .empty, []⟩

/-- The handle of a named variable. -/
def handle? (session : Session τ) (name : String) : Option Handle :=
  (session.views name).map fun named => named.view.handle

/-- The fault that a step ended at, counting steps from zero. -/
def faultOf? (session : Session τ) (step : Nat) : Option Fault :=
  (session.faults[step]?).join

/-- The session with one more named variable. -/
def putVariable (session : Session τ) (name : String) {type : τ} (v : Variable type) :
    Session τ :=
  { session with views := session.views.put name ⟨type, v⟩ }

/-- The session with one more named property. -/
def putProperty (session : Session τ) (name : String) (property : SomeProperty τ) : Session τ :=
  { session with properties := session.properties.put name property }

/-- The session with one more named store, or with another state of it. -/
def putStore (session : Session τ) (name : String) (store : Bindings τ) : Session τ :=
  { session with stores := session.stores.put name store }

end Session

end Unknowns
