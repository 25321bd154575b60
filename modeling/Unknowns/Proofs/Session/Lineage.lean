import Mathlib.Data.List.Induction
import Unknowns.Proofs.Bindings.Observation
import Unknowns.Proofs.Session.Frame

/-! Lineage: a store answers as if only the calls on it and on its ancestors had been made. -/

namespace Unknowns

variable {τ : Type} [Universe τ]

namespace StoreRequest

variable [DecidableEq τ]

/-- What a call returns, and the store that it leaves. -/
def answer (store : Bindings τ) (request : StoreRequest τ) : Served τ × Bindings τ :=
  (request.serve store, (request.serve store).store)

end StoreRequest

namespace Bindings

variable [DecidableEq τ]

/-- What calls return that are made one after another on a new store, and the store they leave. -/
def alone (requests : List (StoreRequest τ)) : List (Served τ) × Bindings τ :=
  transcript StoreRequest.answer empty requests

/-- One more call is answered last, by the store that the calls before it left. -/
theorem alone_concat (requests : List (StoreRequest τ)) (request : StoreRequest τ) :
    alone (requests ++ [request]) =
      ((alone requests).1 ++ [request.serve (alone requests).2],
        (request.serve (alone requests).2).store) := by
  rw [alone, transcript_append]
  rfl

/-- Calls that do not touch a variable leave it bound to what the calls before them bound it to. -/
theorem get?_alone_append {handle : Handle} (common : List (StoreRequest τ))
    {own : List (StoreRequest τ)} (apart : ∀ request ∈ own, ¬ request.Touches handle) :
    (alone (common ++ own)).2.get? handle = (alone common).2.get? handle := by
  -- The calls are taken off from the last one to the first.
  induction own using List.reverseRecOn with
  | nil => rw [List.append_nil]
  | append_singleton earlier last ih =>
    have before : ∀ request ∈ earlier, ¬ request.Touches handle :=
      fun request member => apart request (List.mem_append_left _ member)
    have untouched : ¬ last.Touches handle := apart last (by simp)
    rw [← List.append_assoc, alone_concat, StoreRequest.get?_serve untouched]
    exact ih before

end Bindings

namespace Session

variable [DecidableEq τ]

section

variable (catalogue : Catalogue τ) (session : Session τ) (lineages : Scope (List (StoreRequest τ)))

/-- The calls behind each store after a call: only the store that is called has one more. -/
def lineagesAfterCall (command : Command τ) : Scope (List (StoreRequest τ)) :=
  match session.storeRequest? catalogue command with
  | none => lineages
  | some (store, request) =>
    match lineages store with
    | none => lineages
    | some requests => lineages.put store (requests ++ [request])

/-- The calls behind each store after a step; a copy has those of the store that it is made of. -/
def lineagesAfter : Command τ → Scope (List (StoreRequest τ))
  | .create _ name => lineages.put name []
  | .copyStore store name =>
    match lineages store with
    | none => lineages
    | some requests => lineages.put name requests
  | command => session.lineagesAfterCall catalogue lineages command

end

/-- The calls behind each store after all steps of a list of commands. -/
def lineages (catalogue : Catalogue τ) :
    Session τ → Scope (List (StoreRequest τ)) → List (Command τ) → Scope (List (StoreRequest τ))
  | _, known, [] => known
  | session, known, command :: rest =>
    lineages catalogue (session.step catalogue command).2
      (session.lineagesAfter catalogue known command) rest

/-- Every named store is what the calls behind it leave of a new store. -/
def Descends (session : Session τ) (known : Scope (List (StoreRequest τ))) : Prop :=
  session.stores.Follows (fun requests => (Bindings.alone requests).2) known

section

variable {catalogue : Catalogue τ} {session next : Session τ}
  {known : Scope (List (StoreRequest τ))}

/-- Only the named stores of a session are looked at. -/
theorem Descends.of_stores_eq (descends : session.Descends known)
    (same : next.stores = session.stores) : next.Descends known := by
  unfold Descends
  rw [same]
  exact descends

private theorem step_call_descends (descends : session.Descends known) {command : Command τ}
    (called : session.perform? catalogue command = session.callStore? catalogue command) :
    (session.step catalogue command).2.Descends
      (session.lineagesAfterCall catalogue known command) := by
  -- Where the call is refused, for want of a name or of the store, no lineage grows.
  unfold lineagesAfterCall
  cases found : session.storeRequest? catalogue command with
  | none =>
    have refused : session.perform? catalogue command = none := by
      rw [called, callStore?, found]
      rfl
    rw [step, refused]
    exact descends
  | some call =>
    obtain ⟨store, request⟩ := call
    cases behind : known store with
    | none =>
      simp only [behind]
      rw [step_of_storeRequest?_of_none found (descends.eq_none behind)]
      exact descends
    | some requests =>
      -- The store that the call leaves is what one call more leaves of a new store.
      obtain ⟨_, stores⟩ := step_of_storeRequest? found (descends.eq_some behind)
      have last : (request.serve (Bindings.alone requests).2).store =
          (Bindings.alone (requests ++ [request])).2 := by rw [Bindings.alone_concat]
      simp only [behind]
      rw [Descends, stores, last]
      exact descends.put store (requests ++ [request])

/-- A step keeps every store what the calls behind it leave of a new store. -/
theorem step_descends (descends : session.Descends known) (command : Command τ) :
    (session.step catalogue command).2.Descends
      (session.lineagesAfter catalogue known command) := by
  -- New stores, copies and calls are told apart; nothing else touches a store.
  cases command with
  | create capacity name =>
    -- The room that a store is created with is not seen in it.
    have fresh : Bindings.create capacity = (Bindings.alone ([] : List (StoreRequest τ))).2 := by
      cases capacity <;> rfl
    simp only [step, perform?, created]
    rw [fresh]
    exact descends.put name []
  | copyStore store name =>
    simp only [lineagesAfter]
    cases behind : known store with
    | none =>
      simp only [step, perform?, descends.eq_none behind]
      exact descends
    | some requests =>
      simp only [step, perform?, descends.eq_some behind]
      exact descends.put name requests
  | bind | unbind | isBound | value | evaluateIn | describeStore =>
    exact step_call_descends descends rfl
  | _ => exact descends.of_stores_eq ((step_keeps _ _).stores (by simp [Command.part]))

/-- A run keeps every store what the calls behind it leave of a new store. -/
theorem run_descends (catalogue : Catalogue τ) (descends : session.Descends known)
    (commands : List (Command τ)) :
    (session.run catalogue commands).2.Descends (lineages catalogue session known commands) := by
  -- A step on one store leaves the lineages of all others as they are.
  induction commands generalizing session known with
  | nil => exact descends
  | cons command rest ih => exact ih (step_descends descends command)

private theorem step_answered (descends : session.Descends known) {command : Command τ}
    {store : String} {request : StoreRequest τ} {requests : List (StoreRequest τ)}
    (found : session.storeRequest? catalogue command = some (store, request))
    (behind : known store = some requests) :
    (Bindings.alone (requests ++ [request])).1.getLast?.map served =
      some (session.step catalogue command).1 := by
  -- The store is what its own calls left, so the call is the last of them.
  obtain ⟨answered, _⟩ := step_of_storeRequest? found (descends.eq_some behind)
  rw [Bindings.alone_concat, answered]
  simp only [List.getLast?_append, List.getLast?_singleton, Option.some_or, Option.map_some]

private theorem step_unseen {command : Command τ} {store other : String} {request : StoreRequest τ}
    (found : session.storeRequest? catalogue command = some (store, request))
    (differ : other ≠ store) :
    (session.step catalogue command).2.stores other = session.stores other := by
  -- Carried out or refused, a call writes back to the name that it was made under.
  cases stored : session.stores store with
  | none =>
    rw [step_of_storeRequest?_of_none found stored]
    rfl
  | some bindings =>
    obtain ⟨_, stores⟩ := step_of_storeRequest? found stored
    rw [stores, Scope.put_of_ne differ]

/-- Stores with common calls behind them read alike what no other of their calls touches. -/
theorem Descends.reads_alike (descends : session.Descends known) {first second : String}
    {common own others : List (StoreRequest τ)} {type : τ} {v : Variable type}
    (left : known first = some (common ++ own)) (right : known second = some (common ++ others))
    (apart : ∀ request ∈ own ++ others, ¬ request.Touches v.erase) :
    ∃ one another, session.stores first = some one ∧ session.stores second = some another ∧
      one.value v = another.value v ∧
        ∀ {target : τ} (property : Property target), property.handle = v.erase →
          one.evaluate property = another.evaluate property := by
  -- Neither of the two lists of further calls changes what the common calls bound.
  have one := Bindings.get?_alone_append common fun request member =>
    apart request (List.mem_append_left others member)
  have another := Bindings.get?_alone_append common fun request member =>
    apart request (List.mem_append_right own member)
  have same := one.trans another.symm
  refine ⟨_, _, descends.eq_some left, descends.eq_some right, ?_, ?_⟩
  · rw [Bindings.value, Bindings.value, same]
  · intro target property of
    rw [Bindings.evaluate, Bindings.evaluate, of, same]

end

/-- The stores of a session do not interfere: each goes by the calls behind it alone. -/
structure Separate (catalogue : Catalogue τ) (session : Session τ)
    (known : Scope (List (StoreRequest τ))) : Prop where
  descends : session.Descends known
  answered : ∀ {command : Command τ} {store : String} {request : StoreRequest τ}
    {requests : List (StoreRequest τ)},
    session.storeRequest? catalogue command = some (store, request) →
      known store = some requests →
        (Bindings.alone (requests ++ [request])).1.getLast?.map served =
          some (session.step catalogue command).1
  unseen : ∀ {command : Command τ} {store other : String} {request : StoreRequest τ},
    session.storeRequest? catalogue command = some (store, request) → other ≠ store →
      (session.step catalogue command).2.stores other = session.stores other
  alike : ∀ {first second : String} {common own others : List (StoreRequest τ)} {type : τ}
    {v : Variable type},
    known first = some (common ++ own) → known second = some (common ++ others) →
      (∀ request ∈ own ++ others, ¬ request.Touches v.erase) →
        ∃ one another, session.stores first = some one ∧ session.stores second = some another ∧
          one.value v = another.value v ∧
            ∀ {target : τ} (property : Property target), property.handle = v.erase →
              one.evaluate property = another.evaluate property

/--
After any run of a session, each store goes by the calls on it and on its ancestors alone.

Stores are copied from one another at any moment, and called in any order.
-/
theorem run_separate (catalogue : Catalogue τ) (supply : Supply) (commands : List (Command τ)) :
    ((start supply).run catalogue commands).2.Separate catalogue
      (lineages catalogue (start supply) .empty commands) := by
  -- At the start there are no stores, and no calls behind any.
  have initial : (start supply).Descends (.empty : Scope (List (StoreRequest τ))) := fun _ => rfl
  have descends := run_descends catalogue initial commands
  exact {
    descends := descends
    answered := step_answered descends
    unseen := step_unseen
    alike := descends.reads_alike }

end Session

end Unknowns
