import Unknowns.Proofs.Bindings.Reading
import Unknowns.Proofs.Session.Ancestry
import Unknowns.Proofs.Session.Aside

/-! In a session, stores read and evaluate alike, and an evaluation is not noticed afterwards. -/

namespace Unknowns

/-- What is put under a name again under its own name changes nothing. -/
theorem Scope.put_self {α : Type} {scope : Scope α} {name : String} {thing : α}
    (found : scope name = some thing) : scope.put name thing = scope := by
  funext other
  by_cases same : other = name
  · rw [same, put_same, found]
  · rw [put_of_ne same]

variable {τ : Type} [Universe τ]

namespace Session

/-- The session with other faults remembered. -/
def withFaults (session : Session τ) (faults : List (Option Fault)) : Session τ :=
  { session with faults }

section

variable [DecidableEq τ] (session : Session τ) (faults : List (Option Fault))
  {catalogue : Catalogue τ} {command : Command τ}

private theorem callStore?_withFaults (command : Command τ) :
    (session.withFaults faults).callStore? catalogue command =
      (session.callStore? catalogue command).map fun made =>
        (made.1, made.2.withFaults faults) := by
  have found : (session.withFaults faults).storeRequest? catalogue command =
      session.storeRequest? catalogue command :=
    storeRequest?_among session session.stores faults command
  rw [callStore?, found, callStore?]
  cases session.storeRequest? catalogue command with
  | none => rfl
  | some call =>
    have stored : (session.withFaults faults).stores call.1 = session.stores call.1 := rfl
    simp only [Option.bind_eq_bind, Option.bind_some, serve?, stored]
    cases session.stores call.1 <;> rfl

private theorem perform?_withFaults (forgets : command.recalls = false) :
    (session.withFaults faults).perform? catalogue command =
      (session.perform? catalogue command).map fun made =>
        (made.1, made.2.withFaults faults) := by
  by_cases aside : command.part = .stores
  · -- A command for stores finds them as they were.
    cases command with
    | create => rfl
    | copyStore store name =>
      have found : (session.withFaults faults).stores = session.stores := rfl
      simp only [perform?, found]
      cases session.stores store <;> rfl
    | bind | unbind | isBound | value | evaluateIn | describeStore =>
      exact callStore?_withFaults session faults _
    | _ => cases aside
  · have unrecalled : command.recalls = true → faults = session.faults := by
      intro recalls
      rw [forgets] at recalls
      cases recalls
    have performed : (session.among session.stores faults).perform? catalogue command = _ :=
      perform?_among session session.stores faults aside unrecalled
    cases held : session.perform? catalogue command with
    | none =>
      rw [held] at performed
      exact performed
    | some made =>
      -- What is carried out leaves the stores that it did not look at.
      have kept : made.2.stores = session.stores := (perform?_keeps held).stores aside
      have same : made.2.among session.stores faults = made.2.withFaults faults := by
        rw [← kept]
        rfl
      rw [held, Option.map_some, same] at performed
      exact performed

private theorem step_withFaults (catalogue : Catalogue τ) (forgets : command.recalls = false) :
    ∃ others, (session.withFaults faults).step catalogue command =
      ((session.step catalogue command).1,
        (session.step catalogue command).2.withFaults others) := by
  unfold step
  rw [perform?_withFaults session faults forgets]
  -- The fault of the step itself is added behind those that are remembered.
  cases session.perform? catalogue command with
  | none => exact ⟨_, rfl⟩
  | some made => exact ⟨_, rfl⟩

/-- Commands that do not recall faults are answered whatever faults are remembered. -/
theorem run_withFaults (catalogue : Catalogue τ) {commands : List (Command τ)}
    (forget : ∀ command ∈ commands, command.recalls = false) :
    ((session.withFaults faults).run catalogue commands).1 =
      (session.run catalogue commands).1 := by
  -- The remembered faults stay apart, but nothing else does.
  induction commands generalizing session faults with
  | nil => rfl
  | cons command rest ih =>
    obtain ⟨first, later⟩ := List.forall_mem_cons.mp forget
    obtain ⟨others, stepped⟩ := step_withFaults session faults catalogue first
    simp only [run]
    rw [stepped, ih _ _ later]

end

section

variable [DecidableEq τ] {catalogue : Catalogue τ} {session : Session τ}

/-- An evaluation in a store leaves a session as it was, but for the fault it may have ended at. -/
theorem step_evaluateIn_withFaults (catalogue : Catalogue τ) (session : Session τ)
    (store : String) (origin : Origin) :
    ∃ faults, (session.step catalogue (.evaluateIn store origin)).2 =
      session.withFaults faults := by
  have performed : session.perform? catalogue (.evaluateIn store origin) =
      session.callStore? catalogue (.evaluateIn store origin) := rfl
  rw [step, performed]
  cases held : session.callStore? catalogue (.evaluateIn store origin) with
  | none => exact ⟨_, rfl⟩
  | some made =>
    obtain ⟨name, request, bindings, found, stored, _, next⟩ := callStore?_eq_some held
    -- The call is an evaluation, so the store that is put back is the one that was called.
    have same : (request.serve bindings).store = bindings := by
      rcases origin with source | source
      · obtain ⟨named, _, resolved⟩ := Option.bind_eq_some_iff.mp found
        cases resolved
        rfl
      · obtain ⟨property, _, resolved⟩ := Option.bind_eq_some_iff.mp found
        cases resolved
        rfl
    rw [same, putStore, Scope.put_self stored] at next
    simp only [record, next]
    exact ⟨_, rfl⟩

/-- A variable that is evaluated in a store is answered as it is answered by its value. -/
private theorem step_evaluateIn_variable (catalogue : Catalogue τ) (session : Session τ)
    (store source : String) :
    (session.step catalogue (.evaluateIn store (.variable source))).1.reply =
        (session.step catalogue (.value store source)).1.reply ∧
      (session.step catalogue (.evaluateIn store (.variable source))).1.calls = [] := by
  cases viewed : session.valued? catalogue source with
  | none => simp [step, perform?, callStore?, storeRequest?, viewed, refuse, record]
  | some named =>
    have evaluation : session.storeRequest? catalogue (.evaluateIn store (.variable source)) =
        some (store, .evaluateVariable named.view) := by
      simp only [storeRequest?, viewed]
      rfl
    have reading : session.storeRequest? catalogue (.value store source) =
        some (store, .value named.view) := by
      simp only [storeRequest?, viewed]
      rfl
    cases stored : session.stores store with
    | none =>
      -- Without the store both are refused.
      rw [step_of_storeRequest?_of_none evaluation stored,
        step_of_storeRequest?_of_none reading stored]
      exact ⟨rfl, rfl⟩
    | some bindings =>
      have bare := (bindings.readsAlike named.view).bare
      rw [(step_of_storeRequest? evaluation stored).1, (step_of_storeRequest? reading stored).1]
      simp only [served, bare]
      simp only [StoreRequest.serve]
      cases bindings.value named.view <;> exact ⟨rfl, rfl⟩

private theorem step_evaluateIn_property {known : Scope (SomeDerivation τ)}
    (traced : session.Traces known) {store name : String} {bindings : Bindings τ}
    {derivation : SomeDerivation τ} (stored : session.stores store = some bindings)
    (derived : known name = some derivation) :
    (session.step catalogue (.evaluateIn store (.property name))).1 =
      evaluated (derivation.derivation.pipeline.evaluationOf (bindings.value derivation.v))
        [] := by
  have named := traced.eq_some derived
  have found : session.storeRequest? catalogue (.evaluateIn store (.property name)) =
      some (store, .evaluateProperty derivation.derivation.build) := by
    simp only [storeRequest?, named]
    rfl
  rw [(step_of_storeRequest? found stored).1, ← bindings.evaluate_build]
  rfl

end

/-- In a session, readings and evaluations agree, and evaluations leave no trace in the stores. -/
structure ReadsAlike [DecidableEq τ] (catalogue : Catalogue τ) (session : Session τ)
    (known : Scope (SomeDerivation τ)) : Prop where
  stores : ∀ {name : String} {bindings : Bindings τ}, session.stores name = some bindings →
    ∀ {type : τ} (v : Variable type), bindings.ReadsAlike v
  bare : ∀ store source : String,
    (session.step catalogue (.evaluateIn store (.variable source))).1.reply =
        (session.step catalogue (.value store source)).1.reply ∧
      (session.step catalogue (.evaluateIn store (.variable source))).1.calls = []
  derived : ∀ {store name : String} {bindings : Bindings τ} {derivation : SomeDerivation τ},
    session.stores store = some bindings → known name = some derivation →
      (session.step catalogue (.evaluateIn store (.property name))).1 =
        evaluated (derivation.derivation.pipeline.evaluationOf (bindings.value derivation.v)) []
  -- Whatever the evaluation comes to, a panic included, all stores are as they were.
  kept : ∀ (store : String) (origin : Origin),
    (session.step catalogue (.evaluateIn store origin)).2.stores = session.stores
  later : ∀ (store : String) (origin : Origin) {commands : List (Command τ)},
    (∀ command ∈ commands, command.recalls = false) →
      ((session.step catalogue (.evaluateIn store origin)).2.run catalogue commands).1 =
        (session.run catalogue commands).1

/--
Reading a variable in a store and evaluating what is derived from it agree, fault for fault.

This holds after any run of a session, in every store, for every view of every variable, and for
every property that is derived from the view.
-/
theorem run_readsAlike [DecidableEq τ] (catalogue : Catalogue τ) (supply : Supply)
    (commands : List (Command τ)) :
    ((start supply).run catalogue commands).2.ReadsAlike catalogue
      (ancestry catalogue (start supply) .empty commands) := by
  -- At the start there are no properties, and no ancestry either.
  have initial : (start supply).Traces (.empty : Scope (SomeDerivation τ)) := fun _ => rfl
  have traced := run_traces catalogue initial commands
  refine ⟨?_, step_evaluateIn_variable catalogue _, step_evaluateIn_property traced, ?_, ?_⟩
  · intro _ bindings _ _ v
    exact bindings.readsAlike v
  · intro store origin
    obtain ⟨faults, left⟩ := step_evaluateIn_withFaults catalogue _ store origin
    rw [left]
    rfl
  · intro store origin later forget
    obtain ⟨faults, left⟩ := step_evaluateIn_withFaults catalogue _ store origin
    rw [left]
    exact run_withFaults _ faults catalogue forget

end Session

end Unknowns
