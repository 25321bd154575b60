import Mathlib.Data.Finset.Basic
import Mathlib.Data.List.Chain
import Unknowns.Bindings.Request

/-! The events of a store are its journal: from them alone follow its variables and their types. -/

namespace Unknowns

namespace Event

/-- Whether an event is about the binding of a variable. -/
def isChange : Event → Bool
  | .bound _ _ | .unbound _ => true
  | _ => false

/-- Whether a variable is bound after an event, if the event is about its binding. -/
def boundAfter? (handle : Handle) : Event → Option Bool
  | .bound other _ => if other = handle then some true else none
  | .unbound other => if other = handle then some false else none
  | _ => none

/-- The name of the type that a variable gets bound at by an event. -/
def boundType? (handle : Handle) : Event → Option String
  | .bound other type => if other = handle then some type else none
  | _ => none

/-- The bound variables after an event. -/
def replay (known : Finset Handle) : Event → Finset Handle
  | .bound handle _ => insert handle known
  | .unbound handle => known.erase handle
  | _ => known

/-- Whether a variable is bound: at first, and after every event about its binding. -/
def states (handle : Handle) (log : List Event) : List Bool :=
  false :: log.filterMap (boundAfter? handle)

variable {handle : Handle} {log events : List Event}

/-- Further events lead to further states. -/
theorem states_append :
    states handle (log ++ events) = states handle log ++ events.filterMap (boundAfter? handle) := by
  simp only [states, List.filterMap_append, List.cons_append]

/-- An event that is not about a binding is about no state and no type of a variable. -/
theorem told_of_quiet {event : Event} (quiet : event.isChange = false) (handle : Handle) :
    event.boundAfter? handle = none ∧ event.boundType? handle = none := by
  cases event with
  | bound | unbound => cases quiet
  | minted | derived => exact ⟨rfl, rfl⟩

/-- Events that are not about bindings are replayed without an effect. -/
theorem foldl_replay_of_quiet (quiet : ∀ event ∈ events, event.isChange = false)
    (known : Finset Handle) : events.foldl replay known = known := by
  induction events with
  | nil => rfl
  | cons event rest ih =>
    obtain ⟨first, later⟩ := List.forall_mem_cons.mp quiet
    have unchanged : replay known event = known := by
      cases event with
      | bound | unbound => cases first
      | minted | derived => rfl
    rw [List.foldl_cons, unchanged, ih later]

/-- Nor do they lead to another state or type of any variable. -/
theorem states_append_of_quiet (quiet : ∀ event ∈ events, event.isChange = false) :
    states handle (log ++ events) = states handle log ∧
      (log ++ events).filterMap (boundType? handle) = log.filterMap (boundType? handle) := by
  have stateless : events.filterMap (boundAfter? handle) = [] :=
    List.filterMap_eq_nil_iff.mpr fun event member => (told_of_quiet (quiet event member) handle).1
  have typeless : events.filterMap (boundType? handle) = [] :=
    List.filterMap_eq_nil_iff.mpr fun event member => (told_of_quiet (quiet event member) handle).2
  rw [states_append, List.filterMap_append, stateless, typeless, List.append_nil, List.append_nil]
  exact ⟨rfl, rfl⟩

end Event

variable {τ : Type} [Universe τ]

namespace Bindings

/-- The events of a log tell what is bound in a store, and the types it was bound at. -/
structure Journals (store : Bindings τ) (log : List Event) : Prop where
  -- No event repeats the state that its variable is in, and all variables are unbound at first.
  alternating : ∀ handle, (Event.states handle log).IsChain (· ≠ ·)
  settled : ∀ handle, (Event.states handle log).getLast? = some (store.isBound handle)
  replayed : log.foldl Event.replay ∅ = store.handles.toFinset
  typed : ∀ {handle : Handle} {held : Value τ}, store.get? handle = some held →
    (log.filterMap (Event.boundType? handle)).getLast? = some (Universe.name held.type)

/-- Unbinding a variable that is not bound leaves the store as it is. -/
theorem unbind_of_unbound {α : Type} [Identified α] {store : Bindings τ} {thing : α}
    (absent : store.isBound thing = false) : (store.unbind thing).2 = store := by
  have kept : store.entries.filter (·.1 ≠ Identified.handle thing) = store.entries := by
    refine List.filter_eq_self.mpr fun entry member => ?_
    have differ : entry.1 ≠ Identified.handle thing := by
      rintro same
      have present : Identified.handle thing ∈ store.handles :=
        same ▸ List.mem_map_of_mem member
      simp [isBound, present] at absent
    simpa using differ
  simp only [unbind, kept]

/-- A binding binds its own variable. -/
theorem isBound_of_bind {store larger : Bindings τ} {type : τ} {v : Variable type}
    {content : Carrier type} (made : store.bind v content = .ok larger) (other : Handle) :
    larger.isBound other = if v.erase = other then true else store.isBound other := by
  rw [isBound, handles_of_bind made]
  by_cases same : v.erase = other
  · simp [same, Identified.handle]
  · simp [same, @eq_comm _ other, isBound, Identified.handle]

/-- An unbinding unbinds its own variable. -/
theorem isBound_unbind {α : Type} [Identified α] (store : Bindings τ) (thing : α)
    (other : Handle) :
    (store.unbind thing).2.isBound other =
      if Identified.handle thing = other then false else store.isBound other := by
  rw [isBound, handles_unbind]
  by_cases same : Identified.handle thing = other
  · simp [← same, Identified.handle]
  · simp [same, @eq_comm _ other, isBound, Identified.handle]

namespace Journals

variable {store : Bindings τ} {log : List Event}

/-- Events that are not about bindings may be told at any moment. -/
theorem append_quiet (journals : store.Journals log) {events : List Event}
    (quiet : ∀ event ∈ events, event.isChange = false) : store.Journals (log ++ events) where
  alternating handle := by
    rw [(Event.states_append_of_quiet quiet).1]
    exact journals.alternating handle
  settled handle := by
    rw [(Event.states_append_of_quiet quiet).1]
    exact journals.settled handle
  replayed := by
    rw [List.foldl_append, Event.foldl_replay_of_quiet quiet]
    exact journals.replayed
  typed found := by
    rw [(Event.states_append_of_quiet quiet).2]
    exact journals.typed found

private theorem settle (journals : store.Journals log) {next : Bindings τ} (event : Event)
    {handle : Handle} {state : Bool}
    (told : ∀ other, event.boundAfter? other = if handle = other then some state else none)
    (changed : store.isBound handle ≠ state)
    (bound : ∀ other : Handle,
      next.isBound other = if handle = other then state else store.isBound other)
    (other : Handle) :
    (Event.states other (log ++ [event])).IsChain (· ≠ ·) ∧
      (Event.states other (log ++ [event])).getLast? = some (next.isBound other) := by
  have settled := journals.settled other
  rw [Event.states_append, bound other, List.filterMap_cons, told other]
  by_cases same : handle = other
  · -- The variable of the event gets into the state that it was not in.
    subst same
    simp only [if_true, List.filterMap_nil, List.getLast?_append, List.getLast?_singleton,
      Option.some_or, and_true]
    refine (journals.alternating handle).append (List.isChain_singleton state) ?_
    rw [settled]
    rintro _ ⟨⟩ _ ⟨⟩
    exact changed
  · simp only [if_neg same, List.filterMap_nil, List.append_nil]
    exact ⟨journals.alternating other, settled⟩

/-- A binding that is made is told next, with the type of its variable. -/
theorem append_bound (journals : store.Journals log) {larger : Bindings τ} {type : τ}
    {v : Variable type} {content : Carrier type} (made : store.bind v content = .ok larger) :
    larger.Journals (log ++ [.bound v.erase (Universe.name type)]) := by
  -- A variable that was bound before would have kept its binding.
  have absent : store.isBound v.erase ≠ true := by
    intro present
    have failed : store.bind v content = .error (.alreadyBound v.erase) :=
      bind_eq_error_iff.mpr ⟨of_decide_eq_true present, rfl⟩
    rw [made] at failed
    cases failed
  have settled := journals.settle (.bound v.erase (Universe.name type)) (fun _ => rfl)
    absent (isBound_of_bind made)
  refine ⟨fun other => (settled other).1, fun other => (settled other).2, ?_, ?_⟩
  · rw [List.foldl_append, journals.replayed, handles_of_bind made, List.toFinset_cons]
    rfl
  · -- Only the variable that was bound has another type than before.
    intro other held found
    rw [get?_of_bind made other] at found
    rw [List.filterMap_append, List.getLast?_append]
    by_cases same : other = v.erase
    · rw [if_pos same] at found
      cases found
      simp [Event.boundType?, same]
    · rw [if_neg same] at found
      simpa [Event.boundType?, Ne.symm same] using journals.typed found

/-- An unbinding that removes something is told next. -/
theorem append_unbound {α : Type} [Identified α] (journals : store.Journals log) {thing : α}
    (present : store.isBound thing = true) :
    (store.unbind thing).2.Journals (log ++ [.unbound (Identified.handle thing)]) := by
  have changed : store.isBound (Identified.handle thing) ≠ false := by
    have bound : store.isBound (Identified.handle thing) = true := present
    simp [bound]
  have settled := journals.settle (.unbound (Identified.handle thing)) (fun _ => rfl)
    changed (isBound_unbind store thing)
  refine ⟨fun other => (settled other).1, fun other => (settled other).2, ?_, ?_⟩
  · rw [List.foldl_append, journals.replayed, handles_unbind]
    ext other
    simp [Event.replay, and_comm]
  · -- What is still bound was bound by an earlier event.
    intro other held found
    rw [get?_unbind] at found
    by_cases same : other = Identified.handle thing
    · simp [same] at found
    · rw [if_neg same] at found
      simpa [Event.boundType?] using journals.typed found

/-- Whatever a store is called for, its events go on telling what is bound in it. -/
theorem serve [DecidableEq τ] (journals : store.Journals log) (request : StoreRequest τ) :
    (request.serve store).store.Journals (log ++ (request.serve store).events) := by
  -- Besides a binding that is made and an unbinding that removes, nothing is changed or told.
  have unchanged : store.Journals (log ++ []) :=
    journals.append_quiet fun _ member => absurd member List.not_mem_nil
  cases request with
  | change made =>
    cases made with
    | bind v content =>
      simp only [StoreRequest.serve, StoreChange.serve]
      cases made : store.bind v content with
      | error fault => exact unchanged
      | ok larger => exact journals.append_bound made
    | unbind mention =>
      have removed : (store.unbind mention).1 = store.isBound mention := rfl
      simp only [StoreRequest.serve, StoreChange.serve, removed]
      cases present : store.isBound mention with
      | false =>
        rw [unbind_of_unbound present]
        exact unchanged
      | true => exact journals.append_unbound present
  | value v =>
    simp only [StoreRequest.serve]
    cases store.value v <;> exact unchanged
  | evaluateVariable v =>
    refine journals.append_quiet fun event member => ?_
    rw [List.mem_singleton.mp member]
    rfl
  | isBound | evaluateProperty | describe => exact unchanged

variable [DecidableEq τ] {handle : Handle}

end Journals

end Bindings

end Unknowns
