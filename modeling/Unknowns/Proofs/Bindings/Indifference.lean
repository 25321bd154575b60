import Unknowns.Proofs.Bindings.Observation
import Unknowns.Proofs.Bindings.Reading

/-! Stores that bind the same variables at the same types fail and succeed alike. -/

namespace Unknowns

variable {τ : Type} [Universe τ] {source target : τ}

/-- Two evaluations that no fault ends, and that call the same transform first, or none. -/
structure Evaluation.BeginAlike (first second : Evaluation target) : Prop where
  faultless : ∀ fault, first.outcome ≠ .fault fault
  alsoFaultless : ∀ fault, second.outcome ≠ .fault fault
  begun : first.calls.head?.map (·.transform) = second.calls.head?.map (·.transform)

namespace Pipeline

/-- The first transform is called on whatever value there is. -/
theorem head?_calls (pipeline : Pipeline source target) (content : Carrier source) :
    (pipeline.calls content).head?.map (·.transform) = pipeline.names.head? := by
  cases pipeline <;> rfl

/-- On any two values the same transforms are begun. -/
theorem beginAlike (pipeline : Pipeline source target) (content other : Carrier source) :
    (pipeline.run content).evaluation.BeginAlike (pipeline.run other).evaluation := by
  -- A run that has begun ends in a value or in a panic.
  have faultless : ∀ (content : Carrier source) (fault : Fault),
      (pipeline.run content).evaluation.outcome ≠ .fault fault := by
    intro content fault
    simp only [Run.evaluation, run]
    cases pipeline.composed content <;> simp [Outcome.ofResult]
  exact ⟨faultless content, faultless other,
    (pipeline.head?_calls content).trans (pipeline.head?_calls other).symm⟩

end Pipeline

namespace Bindings

/-- The bound variables with the types that they are bound at. -/
def types (store : Bindings τ) : List (Handle × τ) :=
  store.entries.map fun entry => (entry.1, entry.2.type)

/-- The bound variables are those that are bound at some type. -/
theorem handles_eq_types (store : Bindings τ) : store.handles = store.types.map Prod.fst := by
  simp only [handles, types, List.map_map, Function.comp_def]

/-- The type that a variable is bound at. -/
theorem map_type_get? (store : Bindings τ) (handle : Handle) :
    (store.get? handle).map (·.type) = store.types.lookup handle := by
  simp only [get?, types]
  induction store.entries with
  | nil => rfl
  | cons entry rest ih =>
    rw [List.map_cons, List.lookup_cons, List.lookup_cons]
    cases handle == entry.1
    · exact ih
    · rfl

/-- A binding adds its variable at the type of the view. -/
theorem types_of_bind {store larger : Bindings τ} {v : Variable source} {content : Carrier source}
    (bound : store.bind v content = .ok larger) :
    larger.types = (v.erase, source) :: store.types := by
  unfold bind at bound
  split at bound
  · cases bound
  · cases bound
    rfl

/-- An unbinding takes its variable away and leaves the others at their types. -/
theorem types_unbind {α : Type} [Identified α] (store : Bindings τ) (thing : α) :
    (store.unbind thing).2.types = store.types.filter (·.1 ≠ Identified.handle thing) := by
  simp only [types, unbind, List.filter_map]
  rfl

variable {first second : Bindings τ}

/-- The same variables are bound. -/
theorem handles_of_types (same : first.types = second.types) : first.handles = second.handles := by
  rw [handles_eq_types, handles_eq_types, same]

/-- The descriptions are the same. -/
theorem description_of_types (same : first.types = second.types) :
    first.description = second.description :=
  description_eq_iff.mpr fun handle => by rw [handles_of_types same]

/-- Bindings of a variable to any two values at its type fail or succeed alike. -/
theorem bind_alike (same : first.types = second.types) (v : Variable source)
    (content other : Carrier source) :
    (∃ fault, first.bind v content = .error fault ∧ second.bind v other = .error fault) ∨
      ∃ larger another, first.bind v content = .ok larger ∧ second.bind v other = .ok another ∧
        larger.types = another.types := by
  have listed : first.handles = second.handles := handles_of_types same
  -- The value plays no part in whether the variable is bound already.
  by_cases present : v.erase ∈ first.handles
  · exact .inl ⟨_, bind_of_mem present content, bind_of_mem (listed ▸ present) other⟩
  · obtain ⟨larger, bound⟩ := bind_of_not_mem present content
    obtain ⟨another, alsoBound⟩ := bind_of_not_mem (listed ▸ present) other
    refine .inr ⟨larger, another, bound, alsoBound, ?_⟩
    rw [types_of_bind bound, types_of_bind alsoBound, same]

variable [DecidableEq τ]

/-- A variable is read at a type in both stores, or in neither with the same fault. -/
theorem value_alike (same : first.types = second.types) (v : Variable source) :
    (∃ content other, first.value v = .ok content ∧ second.value v = .ok other) ∨
      ∃ fault, first.value v = .error fault ∧ second.value v = .error fault := by
  have typed : (first.get? v.erase).map (·.type) = (second.get? v.erase).map (·.type) := by
    rw [map_type_get?, map_type_get?, same]
  unfold value
  cases found : first.get? v.erase with
  | none =>
    -- What is unbound here is unbound there.
    rw [found, Option.map_none, eq_comm, Option.map_eq_none_iff] at typed
    rw [typed]
    exact .inr ⟨_, rfl, rfl⟩
  | some held =>
    rw [found, Option.map_some, eq_comm, Option.map_eq_some_iff] at typed
    obtain ⟨other, alsoFound, types⟩ := typed
    rw [alsoFound]
    dsimp only
    -- Both values are of the type of the view, or neither is.
    by_cases read : held.type = source
    · rcases held with ⟨type, content⟩
      rcases other with ⟨otherType, otherContent⟩
      cases read
      cases types
      rw [Value.as?_self, Value.as?_self]
      exact .inl ⟨content, otherContent, rfl, rfl⟩
    · rw [Value.as?_of_ne read, Value.as?_of_ne (types ▸ read)]
      exact .inr ⟨_, rfl, rfl⟩

/-- What is derived from a variable is begun in both stores, or faults alike in both. -/
theorem evaluate_alike (same : first.types = second.types) {v : Variable source}
    (derivation : Derivation v target) :
    first.evaluate derivation.build = second.evaluate derivation.build ∨
      (first.evaluate derivation.build).BeginAlike (second.evaluate derivation.build) := by
  -- An evaluation is one on the reading of the variable.
  rw [evaluate_build, evaluate_build]
  obtain ⟨content, other, read, alsoRead⟩ | ⟨fault, failed, alsoFailed⟩ := value_alike same v
  · rw [read, alsoRead]
    exact .inr (derivation.pipeline.beginAlike content other)
  · rw [failed, alsoFailed]
    exact .inl rfl

end Bindings

end Unknowns
