import Unknowns.Bindings.Request
import Unknowns.Proofs.Property.Derivation

/-! A store reads a variable's value and evaluates what is derived from the variable alike. -/

namespace Unknowns

variable {τ : Type} [Universe τ] {source target : τ}

/-- The evaluation that takes a reading over as it is, without a call. -/
def Evaluation.ofReading : Except Fault (Carrier source) → Evaluation source
  | .error fault => .faulty fault
  | .ok content => (Run.start content).evaluation

namespace Pipeline

/-- What a pipeline comes to on a reading; nothing is called on a fault. -/
def evaluationOf (pipeline : Pipeline source target) :
    Except Fault (Carrier source) → Evaluation target
  | .error fault => .faulty fault
  | .ok content => (pipeline.run content).evaluation

/-- Without transforms a reading is taken over as it is. -/
theorem evaluationOf_nil (reading : Except Fault (Carrier source)) :
    (nil source).evaluationOf reading = .ofReading reading := by
  cases reading <;> rfl

/-- A pipeline comes to a fault exactly on the reading that failed with it. -/
theorem evaluationOf_eq_fault_iff {pipeline : Pipeline source target}
    {reading : Except Fault (Carrier source)} {fault : Fault} :
    (pipeline.evaluationOf reading).outcome = .fault fault ↔ reading = .error fault := by
  cases reading with
  | error cause => simp [evaluationOf, Evaluation.faulty]
  | ok content =>
    -- Transforms come to a value or to a panic.
    simp only [evaluationOf, Run.evaluation, run]
    cases pipeline.composed content <;> simp [Outcome.ofResult]

end Pipeline

namespace Bindings

variable [DecidableEq τ] {v : Variable source}

/-- Evaluating what is derived from a variable comes to its transforms on the variable's value. -/
theorem evaluate_build (store : Bindings τ) (derivation : Derivation v target) :
    store.evaluate derivation.build = derivation.pipeline.evaluationOf (store.value v) := by
  -- Both look the variable up first and at the type of what it is bound to second.
  unfold evaluate value
  rw [derivation.build_handle]
  cases store.get? v.erase with
  | none => rfl
  | some bound =>
    dsimp only
    cases read : bound.as? source with
    | none => exact derivation.evaluate_build_of_ne (Value.as?_eq_none_iff.mp read)
    | some content =>
      rw [Value.as?_eq_some_iff.mp read]
      exact derivation.evaluate_build content

/-- Reading a variable and evaluating what is derived from it agree, fault for fault. -/
structure ReadsAlike (store : Bindings τ) (v : Variable source) : Prop where
  faults : ∀ fault : Fault, store.value v = .error fault →
    fault = .unbound v.erase ∨ fault = .typeMismatch v.erase (Universe.name source)
  bare : ((StoreRequest.evaluateVariable v).serve store).result =
    .evaluation (.ofReading (store.value v))
  -- The variable's own property, however often it is copied or taken as a property again.
  plain : ∀ derivation : Derivation v source, derivation.pipeline = .nil source →
    store.evaluate derivation.build = .ofReading (store.value v)
  faulty_iff : ∀ {target : τ} (derivation : Derivation v target) (fault : Fault),
    (store.evaluate derivation.build).outcome = .fault fault ↔ store.value v = .error fault
  uncalled : ∀ {target : τ} (derivation : Derivation v target) (fault : Fault),
    (store.evaluate derivation.build).outcome = .fault fault →
      (store.evaluate derivation.build).calls = []
  composed : ∀ {target : τ} (derivation : Derivation v target) (content : Carrier source),
    store.value v = .ok content →
      store.evaluate derivation.build =
        ⟨derivation.pipeline.calls content,
          .ofResult (derivation.pipeline.composed content)⟩

/-- Whatever a store holds, and at whatever type a variable is viewed, the two agree. -/
theorem readsAlike (store : Bindings τ) (v : Variable source) : store.ReadsAlike v where
  faults fault failed := by
    rcases value_eq_error_iff.mp failed with ⟨_, unbound⟩ | ⟨_, _, _, mismatched⟩
    · exact .inl unbound
    · exact .inr mismatched
  bare := by
    have plain := store.evaluate_build (.property : Derivation v source)
    rw [Derivation.pipeline, Pipeline.evaluationOf_nil, Derivation.build] at plain
    simp only [StoreRequest.serve, plain]
  plain derivation untransformed := by
    rw [evaluate_build, untransformed, Pipeline.evaluationOf_nil]
  faulty_iff derivation fault := by
    rw [evaluate_build, Pipeline.evaluationOf_eq_fault_iff]
  uncalled derivation fault faulted := by
    rw [evaluate_build] at faulted ⊢
    rw [Pipeline.evaluationOf_eq_fault_iff.mp faulted]
    rfl
  composed derivation content read := by
    rw [evaluate_build, read]
    rfl

end Bindings

end Unknowns
