import Unknowns.Proofs.Property.Pipeline

/-! Derivations: every way to a property from a variable, and what evaluating it amounts to. -/

namespace Unknowns

variable {τ : Type} [Universe τ]

/-- How a property was made from a variable at the type of a view, step by step. -/
inductive Derivation {source : τ} (v : Variable source) : τ → Type
  | property : Derivation v source
  | mapVariable {target : τ} (transform : Transform source target) : Derivation v target
  | map {middle target : τ} (earlier : Derivation v middle)
      (transform : Transform middle target) : Derivation v target
  | asProperty {target : τ} (earlier : Derivation v target) : Derivation v target
  | copy {target : τ} (earlier : Derivation v target) : Derivation v target

namespace Derivation

/-- The transforms that a derivation put behind its variable, in order. -/
def pipeline {source : τ} {v : Variable source} :
    {target : τ} → Derivation v target → Pipeline source target
  | _, .property => .nil source
  | target, .mapVariable transform => .cons transform (.nil target)
  | _, .map earlier transform => earlier.pipeline.snoc transform
  | _, .asProperty earlier => earlier.pipeline
  | _, .copy earlier => earlier.pipeline

variable [DecidableEq τ]

/-- The property that a derivation makes. -/
def build {source : τ} {v : Variable source} : {target : τ} → Derivation v target → Property target
  | _, .property => v.property
  | _, .mapVariable transform => v.map transform
  | _, .map earlier transform => earlier.build.map transform
  -- A property stands for itself, and a copy of it is the same property.
  | _, .asProperty earlier => earlier.build
  | _, .copy earlier => earlier.build

variable {source target : τ} {v : Variable source}

/-- A property keeps the variable that it was made from. -/
theorem build_handle (derivation : Derivation v target) : derivation.build.handle = v.erase := by
  induction derivation with
  | property => rfl
  | mapVariable transform => rfl
  | map earlier transform ih => exact ih
  | asProperty earlier ih => exact ih
  | copy earlier ih => exact ih

/-- A property keeps the name of the type that its variable was viewed at. -/
theorem build_sourceName (derivation : Derivation v target) :
    derivation.build.sourceName = Universe.name source := by
  induction derivation with
  | property => rfl
  | mapVariable transform => rfl
  | map earlier transform ih => exact ih
  | asProperty earlier ih => exact ih
  | copy earlier ih => exact ih

/-- A property reads its value at the source type once, and then runs its transforms in order. -/
theorem build_run? (derivation : Derivation v target) (value : Value τ) :
    derivation.build.run? value = (value.as? source).map derivation.pipeline.run := by
  -- What a step puts behind a property runs behind all that the property ran before.
  induction derivation with
  | property => rfl
  | mapVariable transform =>
    have single : (Pipeline.cons transform (.nil _)).run =
        fun content => (Run.start content).andThen transform := by
      funext content
      exact Pipeline.run_snoc (.nil source) transform content
    rw [pipeline, single]
    rfl
  | map earlier transform ih =>
    have last : (earlier.pipeline.snoc transform).run =
        fun content => (earlier.pipeline.run content).andThen transform := by
      funext content
      exact Pipeline.run_snoc earlier.pipeline transform content
    simp only [build, Property.map, pipeline]
    rw [ih, last, Option.map_map]
    rfl
  | asProperty earlier ih => exact ih
  | copy earlier ih => exact ih

/-- On a value of the source type a property evaluates to what its transforms come to. -/
theorem evaluate_build (derivation : Derivation v target) (content : Carrier source) :
    derivation.build.evaluate ⟨source, content⟩ =
      (derivation.pipeline.run content).evaluation := by
  simp [Property.evaluate, build_run?]

/-- On any other value a property calls nothing and names its variable and the type it needs. -/
theorem evaluate_build_of_ne (derivation : Derivation v target) {value : Value τ}
    (other : value.type ≠ source) :
    derivation.build.evaluate value =
      .faulty (.typeMismatch v.erase (Universe.name source)) := by
  simp [Property.evaluate, build_run?, Value.as?_of_ne other, Property.mismatch, build_handle,
    build_sourceName]

end Derivation

/-- On values of its source type, a property is the composition of its transforms, run in order. -/
structure Property.Composes [DecidableEq τ] {source target : τ} (property : Property target)
    (pipeline : Pipeline source target) : Prop where
  evaluate : ∀ content : Carrier source,
    property.evaluate ⟨source, content⟩ =
      ⟨pipeline.calls content, .ofResult (pipeline.composed content)⟩
  inOrder : ∀ content : Carrier source,
    (pipeline.calls content).map (·.transform) = pipeline.names.take (pipeline.reach content)
  complete : ∀ (content : Carrier source) (result : Carrier target),
    pipeline.composed content = .ok result → pipeline.reach content = pipeline.names.length
  -- What panics is called last, on what the transforms before it come to.
  stopped : ∀ (content : Carrier source) (panic : Panic),
    pipeline.composed content = .error panic →
      ∃ (middle next : τ) (before : Pipeline source middle) (transform : Transform middle next)
        (after : Pipeline next target) (reached : Carrier middle),
        pipeline = before.append (.cons transform after) ∧
          before.composed content = .ok reached ∧ transform.run reached = .error panic ∧
            pipeline.calls content =
              before.calls content ++ [⟨transform.name, ⟨middle, reached⟩⟩]
  atOnce : ∀ (v : Variable source) (name : String) (content : Carrier source),
    ((v.map ⟨name, pipeline.composed⟩).evaluate ⟨source, content⟩).outcome =
      (property.evaluate ⟨source, content⟩).outcome

/-- However a property is derived, it is the composition of the transforms put behind it. -/
theorem Derivation.build_composes [DecidableEq τ] {source target : τ} {v : Variable source}
    (derivation : Derivation v target) : derivation.build.Composes derivation.pipeline where
  evaluate content := derivation.evaluate_build content
  inOrder content := derivation.pipeline.calls_names content
  complete content result passed := derivation.pipeline.reach_of_ok passed
  stopped content panic failed := derivation.pipeline.calls_of_error failed
  atOnce w name content := by
    -- The composed function as a single transform is itself a pipeline.
    have single := (mapVariable (v := w) ⟨name, derivation.pipeline.composed⟩).evaluate_build
      content
    rw [build] at single
    rw [single, derivation.evaluate_build]
    simp only [Run.evaluation, Pipeline.run, pipeline, Pipeline.composed]
    cases derivation.pipeline.composed content <;> rfl

/-- A property looks at one type only: that of its source, before any of its transforms. -/
structure Property.ReadsAt [DecidableEq τ] {source target : τ} (property : Property target)
    (x : Handle) (pipeline : Pipeline source target) : Prop where
  handle : property.handle = x
  sourceName : property.sourceName = Universe.name source
  faultless : ∀ (content : Carrier source) (fault : Fault),
    (property.evaluate ⟨source, content⟩).outcome ≠ .fault fault
  valued : ∀ content : Carrier source,
    (∀ panic, pipeline.composed content ≠ .error panic) →
      ∃ result, (property.evaluate ⟨source, content⟩).outcome = .value result
  mismatched : ∀ value : Value τ, value.type ≠ source →
    property.evaluate value = .faulty (.typeMismatch x (Universe.name source))
  some_iff : ∀ (value : Value τ) (result : Carrier target),
    (∃ run, property.run? value = some run ∧ run.result = .ok result) ↔
      (property.evaluate value).outcome = .value result
  none_iff : ∀ value : Value τ,
    property.run? value = none ↔
      (property.evaluate value).outcome = .fault (.typeMismatch x (Universe.name source))

/--
However a property is derived from a variable, it looks at the type of the variable's view only.

The type that the variable was minted at, and the types between the transforms, play no part.
-/
theorem Derivation.build_readsAt [DecidableEq τ] {minted source target : τ} (x : Variable minted)
    (derivation : Derivation (x.erase.typed source) target) :
    derivation.build.ReadsAt x.erase derivation.pipeline where
  handle := derivation.build_handle
  sourceName := derivation.build_sourceName
  faultless content fault := by
    -- A value of the source type is run on, and only values that are not run on fault.
    intro faulted
    obtain ⟨unread, _⟩ := Property.evaluate_eq_fault_iff.mp faulted
    rw [build_run?, Value.as?_self] at unread
    cases unread
  valued content passed := by
    rw [evaluate_build]
    cases reached : derivation.pipeline.composed content with
    | error panic => exact absurd reached (passed panic)
    | ok result =>
      refine ⟨result, ?_⟩
      simp only [Run.evaluation, Pipeline.run, reached, Outcome.ofResult]
  mismatched value other := derivation.evaluate_build_of_ne other
  some_iff value result := Property.evaluate_eq_value_iff.symm
  none_iff value := by
    have named : derivation.build.mismatch = .typeMismatch x.erase (Universe.name source) := by
      rw [Property.mismatch, build_handle, build_sourceName]
      rfl
    rw [Property.evaluate_eq_fault_iff, named]
    simp

end Unknowns
