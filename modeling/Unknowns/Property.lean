import Unknowns.Fault
import Unknowns.Variable

/-! Properties: transforms behind a variable, put off until a value of the variable is known. -/

namespace Unknowns

/-- A transform gave up on a value, with this message. -/
structure Panic where
  message : String
deriving DecidableEq

variable {τ : Type} [Universe τ]

/-- A named function between two value types, which may give up on some values. -/
structure Transform (source target : τ) where
  name : String
  run : Carrier source → Except Panic (Carrier target)

/-- A call of a transform: its name, and the value it was called on. -/
structure Call (τ : Type) [Universe τ] where
  transform : String
  input : Value τ

/-- What running transforms leaves: the calls in order, and the result of the last one. -/
structure Run (target : τ) where
  calls : List (Call τ)
  result : Except Panic (Carrier target)

namespace Run

variable {middle target : τ}

/-- A run that has its value without a call. -/
def start (content : Carrier target) : Run target := ⟨[], .ok content⟩

/-- The run with one more transform behind it. -/
def andThen (run : Run middle) (transform : Transform middle target) : Run target :=
  match run.result with
  -- After a panic nothing more is called.
  | .error panic => ⟨run.calls, .error panic⟩
  | .ok reached => ⟨run.calls ++ [⟨transform.name, ⟨middle, reached⟩⟩], transform.run reached⟩

end Run

/-- How an evaluation ends. -/
inductive Outcome (target : τ)
  | value (content : Carrier target)
  | fault (fault : Fault)
  | panic (panic : Panic)

/-- A result counts as an outcome without a fault. -/
def Outcome.ofResult {target : τ} : Except Panic (Carrier target) → Outcome target
  | .ok content => .value content
  | .error cause => .panic cause

/-- The end of an evaluation with the calls that it made. -/
structure Evaluation (target : τ) where
  calls : List (Call τ)
  outcome : Outcome target

/-- A run counts as an evaluation without a fault. -/
def Run.evaluation {target : τ} (run : Run target) : Evaluation target :=
  ⟨run.calls, .ofResult run.result⟩

/-- An evaluation that a fault kept from making any call. -/
def Evaluation.faulty {target : τ} (fault : Fault) : Evaluation target :=
  ⟨[], .fault fault⟩

/-- A value of the target type that is derived from a variable's value. -/
structure Property (target : τ) where
  handle : Handle
  sourceName : String
  -- Nothing is run on a value that is not of the source type.
  run? : Value τ → Option (Run target)

section

variable [DecidableEq τ] {source target : τ}

/-- A property that is made from a variable, by what is done first to the variable's value. -/
def Property.ofVariable (v : Variable source) (first : Carrier source → Run target) :
    Property target :=
  { handle := v.erase
    sourceName := Universe.name source
    -- The type of a value is looked at here and nowhere behind it.
    run? := fun bound => (bound.as? source).map first }

/-- The variable itself as a property: its value is taken over without a call. -/
def Variable.property (v : Variable source) : Property source :=
  .ofVariable v Run.start

/-- A variable with a transform behind it. -/
def Variable.map (v : Variable source) (transform : Transform source target) : Property target :=
  .ofVariable v fun content => (Run.start content).andThen transform

end

namespace Property

variable {middle target : τ}

/-- The property with one more transform behind it; nothing is called. -/
def map (property : Property middle) (transform : Transform middle target) : Property target :=
  -- The variable and the name of the source type stay those of the first property.
  { handle := property.handle
    sourceName := property.sourceName
    run? := fun bound => (property.run? bound).map fun run => run.andThen transform }

/-- The fault of a value that is not of the source type. -/
def mismatch (property : Property target) : Fault :=
  .typeMismatch property.handle property.sourceName

/-- Runs the transforms on a value of any type; nothing is kept for the next evaluation. -/
def evaluate (property : Property target) (value : Value τ) : Evaluation target :=
  match property.run? value with
  | some run => run.evaluation
  | none => .faulty property.mismatch

/-- A property has a value exactly when its transforms ran and came to it. -/
theorem evaluate_eq_value_iff {property : Property target} {value : Value τ}
    {result : Carrier target} :
    (property.evaluate value).outcome = .value result ↔
      ∃ run, property.run? value = some run ∧ run.result = .ok result := by
  unfold evaluate
  cases property.run? value with
  | none => simp [Evaluation.faulty]
  | some run =>
    rcases run with ⟨calls, reached⟩
    cases reached <;> simp [Run.evaluation, Outcome.ofResult]

/-- A property faults exactly on the values that it runs nothing on, and always alike. -/
theorem evaluate_eq_fault_iff {property : Property target} {value : Value τ} {fault : Fault} :
    (property.evaluate value).outcome = .fault fault ↔
      property.run? value = none ∧ fault = property.mismatch := by
  unfold evaluate
  cases property.run? value with
  | none => simp [Evaluation.faulty, eq_comm]
  | some run =>
    -- A run ends in a value or in a panic, never in a fault.
    rcases run with ⟨calls, reached⟩
    cases reached <;> simp [Run.evaluation, Outcome.ofResult]

end Property

/-- What is shown of a property: its variable and the names of its types, but no transforms. -/
structure PropertyDescription where
  handle : Handle
  sourceName : String
  targetName : String
deriving DecidableEq

/-- The description of a property. -/
def Property.description {target : τ} (property : Property target) : PropertyDescription :=
  ⟨property.handle, property.sourceName, Universe.name target⟩

/-- The layout of a property's description. -/
def PropertyDescription.outline (description : PropertyDescription) : Outline :=
  .record "Property"
    [("variable", .atom description.handle.text),
      ("source_type", .ofName description.sourceName),
      ("value_type", .ofName description.targetName)] false

/-- A property together with its target type. -/
structure SomeProperty (τ : Type) [Universe τ] where
  target : τ
  property : Property target

end Unknowns
