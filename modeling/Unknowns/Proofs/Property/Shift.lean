import Unknowns.Bindings.Request
import Unknowns.Proofs.Handle.Shift
import Unknowns.Session.Catalogue

/-! Values, properties and transforms in which every handle is counted from a later start. -/

namespace Unknowns

/-- How the content of a value changes when all handles in it do. -/
class Shiftable (τ : Type) [Universe τ] where
  shiftContent : Nat → (type : τ) → Carrier type → Carrier type

export Shiftable (shiftContent)

/-- The same fault of a later handle; the type that was expected is the same. -/
def Fault.shift (offset : Nat) : Fault → Fault
  | .unbound handle => .unbound (handle.shift offset)
  | .alreadyBound handle => .alreadyBound (handle.shift offset)
  | .typeMismatch handle expected => .typeMismatch (handle.shift offset) expected

/-- The same event of a later handle. -/
def Event.shift (offset : Nat) : Event → Event
  | .minted handle type => .minted (handle.shift offset) type
  | .derived handle source target => .derived (handle.shift offset) source target
  | .bound handle type => .bound (handle.shift offset) type
  | .unbound handle => .unbound (handle.shift offset)

/-- The variable of the later handle at the same type. -/
def Variable.shift {τ : Type} {type : τ} (offset : Nat) (v : Variable type) : Variable type :=
  ⟨v.handle.shift offset⟩

/-- The same with a variable whose type goes with it. -/
def SomeVariable.shift {τ : Type} (offset : Nat) (named : SomeVariable τ) : SomeVariable τ :=
  ⟨named.type, named.view.shift offset⟩

/-- The same description of a later variable's property. -/
def PropertyDescription.shift (offset : Nat) (description : PropertyDescription) :
    PropertyDescription :=
  { description with handle := description.handle.shift offset }

/-- Faults are the same faults of later handles only if they were the same. -/
theorem Fault.shift_inj (offset : Nat) {left right : Fault} :
    left.shift offset = right.shift offset ↔ left = right := by
  -- Faults of different kinds stay different, and those of one kind differ by handle or type.
  cases left <;> cases right <;> simp [shift]

section

variable {τ : Type} [Universe τ] [Shiftable τ] (offset : Nat)

/-- The value with all its handles later. -/
def Value.shift (value : Value τ) : Value τ :=
  ⟨value.type, shiftContent offset value.type value.content⟩

/-- The same call on a value with later handles. -/
def Call.shift (call : Call τ) : Call τ :=
  ⟨call.transform, call.input.shift offset⟩

/-- The result with later handles; a panic is the same. -/
def shiftResult {target : τ} (result : Except Panic (Carrier target)) :
    Except Panic (Carrier target) :=
  result.map (shiftContent offset target)

/-- The same run on later handles. -/
def Run.shift {target : τ} (run : Run target) : Run target :=
  ⟨run.calls.map (·.shift offset), shiftResult offset run.result⟩

/-- The outcome with later handles. -/
def Outcome.shift {target : τ} : Outcome target → Outcome target
  | .value content => .value (shiftContent offset target content)
  | .fault cause => .fault (cause.shift offset)
  | .panic cause => .panic cause

/-- The same evaluation on later handles. -/
def Evaluation.shift {target : τ} (evaluation : Evaluation target) : Evaluation target :=
  ⟨evaluation.calls.map (·.shift offset), evaluation.outcome.shift offset⟩

/-- A later value is read at the types that it was read at. -/
theorem Value.as?_shift [DecidableEq τ] (value : Value τ) (type : τ) :
    (value.shift offset).as? type = (value.as? type).map (shiftContent offset type) := by
  -- A later value is of the type that it was of.
  by_cases same : value.type = type
  · obtain ⟨actual, content⟩ := value
    cases same
    rw [as?_self]
    exact as?_self _ _
  · rw [as?_of_ne same]
    exact as?_of_ne same

/-- A transform that does with later handles what another does with the handles themselves. -/
structure Transform.ShiftsTo {source target : τ} (first second : Transform source target) :
    Prop where
  name : second.name = first.name
  run : ∀ content : Carrier source,
    second.run (shiftContent offset source content) = shiftResult offset (first.run content)

/-- The same for transforms whose target is found with them. -/
inductive FoundTransform.ShiftsTo {source : τ} :
    FoundTransform source → FoundTransform source → Prop
  | mk {target : τ} {first second : Transform source target}
      (shifts : first.ShiftsTo offset second) : ShiftsTo ⟨target, first⟩ ⟨target, second⟩

/-- A property that does with later handles what another does with the handles themselves. -/
structure Property.ShiftsTo {target : τ} (first second : Property target) : Prop where
  handle : second.handle = first.handle.shift offset
  sourceName : second.sourceName = first.sourceName
  run? : ∀ value : Value τ,
    second.run? (value.shift offset) = (first.run? value).map (·.shift offset)

/-- The same for properties whose target goes with them. -/
inductive SomeProperty.ShiftsTo : SomeProperty τ → SomeProperty τ → Prop
  | mk {target : τ} {first second : Property target} (shifts : first.ShiftsTo offset second) :
      ShiftsTo ⟨target, first⟩ ⟨target, second⟩

/-- What is given from outside, with later handles. -/
def Argument.shift (argument : Argument τ) : Argument τ := fun type =>
  (argument type).map (shiftContent offset type)

/-- A catalogue whose transforms tell handles apart, and order them, but see no more of them. -/
def Catalogue.Uniform (catalogue : Catalogue τ) : Prop :=
  -- A later argument stands for a transform that does with later values what the other one does.
  ∀ (name : String) (argument : Argument τ) (source : τ),
    Option.Rel (FoundTransform.ShiftsTo offset) (catalogue.find? name argument source)
      (catalogue.find? name (argument.shift offset) source)

section

variable {offset} {middle target : τ}

/-- What is made of a value is made of the later value. -/
theorem Run.andThen_shift {first second : Transform middle target}
    (shifts : first.ShiftsTo offset second) (run : Run middle) :
    (run.shift offset).andThen second = (run.andThen first).shift offset := by
  rcases run with ⟨calls, result⟩
  cases result with
  | error panic =>
    -- Behind a panic nothing is called in either run.
    rfl
  | ok reached =>
    -- The call itself is one on a later value.
    simp only [shift, andThen, shiftResult, Except.map, shifts.name, shifts.run,
      List.map_append]
    rfl

/-- Later runs come to later values, or to the same panics. -/
theorem Run.evaluation_shift (run : Run target) :
    (run.shift offset).evaluation = run.evaluation.shift offset := by
  rcases run with ⟨calls, result⟩
  cases result <;> rfl

namespace Property

variable {first second : Property middle}

/-- Related properties behind related transforms are related. -/
theorem ShiftsTo.map (shifts : first.ShiftsTo offset second)
    {transform later : Transform middle target} (shifted : transform.ShiftsTo offset later) :
    (first.map transform).ShiftsTo offset (second.map later) where
  handle := shifts.handle
  sourceName := shifts.sourceName
  run? value := by
    simp only [Property.map, shifts.run?, Option.map_map]
    -- The transforms before it ran on both sides or on neither, so the runs are compared.
    refine congrArg (Option.map · _) ?_
    funext run
    exact run.andThen_shift shifted

/-- Related properties evaluate to the same, but for what is later. -/
theorem ShiftsTo.evaluate (shifts : first.ShiftsTo offset second) (value : Value τ) :
    second.evaluate (value.shift offset) = (first.evaluate value).shift offset := by
  have mismatch : second.mismatch = first.mismatch.shift offset := by
    rw [Property.mismatch, shifts.handle, shifts.sourceName]
    rfl
  simp only [Property.evaluate, shifts.run?]
  cases first.run? value with
  | none =>
    -- Nothing is run on a value of another type, and the fault names the later variable.
    dsimp only [Option.map_none]
    rw [mismatch]
    rfl
  | some run => exact run.evaluation_shift

/-- Their descriptions tell of the same types. -/
theorem ShiftsTo.description (shifts : first.ShiftsTo offset second) :
    second.description = first.description.shift offset := by
  simp only [Property.description, shifts.handle, shifts.sourceName]
  rfl

/-- Their derivations are heard of alike. -/
theorem ShiftsTo.derivedEvent (shifts : first.ShiftsTo offset second) :
    second.derivedEvent = first.derivedEvent.shift offset := by
  simp only [Property.derivedEvent, shifts.handle, shifts.sourceName]
  rfl

end Property

variable [DecidableEq τ] {source : τ}

/-- A later variable begins what a variable begins, if both begin the same. -/
theorem Property.shiftsTo_ofVariable (v : Variable source)
    {begun later : Carrier source → Run target}
    (same : ∀ content, later (shiftContent offset source content) = (begun content).shift offset) :
    (Property.ofVariable v begun).ShiftsTo offset (Property.ofVariable (v.shift offset) later) where
  handle := rfl
  sourceName := rfl
  run? value := by
    simp only [Property.ofVariable, Value.as?_shift, Option.map_map]
    -- What is left is what is done first to a content of the source type.
    refine congrArg (Option.map · _) ?_
    funext content
    exact same content

/-- A later variable is a later property. -/
theorem Variable.property_shiftsTo (v : Variable source) :
    v.property.ShiftsTo offset (v.shift offset).property :=
  Property.shiftsTo_ofVariable v fun _ => rfl

/-- So is a later variable with a related transform behind it. -/
theorem Variable.map_shiftsTo (v : Variable source) {transform later : Transform source target}
    (shifts : transform.ShiftsTo offset later) :
    (v.map transform).ShiftsTo offset ((v.shift offset).map later) :=
  Property.shiftsTo_ofVariable v fun content => (Run.start content).andThen_shift shifts

end

end

end Unknowns
