import Unknowns.Property

/-! Pipelines: transforms in the order in which they are called, and what calling them comes to. -/

namespace Unknowns

variable {τ : Type} [Universe τ]

/-- Transforms one after the other, the one that is called first in front. -/
inductive Pipeline : τ → τ → Type
  | nil (type : τ) : Pipeline type type
  | cons {source middle target : τ} (first : Transform source middle)
      (rest : Pipeline middle target) : Pipeline source target

namespace Pipeline

/-- The names of the transforms in order. -/
def names : {source target : τ} → Pipeline source target → List String
  | _, _, .nil _ => []
  | _, _, .cons first rest => first.name :: rest.names

/-- The function composed of all transforms, which gives up where the first of them does. -/
def composed : {source target : τ} → Pipeline source target → Carrier source →
    Except Panic (Carrier target)
  | _, _, .nil _, content => .ok content
  | _, _, .cons first rest, content => first.run content >>= rest.composed

/-- The calls on a value: each transform on the result of the one before, up to the first panic. -/
def calls : {source target : τ} → Pipeline source target → Carrier source → List (Call τ)
  | _, _, .nil _, _ => []
  | source, _, .cons first rest, content =>
    ⟨first.name, ⟨source, content⟩⟩ ::
      match first.run content with
      | .ok reached => rest.calls reached
      -- After a panic nothing more is called.
      | .error _ => []

/-- How many transforms are called on a value: up to the first that panics, or all of them. -/
def reach : {source target : τ} → Pipeline source target → Carrier source → Nat
  | _, _, .nil _, _ => 0
  | _, _, .cons first rest, content =>
    match first.run content with
    | .ok reached => rest.reach reached + 1
    | .error _ => 1

/-- The calls on a value together with what they come to. -/
def run {source target : τ} (pipeline : Pipeline source target) (content : Carrier source) :
    Run target :=
  ⟨pipeline.calls content, pipeline.composed content⟩

/-- The pipeline with one more transform at its end. -/
def snoc : {source middle target : τ} → Pipeline source middle → Transform middle target →
    Pipeline source target
  | _, _, target, .nil _, last => .cons last (.nil target)
  | _, _, _, .cons first rest, last => .cons first (rest.snoc last)

/-- Two pipelines in a row. -/
def append : {source middle target : τ} → Pipeline source middle → Pipeline middle target →
    Pipeline source target
  | _, _, _, .nil _, later => later
  | _, _, _, .cons first rest, later => .cons first (rest.append later)

end Pipeline

/-- A run with one more call in front of its own. -/
def Run.behind {target : τ} (call : Call τ) (run : Run target) : Run target :=
  ⟨call :: run.calls, run.result⟩

variable {source middle target : τ}

/-- A call in front of a run does not touch what is called at its end. -/
theorem Run.andThen_behind (call : Call τ) (run : Run middle) (last : Transform middle target) :
    (run.behind call).andThen last = (run.andThen last).behind call := by
  simp only [andThen, behind]
  cases run.result <;> rfl

namespace Pipeline

/-- A pipeline without transforms has its value at once. -/
theorem run_nil (content : Carrier source) : (nil source).run content = Run.start content := rfl

/-- A pipeline calls its first transform, and goes on with the result if there is one. -/
theorem run_cons (first : Transform source middle) (rest : Pipeline middle target)
    (content : Carrier source) :
    (cons first rest).run content =
      match first.run content with
      | .ok reached => (rest.run reached).behind ⟨first.name, ⟨source, content⟩⟩
      | .error panic => ⟨[⟨first.name, ⟨source, content⟩⟩], .error panic⟩ := by
  simp only [run, calls, composed, Run.behind]
  cases first.run content <;> rfl

/-- A transform at the end is called after all others, and not at all when one of them panics. -/
theorem run_snoc (pipeline : Pipeline source middle) (last : Transform middle target)
    (content : Carrier source) :
    (pipeline.snoc last).run content = (pipeline.run content).andThen last := by
  -- The first call is the same on both sides, and the rest starts from what it reaches.
  induction pipeline with
  | nil type =>
    rw [snoc, run_cons, run_nil]
    simp only [Run.andThen, Run.start, List.nil_append]
    cases last.run content <;> rfl
  | cons first rest ih =>
    rw [snoc, run_cons, run_cons]
    cases first.run content with
    | error panic => rfl
    | ok reached =>
      dsimp only
      rw [ih, Run.andThen_behind]

/-- The transforms that are called are the first ones in order, up to the first that panics. -/
theorem calls_names (pipeline : Pipeline source target) (content : Carrier source) :
    (pipeline.calls content).map (·.transform) = pipeline.names.take (pipeline.reach content) := by
  -- Each transform adds one name, one call and one to the reach, until there is a panic.
  induction pipeline with
  | nil type => rfl
  | cons first rest ih =>
    simp only [calls, names, reach]
    cases first.run content with
    | error panic => simp
    | ok reached => simp [ih reached]

/-- Without a panic every transform is called. -/
theorem reach_of_ok (pipeline : Pipeline source target) {content : Carrier source}
    {result : Carrier target} (passed : pipeline.composed content = .ok result) :
    pipeline.reach content = pipeline.names.length := by
  induction pipeline with
  | nil type => rfl
  | cons first rest ih =>
    simp only [composed] at passed
    simp only [reach, names, List.length_cons]
    cases called : first.run content with
    | error panic =>
      rw [called] at passed
      cases passed
    | ok reached =>
      rw [called] at passed
      dsimp only
      rw [ih passed]

/-- A panic comes from one transform, which is called last, on what the ones before it reach. -/
theorem calls_of_error (pipeline : Pipeline source target) {content : Carrier source}
    {panic : Panic} (failed : pipeline.composed content = .error panic) :
    ∃ (middle next : τ) (before : Pipeline source middle) (transform : Transform middle next)
      (after : Pipeline next target) (reached : Carrier middle),
      pipeline = before.append (.cons transform after) ∧
        before.composed content = .ok reached ∧ transform.run reached = .error panic ∧
          pipeline.calls content =
            before.calls content ++ [⟨transform.name, ⟨middle, reached⟩⟩] := by
  -- Either the first transform panics, or the panic lies behind what it reaches.
  induction pipeline with
  | nil type => cases failed
  | @cons source middle target first rest ih =>
    simp only [composed] at failed
    cases called : first.run content with
    | error cause =>
      rw [called] at failed
      cases failed
      refine ⟨source, middle, .nil source, first, rest, content, rfl, rfl, called, ?_⟩
      simp only [calls, called, List.nil_append]
    | ok passed =>
      rw [called] at failed
      obtain ⟨_, _, before, transform, after, reached, split, passes, fails, made⟩ := ih failed
      refine ⟨_, _, .cons first before, transform, after, reached, ?_, ?_, fails, ?_⟩
      · rw [split, append]
      · simp only [composed, called]
        exact passes
      · simp only [calls, called, made, List.cons_append]

end Pipeline

end Unknowns
