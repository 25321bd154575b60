import Mathlib.Logic.Function.Iterate
import Unknowns.Proofs.Property.Derivation
import Unknowns.Proofs.Session.Frame

/-! Ancestry: how each named property of a session was derived, and what its evaluations come to. -/

namespace Unknowns

variable {τ : Type} [Universe τ]

/-- A derivation together with its variable and its types. -/
structure SomeDerivation (τ : Type) [Universe τ] where
  source : τ
  v : Variable source
  target : τ
  derivation : Derivation v target

namespace SomeDerivation

/-- The derivation with its property taken as a property once more. -/
def asProperty (known : SomeDerivation τ) : SomeDerivation τ :=
  ⟨known.source, known.v, known.target, known.derivation.asProperty⟩

/-- The derivation with its property copied. -/
def copy (known : SomeDerivation τ) : SomeDerivation τ :=
  ⟨known.source, known.v, known.target, known.derivation.copy⟩

/-- The derivation with one more transform behind it. -/
def map (known : SomeDerivation τ) (found : FoundTransform known.target) : SomeDerivation τ :=
  ⟨known.source, known.v, found.target, known.derivation.map found.transform⟩

variable [DecidableEq τ]

/-- The property that a derivation makes, together with its type. -/
def build (known : SomeDerivation τ) : SomeProperty τ :=
  ⟨known.target, known.derivation.build⟩

/-- What an evaluation comes to: the transforms in order, on values of the source type only. -/
def evaluation (known : SomeDerivation τ) (value : Value τ) : Evaluation known.target :=
  match value.as? known.source with
  | some content =>
    ⟨known.derivation.pipeline.calls content,
      .ofResult (known.derivation.pipeline.composed content)⟩
  | none => .faulty (.typeMismatch known.v.erase (Universe.name known.source))

/-- What an evaluation in a store comes to: one on the value that the variable is bound to. -/
def evaluationIn (known : SomeDerivation τ) (bindings : Bindings τ) : Evaluation known.target :=
  match bindings.get? known.v.erase with
  | some bound => known.evaluation bound
  | none => .faulty (.unbound known.v.erase)

/-- A property evaluates to what its derivation says. -/
theorem evaluate_build (known : SomeDerivation τ) (value : Value τ) :
    known.build.property.evaluate value = known.evaluation value := by
  unfold evaluation
  cases read : value.as? known.source with
  | none => exact known.derivation.evaluate_build_of_ne (Value.as?_eq_none_iff.mp read)
  | some content =>
    rw [Value.as?_eq_some_iff.mp read]
    exact known.derivation.evaluate_build content

/-- A store evaluates a property to what its derivation says. -/
theorem evaluateIn_build (known : SomeDerivation τ) (bindings : Bindings τ) :
    bindings.evaluate known.build.property = known.evaluationIn bindings := by
  have made : known.build.property.handle = known.v.erase := known.derivation.build_handle
  rw [Bindings.evaluate, made, evaluationIn]
  cases bindings.get? known.v.erase with
  | none => rfl
  | some bound => exact known.evaluate_build bound

/-- Taking a property as a property, however often, makes no other property of it. -/
theorem build_iterate_asProperty (times : Nat) (known : SomeDerivation τ) :
    (asProperty^[times] known).build = known.build := by
  induction times generalizing known with
  | zero => rfl
  | succ times ih =>
    rw [Function.iterate_succ_apply, ih]
    rfl

end SomeDerivation

namespace Session

variable [DecidableEq τ]

section

variable (catalogue : Catalogue τ) (session : Session τ) (known : Scope (SomeDerivation τ))

/-- How the property that an origin stands for was derived. -/
def originAncestry? : Origin → Option (SomeDerivation τ)
  | .variable name => (session.valued? catalogue name).map fun named =>
    ⟨named.type, named.view, named.type, .property⟩
  | .property name => (known name).map .asProperty

/-- A derivation with the named transform behind it, if the type has one. -/
def mapAncestry? (transform : String) (argument : Reading τ) (derivation : SomeDerivation τ) :
    Option (SomeDerivation τ) :=
  (catalogue.find? transform (argument session.handle?) derivation.target).map derivation.map

/-- How what an origin stands for is derived with the named transform behind it. -/
def mapOriginAncestry? (transform : String) (argument : Reading τ) :
    Origin → Option (SomeDerivation τ)
  | .variable name => do
    let named ← session.valued? catalogue name
    let found ← catalogue.find? transform (argument session.handle?) named.type
    return ⟨named.type, named.view, found.target, .mapVariable found.transform⟩
  | .property name => do
    session.mapAncestry? catalogue transform argument (← known name)

/-- A derivation with the named transform behind it a number of times. -/
def mapTimesAncestry? (transform : String) (argument : Reading τ) :
    Nat → SomeDerivation τ → Option (SomeDerivation τ)
  | 0, derivation => some derivation
  | times + 1, derivation => do
    mapTimesAncestry? transform argument times
      (← session.mapAncestry? catalogue transform argument derivation)

/-- The name that a command gives to a property, and how the property is derived. -/
def derivedBy? : Command τ → Option (String × SomeDerivation τ)
  | .derive origin (times + 1) name => do
    let first ← session.originAncestry? catalogue known origin
    return (name, SomeDerivation.asProperty^[times] first)
  | .map origin transform argument (times + 1) name => do
    let first ← session.mapOriginAncestry? catalogue known transform argument origin
    return (name, ← session.mapTimesAncestry? catalogue transform argument times first)
  | .copyProperty property name => do
    return (name, (← known property).copy)
  | _ => none

/-- How the named properties are derived after a step. -/
def ancestryAfter (command : Command τ) : Scope (SomeDerivation τ) :=
  match session.derivedBy? catalogue known command with
  | some (name, derivation) => known.put name derivation
  | none => known

end

/-- How the named properties are derived after all steps of a list of commands. -/
def ancestry (catalogue : Catalogue τ) :
    Session τ → Scope (SomeDerivation τ) → List (Command τ) → Scope (SomeDerivation τ)
  | _, known, [] => known
  | session, known, command :: rest =>
    ancestry catalogue (session.step catalogue command).2
      (session.ancestryAfter catalogue known command) rest

/-- Every named property is the one that its own derivation makes. -/
def Traces (session : Session τ) (known : Scope (SomeDerivation τ)) : Prop :=
  session.properties.Follows SomeDerivation.build known

section

variable {catalogue : Catalogue τ} {session : Session τ} {known : Scope (SomeDerivation τ)}

private theorem originProperty?_eq (traced : session.Traces known) (origin : Origin) :
    session.originProperty? catalogue origin =
      (session.originAncestry? catalogue known origin).map SomeDerivation.build := by
  -- A variable is looked up alike on both sides, and a property by what it is known to be.
  match origin with
  | .variable name =>
    rw [originProperty?, originAncestry?, Option.map_map]
    rfl
  | .property name =>
    rw [originProperty?, originAncestry?, Option.map_map]
    exact traced name

private theorem mapOnce?_build (transform : String) (argument : Reading τ)
    (derivation : SomeDerivation τ) :
    session.mapOnce? catalogue transform argument derivation.build =
      (session.mapAncestry? catalogue transform argument derivation).map
        SomeDerivation.build := by
  -- The type that the transform is looked up for is that of the derived property.
  rw [mapOnce?, mapAncestry?, Option.map_map]
  rfl

private theorem mapTimes?_build (transform : String) (argument : Reading τ) (times : Nat)
    (derivation : SomeDerivation τ) :
    session.mapTimes? catalogue transform argument times derivation.build =
      (session.mapTimesAncestry? catalogue transform argument times derivation).map
        SomeDerivation.build := by
  -- Each transform is put behind what the ones before it were put behind.
  induction times generalizing derivation with
  | zero => rfl
  | succ times ih =>
    simp only [mapTimes?, mapTimesAncestry?, mapOnce?_build]
    cases session.mapAncestry? catalogue transform argument derivation with
    | none => rfl
    | some next => exact ih next

private theorem mapOrigin?_eq (traced : session.Traces known) (transform : String)
    (argument : Reading τ) (origin : Origin) :
    session.mapOrigin? catalogue transform argument origin =
      (session.mapOriginAncestry? catalogue known transform argument origin).map
        SomeDerivation.build := by
  -- Only behind a variable itself is the first transform put in another way.
  match origin with
  | .variable name =>
    simp only [mapOrigin?, mapOriginAncestry?]
    cases session.valued? catalogue name with
    | none => rfl
    | some named =>
      simp only [Option.bind_eq_bind, Option.bind_some]
      cases catalogue.find? transform (argument session.handle?) named.type with
      | none => rfl
      | some found => rfl
  | .property name =>
    simp only [mapOrigin?, mapOriginAncestry?, traced name]
    cases known name with
    | none => rfl
    | some derivation => exact mapOnce?_build transform argument derivation

variable {command : Command τ} {response : Response τ} {next : Session τ}

private theorem perform?_of_derivedBy? (traced : session.Traces known) {name : String}
    {derivation : SomeDerivation τ}
    (derived : session.derivedBy? catalogue known command = some (name, derivation)) :
    ∃ response,
      session.perform? catalogue command =
        some (response, session.putProperty name derivation.build) := by
  -- Deriving and mapping no times at all derives nothing, so there is a first time.
  match command with
  | .derive origin 0 _ => cases derived
  | .derive origin (times + 1) _ =>
    obtain ⟨first, found, made⟩ := Option.bind_eq_some_iff.mp derived
    cases made
    -- Whatever is taken as a property more than once is the same property.
    rw [SomeDerivation.build_iterate_asProperty]
    simp [perform?, derive?, originProperty?_eq traced, found, done]
  | .map origin transform argument 0 _ => cases derived
  | .map origin transform argument (times + 1) _ =>
    obtain ⟨first, found, rest⟩ := Option.bind_eq_some_iff.mp derived
    obtain ⟨last, reached, made⟩ := Option.bind_eq_some_iff.mp rest
    cases made
    simp [perform?, map?, mapOrigin?_eq traced, found, mapTimes?_build, reached, done]
  | .copyProperty property _ =>
    obtain ⟨first, found, made⟩ := Option.bind_eq_some_iff.mp derived
    cases made
    simp only [perform?, traced.eq_some found]
    exact ⟨_, rfl⟩

private theorem properties_of_derivedBy?_eq_none (traced : session.Traces known)
    (underived : session.derivedBy? catalogue known command = none)
    (held : session.perform? catalogue command = some (response, next)) :
    next.properties = session.properties := by
  by_cases other : command.part = .properties
  · -- A derivation that is carried out has an origin, whose own derivation is known.
    cases command with
    | derive origin times name =>
      cases times with
      | zero => cases held
      | succ times =>
        obtain ⟨property, found, _⟩ := Option.bind_eq_some_iff.mp held
        rw [originProperty?_eq traced, Option.map_eq_some_iff] at found
        obtain ⟨derivation, rooted, _⟩ := found
        simp [derivedBy?, rooted] at underived
    | map origin transform argument times name =>
      cases times with
      | zero => cases held
      | succ times =>
        obtain ⟨first, found, rest⟩ := Option.bind_eq_some_iff.mp held
        rw [mapOrigin?_eq traced, Option.map_eq_some_iff] at found
        obtain ⟨derivation, rooted, rfl⟩ := found
        rw [mapTimes?_build] at rest
        cases reached : session.mapTimesAncestry? catalogue transform argument times
            derivation with
        | none =>
          -- A transform further on is unknown, and nothing gets a name.
          rw [reached] at rest
          cases rest
          rfl
        | some last => simp [derivedBy?, rooted, reached] at underived
    | copyProperty property name =>
      obtain ⟨found, named, _⟩ := Option.bind_eq_some_iff.mp held
      rw [traced property, Option.map_eq_some_iff] at named
      obtain ⟨derivation, rooted, _⟩ := named
      simp [derivedBy?, rooted] at underived
    | _ => cases other
  · exact (perform?_keeps held).properties other

/-- A step keeps every named property the one that its own derivation makes. -/
theorem step_traces (traced : session.Traces known) (command : Command τ) :
    (session.step catalogue command).2.Traces
      (session.ancestryAfter catalogue known command) := by
  -- A command that derives puts the property and its derivation under the same name.
  unfold step ancestryAfter
  cases derived : session.derivedBy? catalogue known command with
  | some made =>
    obtain ⟨response, performed⟩ := perform?_of_derivedBy? traced derived
    rw [performed]
    exact Scope.Follows.put traced made.1 made.2
  | none =>
    cases held : session.perform? catalogue command with
    | none => exact traced
    | some performed =>
      have kept := properties_of_derivedBy?_eq_none traced derived held
      unfold Traces record
      rw [kept]
      exact traced

/-- A run keeps every named property the one that its own derivation makes. -/
theorem run_traces (catalogue : Catalogue τ) (traced : session.Traces known)
    (commands : List (Command τ)) :
    (session.run catalogue commands).2.Traces
      (ancestry catalogue session known commands) := by
  -- Steps for other properties, and evaluations in between, are steps like any other.
  induction commands generalizing session known with
  | nil => exact traced
  | cons command rest ih => exact ih (step_traces traced command)

/-- What an evaluation of a named property is answered by, as the ancestry of the name says. -/
def evaluationResponse (catalogue : Catalogue τ) (session : Session τ)
    (known : Scope (SomeDerivation τ)) (name : String) (type : τ) (input : Reading τ) :
    Response τ :=
  match known name, session.read? catalogue input type with
  | some derivation, some value => evaluated (derivation.evaluation value) []
  | _, _ => { reply := .refused }

private theorem step_evaluate (catalogue : Catalogue τ) (traced : session.Traces known)
    (name : String) (type : τ) (input : Reading τ) :
    ∃ faults, session.step catalogue (.evaluate name type input) =
      (session.evaluationResponse catalogue known name type input, { session with faults }) := by
  -- A property that is not known, or an input that cannot be read, is refused.
  have named := traced name
  unfold evaluationResponse
  simp only [step, perform?, ask?, answer?, named]
  cases known name with
  | none => exact ⟨_, rfl⟩
  | some derivation =>
    cases session.read? catalogue input type with
    | none => exact ⟨_, rfl⟩
    | some value =>
      dsimp only
      rw [← derivation.evaluate_build value]
      exact ⟨_, rfl⟩

/-- Evaluations one after another are answered each from the ancestry of its own property. -/
theorem run_evaluations (traced : session.Traces known)
    (asked : List (String × τ × Reading τ)) :
    (session.run catalogue
        (asked.map fun (name, type, input) => .evaluate name type input)).1 =
      asked.map fun (name, type, input) =>
        session.evaluationResponse catalogue known name type input := by
  -- The faults that a session remembers are not looked at by its evaluations.
  induction asked generalizing session with
  | nil => rfl
  | cons first rest ih =>
    obtain ⟨name, type, input⟩ := first
    obtain ⟨faults, stepped⟩ := step_evaluate catalogue traced name type input
    simp only [List.map_cons, run]
    rw [stepped]
    have next : Traces { session with faults } known := traced
    rw [ih next]
    rfl

private theorem step_evaluateIn (catalogue : Catalogue τ) (traced : session.Traces known)
    {store name : String} {bindings : Bindings τ} {derivation : SomeDerivation τ}
    (stored : session.stores store = some bindings) (derived : known name = some derivation) :
    (session.step catalogue (.evaluateIn store (.property name))).1 =
      evaluated (derivation.evaluationIn bindings) [] := by
  have named := traced.eq_some derived
  have found : session.storeRequest? catalogue (.evaluateIn store (.property name)) =
      some (store, .evaluateProperty derivation.build.property) := by
    simp only [storeRequest?, named]
    rfl
  rw [(step_of_storeRequest? found stored).1, ← derivation.evaluateIn_build]
  rfl

end

/-- In a session, transforms are only run by evaluations, each of which runs all of its own. -/
structure Deferred (catalogue : Catalogue τ) (session : Session τ)
    (known : Scope (SomeDerivation τ)) : Prop where
  derived : session.Traces known
  uncalled : ∀ command : Command τ, command.evaluates = false →
    (session.step catalogue command).1.calls = []
  -- The same evaluation may be asked for any number of times, with others in between.
  direct : ∀ asked : List (String × τ × Reading τ),
    (session.run catalogue
        (asked.map fun (name, type, input) => .evaluate name type input)).1 =
      asked.map fun (name, type, input) =>
        session.evaluationResponse catalogue known name type input
  stored : ∀ {store name : String} {bindings : Bindings τ} {derivation : SomeDerivation τ},
    session.stores store = some bindings → known name = some derivation →
      (session.step catalogue (.evaluateIn store (.property name))).1 =
        evaluated (derivation.evaluationIn bindings) []

/--
Every derivation makes the composition of its transforms, which is run when it is evaluated.

After any run of a session, each named property is the one that its own derivation makes, whatever
was derived from it or from its ancestors, and whatever was evaluated in between.
-/
theorem run_deferred (catalogue : Catalogue τ) (supply : Supply) (commands : List (Command τ)) :
    (∀ derivation : SomeDerivation τ,
        derivation.build.property.Composes derivation.derivation.pipeline) ∧
      ((start supply).run catalogue commands).2.Deferred catalogue
        (ancestry catalogue (start supply) .empty commands) := by
  -- At the start there are no properties, and no ancestry either.
  have initial : (start supply).Traces (.empty : Scope (SomeDerivation τ)) := fun _ => rfl
  have traced := run_traces catalogue initial commands
  refine ⟨fun derivation => derivation.derivation.build_composes, ?_⟩
  exact {
    derived := traced
    uncalled := fun command other => step_calls _ command other
    direct := run_evaluations traced
    stored := step_evaluateIn catalogue traced }

end Session

end Unknowns
