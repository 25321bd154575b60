import Unknowns.Session.Step

/-! What a step of a session leaves alone: all parts but the one that its command is for. -/

namespace Unknowns

namespace Scope

variable {α β : Type} {scope : Scope α} {known : Scope β} {made : β → α} {name : String}

/-- Every name stands for what is made of what it stands for in another scope. -/
def Follows (scope : Scope α) (made : β → α) (known : Scope β) : Prop :=
  ∀ name, scope name = (known name).map made

/-- A name of the one scope is a name of the other. -/
theorem Follows.eq_some (follows : scope.Follows made known) {thing : β}
    (found : known name = some thing) : scope name = some (made thing) := by
  rw [follows name, found]
  rfl

/-- What is no name of the one scope is none of the other. -/
theorem Follows.eq_none (follows : scope.Follows made known) (unknown : known name = none) :
    scope name = none := by
  rw [follows name, unknown]
  rfl

/-- A thing may be put under a name together with what it is made of. -/
theorem Follows.put (follows : scope.Follows made known) (name : String) (thing : β) :
    (scope.put name (made thing)).Follows made (known.put name thing) := by
  intro other
  by_cases same : other = name
  · subst same
    rw [put_same, put_same]
    rfl
  · rw [put_of_ne same, put_of_ne same]
    exact follows other

end Scope

variable {τ : Type} [Universe τ]

/-- The parts of a session that its commands are for. -/
inductive Part
  | variables
  | properties
  | stores
  | nothing
deriving DecidableEq

namespace Command

/-- The part of a session that a command may change. -/
def part : Command τ → Part
  | .mint _ _ | .mintSeveral _ _ | .mintOnThreads _ _ | .view _ _ _ => .variables
  | .derive _ _ _ | .map _ _ _ _ _ | .copyProperty _ _ => .properties
  | .create _ _ | .copyStore _ _ | .bind _ _ _ | .unbind _ _ | .isBound _ _ | .value _ _
  | .evaluateIn _ _ | .describeStore _ => .stores
  | _ => .nothing

/-- Whether a command runs the transforms of a property. -/
def evaluates : Command τ → Bool
  | .evaluate _ _ _ | .apply _ _ _ | .evaluateEach _ _ _ | .evaluateIn _ _ => true
  | _ => false

end Command

namespace Session

variable {session next : Session τ} {response : Response τ}

/-- A session after another one that differs from it in one part at most. -/
structure Keeps (part : Part) (session next : Session τ) : Prop where
  supply : part ≠ .variables → next.supply = session.supply
  views : part ≠ .variables → next.views = session.views
  properties : part ≠ .properties → next.properties = session.properties
  stores : part ≠ .stores → next.stores = session.stores

namespace Keeps

variable {part : Part}

/-- Nothing changes for a session that stays. -/
theorem refl (part : Part) (session : Session τ) : Keeps part session session :=
  ⟨fun _ => rfl, fun _ => rfl, fun _ => rfl, fun _ => rfl⟩

/-- Two changes of the same part change that part only. -/
theorem trans {last : Session τ} (first : Keeps part session next)
    (later : Keeps part next last) : Keeps part session last where
  supply other := (later.supply other).trans (first.supply other)
  views other := (later.views other).trans (first.views other)
  properties other := (later.properties other).trans (first.properties other)
  stores other := (later.stores other).trans (first.stores other)

/-- Another supply and other views are changes of the variables. -/
theorem of_variables (supply : Supply) (views : Scope (SomeVariable τ)) :
    Keeps .variables session { session with supply, views } where
  supply other := absurd rfl other
  views other := absurd rfl other
  properties _ := rfl
  stores _ := rfl

/-- A named property is a change of the properties. -/
theorem putProperty (name : String) (property : SomeProperty τ) :
    Keeps .properties session (session.putProperty name property) where
  supply _ := rfl
  views _ := rfl
  properties other := absurd rfl other
  stores _ := rfl

/-- A named store is a change of the stores. -/
theorem putStore (name : String) (store : Bindings τ) :
    Keeps .stores session (session.putStore name store) where
  supply _ := rfl
  views _ := rfl
  properties _ := rfl
  stores other := absurd rfl other

end Keeps

/-- A minting changes the variables only. -/
theorem mint_keeps (name : Option String) (type : τ) :
    Keeps .variables session (session.mint name type).2 := by
  cases name with
  | none => exact .of_variables _ session.views
  | some name => exact .of_variables _ _

/-- So do several mintings. -/
theorem mintSeveral_keeps (types : List τ) (names : List String) :
    Keeps .variables session (session.mintSeveral types names).2.2 := by
  -- Each minting starts from the session that the one before it left.
  induction types generalizing session names with
  | nil => exact .refl _ _
  | cons type rest ih => exact (mint_keeps names.head? type).trans (ih names.tail)

private theorem derive?_eq_some [DecidableEq τ] {catalogue : Catalogue τ} {origin : Origin}
    {times : Nat} {name : String}
    (held : session.derive? catalogue origin times name = some (response, next)) :
    ∃ property, next = session.putProperty name property ∧ response.calls = [] := by
  -- A derivation made no times at all is refused.
  cases times with
  | zero => cases held
  | succ times =>
    obtain ⟨property, _, made⟩ := Option.bind_eq_some_iff.mp held
    cases made
    exact ⟨property, rfl, rfl⟩

private theorem map?_eq_some [DecidableEq τ] {catalogue : Catalogue τ} {origin : Origin}
    {transform : String} {argument : Reading τ} {times : Nat} {name : String}
    (held : session.map? catalogue origin transform argument times name = some (response, next)) :
    (next = session ∨ ∃ property, next = session.putProperty name property) ∧
      response.calls = [] := by
  -- The first transform is looked up apart from the others, so its lookup comes off first.
  cases times with
  | zero => cases held
  | succ times =>
    obtain ⟨first, _, rest⟩ := Option.bind_eq_some_iff.mp held
    cases last : session.mapTimes? catalogue transform argument times first with
    | none =>
      -- A transform further on was unknown, and the name keeps what it stood for.
      rw [last] at rest
      cases rest
      exact ⟨.inl rfl, rfl⟩
    | some property =>
      rw [last] at rest
      cases rest
      exact ⟨.inr ⟨property, rfl⟩, rfl⟩

private theorem ask?_keeps {catalogue : Catalogue τ} {command : Command τ}
    (held : session.ask? catalogue command = some (response, next)) :
    Keeps .nothing session next := by
  -- The session is handed back as it came in.
  obtain ⟨answer, _, made⟩ := Option.map_eq_some_iff.mp held
  cases made
  exact .refl _ _

private theorem served_calls {made : Served τ}
    (other : ∀ {target : τ} (evaluation : Evaluation target), made.result ≠ .evaluation evaluation) :
    (served made).calls = [] := by
  -- Only an evaluation has calls to list.
  rcases made with ⟨result, events, store⟩
  cases result with
  | evaluation evaluation => exact absurd rfl (other evaluation)
  | bound | truth | value | description | fault => rfl

private theorem answer?_calls {catalogue : Catalogue τ} {command : Command τ}
    (held : session.answer? catalogue command = some response)
    (other : command.evaluates = false) : response.calls = [] := by
  -- What is left are questions about names, which end in an answer without calls.
  cases command with
  | evaluate | apply | evaluateEach => cases other
  | inspect | sort | describeProperty | describeFault =>
    obtain ⟨_, _, made⟩ := Option.bind_eq_some_iff.mp held
    cases made
    rfl
  | compare | label | compareFaults =>
    obtain ⟨_, _, rest⟩ := Option.bind_eq_some_iff.mp held
    obtain ⟨_, _, made⟩ := Option.bind_eq_some_iff.mp rest
    cases made
    rfl
  | _ => cases held

variable [DecidableEq τ] {catalogue : Catalogue τ} {command : Command τ}

/-- A call that is carried out is made on a known store, which is left as the call leaves it. -/
theorem callStore?_eq_some
    (held : session.callStore? catalogue command = some (response, next)) :
    ∃ store request bindings,
      session.storeRequest? catalogue command = some (store, request) ∧
        session.stores store = some bindings ∧ response = served (request.serve bindings) ∧
          next = session.putStore store (request.serve bindings).store := by
  obtain ⟨⟨store, request⟩, found, called⟩ := Option.bind_eq_some_iff.mp held
  obtain ⟨bindings, stored, made⟩ := Option.bind_eq_some_iff.mp called
  cases made
  exact ⟨store, request, bindings, found, stored, rfl, rfl⟩

private theorem callStore?_keeps
    (held : session.callStore? catalogue command = some (response, next)) :
    Keeps .stores session next := by
  -- A call that is made at all ends in putting its own store back under its name.
  obtain ⟨store, request, bindings, _, _, _, rfl⟩ := callStore?_eq_some held
  exact .putStore _ _

/-- What is carried out changes no other part than that of its command. -/
theorem perform?_keeps (held : session.perform? catalogue command = some (response, next)) :
    Keeps command.part session next := by
  -- Every command ends in one change of its part, or in none when it only asks.
  cases command with
  | mint name type =>
    cases held
    exact mint_keeps (some name) type
  | mintSeveral types names =>
    cases held
    exact mintSeveral_keeps types names
  | mintOnThreads threads each =>
    cases held
    exact .of_variables _ session.views
  | view source type name =>
    obtain ⟨handle, _, made⟩ := Option.bind_eq_some_iff.mp held
    cases made
    exact .of_variables session.supply _
  | derive origin times name =>
    obtain ⟨property, rfl, _⟩ := derive?_eq_some held
    exact .putProperty _ _
  | map origin transform argument times name =>
    obtain ⟨rfl | ⟨property, rfl⟩, _⟩ := map?_eq_some held
    · exact .refl _ _
    · exact .putProperty _ _
  | copyProperty property name =>
    obtain ⟨found, _, made⟩ := Option.bind_eq_some_iff.mp held
    cases made
    exact .putProperty _ _
  | create capacity name =>
    cases held
    exact .putStore _ _
  | copyStore store name =>
    obtain ⟨found, _, made⟩ := Option.bind_eq_some_iff.mp held
    cases made
    exact .putStore _ _
  | bind | unbind | isBound | value | evaluateIn | describeStore => exact callStore?_keeps held
  | inspect | compare | sort | label | describeProperty | evaluate | apply | evaluateEach
  | describeFault | compareFaults => exact ask?_keeps held

/-- A step changes no other part than that of its command; its fault is remembered beside them. -/
theorem step_keeps (session : Session τ) (command : Command τ) :
    Keeps command.part session (session.step catalogue command).2 := by
  unfold step
  -- A refused command leaves everything but its fault.
  cases held : session.perform? catalogue command with
  | none => exact ⟨fun _ => rfl, fun _ => rfl, fun _ => rfl, fun _ => rfl⟩
  | some made =>
    obtain ⟨supply, views, properties, stores⟩ := perform?_keeps held
    exact ⟨supply, views, properties, stores⟩

private theorem storeRequest?_result {store : String} {request : StoreRequest τ}
    {bindings : Bindings τ}
    (found : session.storeRequest? catalogue command = some (store, request))
    (other : command.evaluates = false) {target : τ} (evaluation : Evaluation target) :
    (request.serve bindings).result ≠ .evaluation evaluation := by
  -- Each command resolves to one kind of call, and each kind has its own results.
  cases command with
  | evaluateIn store origin => cases other
  | bind store source reading =>
    obtain ⟨named, _, read⟩ := Option.bind_eq_some_iff.mp found
    obtain ⟨content, _, made⟩ := Option.bind_eq_some_iff.mp read
    cases made
    simp only [StoreRequest.serve, StoreChange.serve]
    cases bindings.bind named.view content <;> simp
  | unbind store source =>
    obtain ⟨named, _, made⟩ := Option.bind_eq_some_iff.mp found
    cases made
    simp [StoreRequest.serve, StoreChange.serve]
  | isBound store source =>
    obtain ⟨named, _, made⟩ := Option.bind_eq_some_iff.mp found
    cases made
    simp [StoreRequest.serve]
  | value store source =>
    obtain ⟨named, _, made⟩ := Option.bind_eq_some_iff.mp found
    cases made
    simp only [StoreRequest.serve]
    cases bindings.value named.view <;> simp
  | describeStore store =>
    cases found
    simp [StoreRequest.serve]
  | _ => cases found

private theorem callStore?_calls
    (held : session.callStore? catalogue command = some (response, next))
    (other : command.evaluates = false) : response.calls = [] := by
  obtain ⟨store, request, bindings, found, _, rfl, _⟩ := callStore?_eq_some held
  exact served_calls fun evaluation => storeRequest?_result found other evaluation

private theorem perform?_calls (held : session.perform? catalogue command = some (response, next))
    (other : command.evaluates = false) : response.calls = [] := by
  -- Commands that put something under a name and commands that call a store are left.
  cases command with
  | evaluate | apply | evaluateEach | evaluateIn => cases other
  | mint | mintSeveral | mintOnThreads | create =>
    cases held
    rfl
  | derive =>
    obtain ⟨_, _, uncalled⟩ := derive?_eq_some held
    exact uncalled
  | map =>
    obtain ⟨_, uncalled⟩ := map?_eq_some held
    exact uncalled
  | view | copyProperty | copyStore =>
    obtain ⟨found, _, made⟩ := Option.bind_eq_some_iff.mp held
    cases made
    rfl
  | bind | unbind | isBound | value | describeStore => exact callStore?_calls held other
  | inspect | compare | sort | label | describeProperty | describeFault | compareFaults =>
    obtain ⟨answer, found, made⟩ := Option.map_eq_some_iff.mp held
    cases made
    exact answer?_calls found other

/-- A step calls transforms only if its command evaluates. -/
theorem step_calls (session : Session τ) (command : Command τ)
    (other : command.evaluates = false) : (session.step catalogue command).1.calls = [] := by
  unfold step
  cases held : session.perform? catalogue command with
  | none => rfl
  | some made => exact perform?_calls held other

private theorem perform?_of_storeRequest? {store : String} {request : StoreRequest τ}
    (found : session.storeRequest? catalogue command = some (store, request)) :
    session.perform? catalogue command = session.serve? store request := by
  -- Commands that resolve to no call at all contradict the lookup.
  have called : session.callStore? catalogue command = session.serve? store request := by
    rw [callStore?, found]
    rfl
  rw [← called]
  cases command with
  | bind | unbind | isBound | value | evaluateIn | describeStore => rfl
  | _ => cases found

/-- A call on a store is the whole of a step, which is remembered by the fault of the call. -/
theorem step_eq_of_storeRequest? {store : String} {request : StoreRequest τ}
    {bindings : Bindings τ}
    (found : session.storeRequest? catalogue command = some (store, request))
    (stored : session.stores store = some bindings) :
    session.step catalogue command =
      record (served (request.serve bindings))
        (session.putStore store (request.serve bindings).store) := by
  rw [step, perform?_of_storeRequest? found, serve?, stored]
  rfl

/-- A call on a store is answered by the store, which is left as the call leaves it. -/
theorem step_of_storeRequest? {store : String} {request : StoreRequest τ} {bindings : Bindings τ}
    (found : session.storeRequest? catalogue command = some (store, request))
    (stored : session.stores store = some bindings) :
    (session.step catalogue command).1 = served (request.serve bindings) ∧
      (session.step catalogue command).2.stores =
        session.stores.put store (request.serve bindings).store := by
  rw [step_eq_of_storeRequest? found stored]
  exact ⟨rfl, rfl⟩

/-- A call on a store that there is not is refused. -/
theorem step_of_storeRequest?_of_none {store : String} {request : StoreRequest τ}
    (found : session.storeRequest? catalogue command = some (store, request))
    (unknown : session.stores store = none) :
    session.step catalogue command = session.refuse := by
  rw [step, perform?_of_storeRequest? found, serve?, unknown]
  rfl

end Session

end Unknowns
