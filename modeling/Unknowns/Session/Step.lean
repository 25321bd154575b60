import Unknowns.Session.Answer
import Unknowns.Session.Command
import Unknowns.Session.State

/-! Carrying out the commands of a session. -/

namespace Unknowns

namespace Session

variable {τ : Type} [Universe τ]

/-- A carried out step that called nothing. -/
def done (session : Session τ) (answer : Answer τ) (events : List Event) :
    Response τ × Session τ :=
  ({ reply := .done answer, events }, session)

/-- The event of a minted variable. -/
def mintedEvent (handle : Handle) (type : τ) : Event :=
  .minted handle (Universe.name type)

/-- A fresh variable, under a name if it has one. -/
def mint (session : Session τ) (name : Option String) (type : τ) : Handle × Session τ :=
  let (handle, supply) := session.supply.mint
  let minted := { session with supply }
  match name with
  | some name => (handle, minted.putVariable name (handle.typed type))
  -- Without a name it cannot be called again, but its handle is used up.
  | none => (handle, minted)

/-- Fresh variables of the listed types, under the listed names as far as these go. -/
def mintSeveral : List τ → List String → Session τ → List Handle × List Event × Session τ
  | [], _, session => ([], [], session)
  | type :: rest, names, session =>
    let (handle, minted) := session.mint names.head? type
    let (handles, events, last) := mintSeveral rest names.tail minted
    (handle :: handles, mintedEvent handle type :: events, last)

/-- Handles minted on threads, which nobody listens to and nothing names. -/
def mintOnThreads (session : Session τ) (threads each : Nat) : Response τ × Session τ :=
  -- Any other schedule of the threads would show the same summary.
  let (mintings, supply) := mintScheduled (inTurns threads each) session.supply
  done { session with supply } (.minted (.of threads mintings)) []

/-- The handles of named variables, if all of them are known. -/
def handles? (session : Session τ) (names : List String) : Option (List Handle) :=
  names.mapM session.handle?

/-- The entries of a labelling, if all its variables are known. -/
def labelEntries? (session : Session τ) (entries : List (String × String)) :
    Option (List (Handle × String)) :=
  entries.mapM fun entry => do return (← session.handle? entry.1, entry.2)

/-- The content given from outside for a type, if values of the type may be worked with. -/
def content? (catalogue : Catalogue τ) (session : Session τ) (reading : Reading τ) (type : τ) :
    Option (Carrier type) :=
  -- Variables are looked up as they are named now.
  if catalogue.hasValues type then reading session.handle? type else none

/-- The content given from outside for a type, as a value of the type. -/
def read? (catalogue : Catalogue τ) (session : Session τ) (reading : Reading τ) (type : τ) :
    Option (Value τ) :=
  (session.content? catalogue reading type).map fun content => ⟨type, content⟩

/-- A named variable, if values of its type may be worked with. -/
def valued? (catalogue : Catalogue τ) (session : Session τ) (name : String) :
    Option (SomeVariable τ) :=
  (session.views name).filter fun named => catalogue.hasValues named.type

/-- The events of a first derivation: only a variable is heard of. -/
def derivedEvents (origin : Origin) (property : SomeProperty τ) : List Event :=
  match origin with
  | .variable _ => [property.property.derivedEvent]
  | .property _ => []

/-- The end of a step that evaluated. -/
def evaluated {target : τ} (evaluation : Evaluation target) (events : List Event) : Response τ :=
  { reply := match evaluation.outcome with
      | .value content => .done (.value ⟨target, content⟩)
      | .fault fault => .fault fault
      | .panic panic => .panic panic
    calls := evaluation.calls
    events }

/-- The end of a step that applied a transform, which may not have taken the value. -/
def applied {target : τ} : Option (Run target) → Response τ
  | none => { reply := .done (.applied none) }
  | some run =>
    { reply := match run.result with
        | .ok content => .done (.applied (some ⟨target, content⟩))
        | .error panic => .panic panic
      calls := run.calls }

/-- A created or copied store under a name. -/
def created (session : Session τ) (name : String) (store : Bindings τ) :
    Response τ × Session τ :=
  done (session.putStore name store) (.created store.size store.isEmpty) []

/-- The answer to a call on a store; a binding is answered by the size of the store after it. -/
def served (served : Served τ) : Response τ :=
  match served.result with
  | .bound => { reply := .done (.size served.store.size), events := served.events }
  | .truth truth => { reply := .done (.truth truth), events := served.events }
  | .value value => { reply := .done (.value value), events := served.events }
  | .evaluation evaluation => evaluated evaluation served.events
  | .description description => { reply := .done (.store description), events := served.events }
  | .fault fault => { reply := .fault fault, events := served.events }

variable [DecidableEq τ]

/-- The property that an origin stands for. -/
def originProperty? (catalogue : Catalogue τ) (session : Session τ) :
    Origin → Option (SomeProperty τ)
  | .variable name => (session.valued? catalogue name).map fun named =>
    ⟨named.type, named.view.property⟩
  | .property name => session.properties name

/-- A property under a name; deriving the same again from it changes nothing. -/
def derive? (catalogue : Catalogue τ) (session : Session τ) (origin : Origin) :
    Nat → String → Option (Response τ × Session τ)
  | 0, _ => none
  | _ + 1, name => do
    let property ← session.originProperty? catalogue origin
    return done (session.putProperty name property) (.type property.target)
      (derivedEvents origin property)

/-- A property with the named transform behind it, if the type has one. -/
def mapOnce? (catalogue : Catalogue τ) (session : Session τ) (transform : String)
    (argument : Reading τ) (property : SomeProperty τ) : Option (SomeProperty τ) :=
  (catalogue.find? transform (argument session.handle?) property.target).map fun found =>
    ⟨found.target, property.property.map found.transform⟩

/-- What an origin stands for with the named transform behind it, if its type has one. -/
def mapOrigin? (catalogue : Catalogue τ) (session : Session τ) (transform : String)
    (argument : Reading τ) : Origin → Option (SomeProperty τ)
  | .variable name => do
    let named ← session.valued? catalogue name
    let found ← catalogue.find? transform (argument session.handle?) named.type
    return ⟨found.target, named.view.map found.transform⟩
  | .property name => do
    session.mapOnce? catalogue transform argument (← session.properties name)

/-- A property with the named transform behind it a number of times. -/
def mapTimes? (catalogue : Catalogue τ) (session : Session τ) (transform : String)
    (argument : Reading τ) : Nat → SomeProperty τ → Option (SomeProperty τ)
  | 0, property => some property
  | times + 1, property => do
    mapTimes? catalogue session transform argument times
      (← session.mapOnce? catalogue transform argument property)

/-- A mapped property under a name; what was heard of a first derivation stays heard. -/
def map? (catalogue : Catalogue τ) (session : Session τ) (origin : Origin) (transform : String)
    (argument : Reading τ) : Nat → String → Option (Response τ × Session τ)
  | 0, _ => none
  | times + 1, name => do
    -- Only the first of several transforms is put behind a variable itself.
    let first ← session.mapOrigin? catalogue transform argument origin
    let events := derivedEvents origin first
    match session.mapTimes? catalogue transform argument times first with
    | none => return ({ reply := .refused, events }, session)
    | some last => return done (session.putProperty name last) (.type last.target) events

/-- The ends of a property's evaluations on several values. -/
def evaluateEach? (catalogue : Catalogue τ) (session : Session τ) (property : String) (type : τ)
    (inputs : List (Reading τ)) : Option (Response τ) := do
  let found ← session.properties property
  let values ← inputs.mapM fun input => session.read? catalogue input type
  let outcomes := values.map fun value =>
    ⟨found.target, (found.property.evaluate value).outcome⟩
  return { reply := .done (.outcomes outcomes) }

/-- The response to a command that only asks, and leaves the session as it is. -/
def answer? (catalogue : Catalogue τ) (session : Session τ) : Command τ → Option (Response τ)
  | .inspect source => do
    let named ← session.views source
    return { reply := .done (.inspection named (.of named.view)) }
  | .compare left right => do
    let first ← session.views left
    let second ← session.views right
    return { reply := .done (.comparison (.of first.view second.view)) }
  | .sort sources => do
    return { reply := .done (.sorted (.of (← session.handles? sources))) }
  | .label entries wanted => do
    let labels := .of (← session.labelEntries? entries) (← session.handles? wanted)
    return { reply := .done (.labels labels) }
  | .describeProperty property => do
    let found ← session.properties property
    return { reply := .done (.property found.property.description) }
  | .evaluate property type input => do
    let found ← session.properties property
    let value ← session.read? catalogue input type
    return evaluated (found.property.evaluate value) []
  | .apply property type input => do
    let found ← session.properties property
    let value ← session.read? catalogue input type
    return applied (found.property.run? value)
  | .evaluateEach property type inputs => session.evaluateEach? catalogue property type inputs
  | .describeFault step => do
    return { reply := .done (.fault (← session.faultOf? step)) }
  | .compareFaults left right => do
    return { reply := .done (.truth ((← session.faultOf? left) == (← session.faultOf? right))) }
  | _ => none

/-- The store that a command calls, and the call, once all that it names is looked up. -/
def storeRequest? (catalogue : Catalogue τ) (session : Session τ) :
    Command τ → Option (String × StoreRequest τ)
  | .bind store source reading => do
    let named ← session.views source
    let content ← session.content? catalogue reading named.type
    return (store, .change (.bind named.view content))
  | .unbind store source => do
    return (store, .change (.unbind (.variable (← session.views source))))
  | .isBound store source => do
    return (store, .isBound (.variable (← session.views source)))
  | .value store source => do
    return (store, .value (← session.valued? catalogue source).view)
  | .evaluateIn store (.variable source) => do
    return (store, .evaluateVariable (← session.valued? catalogue source).view)
  | .evaluateIn store (.property property) => do
    return (store, .evaluateProperty (← session.properties property).property)
  | .describeStore store => some (store, .describe)
  | _ => none

/-- A call on a named store, which is left as the call leaves it. -/
def serve? (session : Session τ) (store : String) (request : StoreRequest τ) :
    Option (Response τ × Session τ) := do
  let bindings ← session.stores store
  let outcome := request.serve bindings
  return (served outcome, session.putStore store outcome.store)

/-- Carries out a command that calls a store. -/
def callStore? (catalogue : Catalogue τ) (session : Session τ) (command : Command τ) :
    Option (Response τ × Session τ) := do
  let (store, request) ← session.storeRequest? catalogue command
  session.serve? store request

/-- Carries out a command that only asks. -/
def ask? (catalogue : Catalogue τ) (session : Session τ) (command : Command τ) :
    Option (Response τ × Session τ) :=
  (session.answer? catalogue command).map fun response => (response, session)

/-- Carries out a command; nothing is returned for one that the session has to refuse. -/
def perform? (catalogue : Catalogue τ) (session : Session τ) :
    Command τ → Option (Response τ × Session τ)
  | .mint name type =>
    let (handle, minted) := session.mint (some name) type
    some (done minted (.handle handle) [mintedEvent handle type])
  | .mintSeveral types names =>
    let (handles, events, minted) := session.mintSeveral types names
    some (done minted (.handles handles) events)
  | .mintOnThreads threads each => some (session.mintOnThreads threads each)
  | .view source type name => do
    let view := (← session.handle? source).typed type
    return done (session.putVariable name view) (.view ⟨type, view⟩) []
  | .derive origin times name => session.derive? catalogue origin times name
  | .map origin transform argument times name =>
    session.map? catalogue origin transform argument times name
  | .copyProperty property name => do
    let found ← session.properties property
    return done (session.putProperty name found) (.type found.target) []
  | .create capacity name =>
    some (session.created name (.create capacity))
  | .copyStore store name => do
    return session.created name (← session.stores store)
  | call@(.bind _ _ _) | call@(.unbind _ _) | call@(.isBound _ _) | call@(.value _ _)
  | call@(.evaluateIn _ _) | call@(.describeStore _) => session.callStore? catalogue call
  | question => session.ask? catalogue question

/-- The session once a step has ended; every step is remembered by the fault it ended at. -/
def record (response : Response τ) (session : Session τ) : Response τ × Session τ :=
  (response, { session with faults := session.faults ++ [response.reply.fault?] })

/-- A step that asks for nothing the session knows, which changes nothing. -/
def refuse (session : Session τ) : Response τ × Session τ :=
  record { reply := .refused } session

/-- One step of a session. -/
def step (catalogue : Catalogue τ) (session : Session τ) (command : Command τ) :
    Response τ × Session τ :=
  match session.perform? catalogue command with
  | some (response, next) => record response next
  | none => session.refuse

/-- All steps of a list of commands, in order. -/
def run (catalogue : Catalogue τ) : Session τ → List (Command τ) → List (Response τ) × Session τ
  | session, [] => ([], session)
  | session, command :: rest =>
    let (response, next) := session.step catalogue command
    let (responses, last) := run catalogue next rest
    (response :: responses, last)

end Session

end Unknowns
