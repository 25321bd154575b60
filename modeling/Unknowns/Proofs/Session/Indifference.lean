import Mathlib.Data.List.Forall2
import Unknowns.Proofs.Bindings.Indifference
import Unknowns.Proofs.Session.Ancestry
import Unknowns.Proofs.Session.Aside
import Unknowns.ValueType.Transforms

/-! Sessions that bind other values: nothing but the values that are read can be told apart. -/

namespace Unknowns

variable {τ : Type} [Universe τ]

/-- Two commands that are the same, but for the value that is given to be bound. -/
inductive Command.SameButContent : Command τ → Command τ → Prop
  | same (command : Command τ) : SameButContent command command
  -- At the same types there are values in both, whatever variables they refer to.
  | bind (store source : String) {first second : Reading τ}
      (given : ∀ lookup type, (first lookup type).isSome = (second lookup type).isSome) :
      SameButContent (.bind store source first) (.bind store source second)

/-- A reply to an evaluation that reached the transforms: a value of the target type, or a panic. -/
inductive Reply.Reached (target : τ) : Reply τ → Prop
  | value (content : Carrier target) : Reached target (.done (.value ⟨target, content⟩))
  | panic (panic : Panic) : Reached target (.panic panic)

/-- Two responses to the same reading: the same one, or a value of the same type in each. -/
inductive Response.ReadAlike : Response τ → Response τ → Prop
  | same (response : Response τ) : ReadAlike response response
  | values {type : τ} (content other : Carrier type) :
      ReadAlike { reply := .done (.value ⟨type, content⟩) }
        { reply := .done (.value ⟨type, other⟩) }

/-- Two responses to the same evaluation: the same one, or both reached the same transforms. -/
inductive Response.EvaluatedAlike : Response τ → Response τ → Prop
  | same (response : Response τ) : EvaluatedAlike response response
  | reached {target : τ} {first second : Response τ} (one : first.reply.Reached target)
      (other : second.reply.Reached target)
      (begun : first.calls.head?.map (·.transform) = second.calls.head?.map (·.transform))
      (events : first.events = second.events) : EvaluatedAlike first second

/-- How alike two responses to a command are: only what shows bound values may show other ones. -/
def Command.AnsweredAlike : Command τ → Response τ → Response τ → Prop
  | .value _ _ => Response.ReadAlike
  | .evaluateIn _ _ => Response.EvaluatedAlike
  | _ => Eq

/-- Two lists of responses to the same commands, each pair of them as alike as its command says. -/
inductive AnsweredAlike : List (Command τ) → List (Response τ) → List (Response τ) → Prop
  | nil : AnsweredAlike [] [] []
  | cons {command : Command τ} {first second : Response τ} {commands : List (Command τ)}
      {firsts seconds : List (Response τ)} (alike : command.AnsweredAlike first second)
      (later : AnsweredAlike commands firsts seconds) :
      AnsweredAlike (command :: commands) (first :: firsts) (second :: seconds)

/-- The same response is as alike as any command says. -/
theorem Command.AnsweredAlike.refl (command : Command τ) (response : Response τ) :
    command.AnsweredAlike response response := by
  cases command with
  | value => exact .same response
  | evaluateIn => exact .same response
  | _ => exact rfl

/-- Responses that are as alike as their command says are remembered by the same fault. -/
theorem Command.AnsweredAlike.fault?_eq {command : Command τ} {first second : Response τ}
    (alike : command.AnsweredAlike first second) :
    first.reply.fault? = second.reply.fault? := by
  cases command with
  | value store source =>
    cases alike with
    | same response => rfl
    | values content other => rfl
  | evaluateIn store origin =>
    cases alike with
    | same response => rfl
    | reached one other begun events =>
      -- Neither a value nor a panic is a fault.
      rcases first with ⟨_, _, _⟩
      rcases second with ⟨_, _, _⟩
      cases one <;> cases other <;> rfl
  | _ =>
    cases alike
    rfl

namespace Session

/-- Two sessions that are the same, but for the values that are bound in their stores. -/
structure SameButContents (first second : Session τ) : Prop where
  supply : first.supply = second.supply
  views : first.views = second.views
  properties : first.properties = second.properties
  stores : ∀ name, (first.stores name).map Bindings.types = (second.stores name).map Bindings.types
  faults : first.faults = second.faults

namespace SameButContents

variable {first second : Session τ}

/-- Stores that bind the same variables at the same types may be put under a name. -/
theorem putStore (same : first.SameButContents second) {bindings other : Bindings τ}
    (types : bindings.types = other.types) (name : String) :
    (first.putStore name bindings).SameButContents (second.putStore name other) where
  supply := same.supply
  views := same.views
  properties := same.properties
  stores := by
    intro asked
    show (first.stores.put name bindings asked).map Bindings.types =
      (second.stores.put name other asked).map Bindings.types
    by_cases here : asked = name
    · rw [here, Scope.put_same, Scope.put_same, Option.map_some, Option.map_some, types]
    · rw [Scope.put_of_ne here, Scope.put_of_ne here]
      exact same.stores asked
  faults := same.faults

/-- Steps that ended alike may be remembered. -/
theorem record (same : first.SameButContents second) {response other : Response τ}
    (fault : response.reply.fault? = other.reply.fault?) :
    (Session.record response first).2.SameButContents (Session.record other second).2 where
  supply := same.supply
  views := same.views
  properties := same.properties
  stores := same.stores
  faults := by
    simp only [Session.record]
    rw [same.faults, fault]

/-- A store of the one session is a store of the other, with the same types. -/
theorem stores_eq_some (same : first.SameButContents second) {name : String}
    {bindings : Bindings τ} (stored : first.stores name = some bindings) :
    ∃ other, second.stores name = some other ∧ bindings.types = other.types := by
  have types := same.stores name
  rw [stored, Option.map_some, eq_comm, Option.map_eq_some_iff] at types
  obtain ⟨other, found, equal⟩ := types
  exact ⟨other, found, equal.symm⟩

/-- What is no store of the one session is none of the other. -/
theorem stores_eq_none (same : first.SameButContents second) {name : String}
    (unknown : first.stores name = none) : second.stores name = none := by
  have types := same.stores name
  rwa [unknown, Option.map_none, eq_comm, Option.map_eq_none_iff] at types

/-- The one session is the other among its own stores. -/
theorem eq_among (same : first.SameButContents second) :
    second = first.among second.stores first.faults := by
  rcases second with ⟨supply, views, properties, stores, faults⟩
  rw [among, same.supply, same.views, same.properties, same.faults]

end SameButContents

/-- Evaluations that begin alike are answered alike. -/
private theorem evaluated_alike {target : τ} {first second : Evaluation target}
    (alike : first = second ∨ first.BeginAlike second) (events : List Event) :
    (evaluated first events).EvaluatedAlike (evaluated second events) := by
  rcases alike with rfl | begun
  · exact .same _
  · -- Without a fault an evaluation is answered by its value or its panic.
    have reached : ∀ evaluation : Evaluation target,
        (∀ fault, evaluation.outcome ≠ .fault fault) →
          (evaluated evaluation events).reply.Reached target := by
      intro evaluation faultless
      rcases evaluation with ⟨calls, outcome⟩
      cases outcome with
      | value content => exact .value content
      | panic cause => exact .panic cause
      | fault fault => exact absurd rfl (faultless fault)
    exact .reached (reached first begun.faultless) (reached second begun.alsoFaultless)
      begun.begun rfl

variable [DecidableEq τ] {catalogue : Catalogue τ} {first second : Session τ}
  {command other : Command τ}

/-- Two steps that are answered as alike as the command says, and leave the same but for contents. -/
structure StepsAlike (catalogue : Catalogue τ) (first second : Session τ)
    (command other : Command τ) : Prop where
  answered : command.AnsweredAlike (first.step catalogue command).1 (second.step catalogue other).1
  left : (first.step catalogue command).2.SameButContents (second.step catalogue other).2

/-- How a call and its like are answered by stores that bind the same variables at the same types. -/
private def CallAlike (command : Command τ) (request like : StoreRequest τ) : Prop :=
  ∀ {bindings others : Bindings τ}, bindings.types = others.types →
    command.AnsweredAlike (served (request.serve bindings)) (served (like.serve others)) ∧
      (request.serve bindings).store.types = (like.serve others).store.types

private theorem stepsAlike_of_refused (same : first.SameButContents second)
    (refused : first.step catalogue command = first.refuse)
    (alsoRefused : second.step catalogue other = second.refuse) :
    StepsAlike catalogue first second command other := by
  refine ⟨?_, ?_⟩
  · rw [refused, alsoRefused]
    exact .refl command _
  · rw [refused, alsoRefused]
    exact same.record rfl

private theorem stepsAlike_of_call (same : first.SameButContents second) {store : String}
    {request like : StoreRequest τ}
    (found : first.storeRequest? catalogue command = some (store, request))
    (alsoFound : second.storeRequest? catalogue other = some (store, like))
    (alike : CallAlike command request like) :
    StepsAlike catalogue first second command other := by
  cases stored : first.stores store with
  | none =>
    -- Without the store both calls are refused.
    exact stepsAlike_of_refused same (step_of_storeRequest?_of_none found stored)
      (step_of_storeRequest?_of_none alsoFound (same.stores_eq_none stored))
  | some bindings =>
    obtain ⟨others, alsoStored, types⟩ := same.stores_eq_some stored
    obtain ⟨answered, left⟩ := alike types
    have stepped := step_eq_of_storeRequest? found stored
    have alsoStepped := step_eq_of_storeRequest? alsoFound alsoStored
    refine ⟨?_, ?_⟩
    · rw [stepped, alsoStepped]
      exact answered
    · rw [stepped, alsoStepped]
      exact (same.putStore left store).record answered.fault?_eq

private theorem bind_callAlike {store source : String} {reading : Reading τ} {type : τ}
    (v : Variable type) (content given : Carrier type) :
    CallAlike (.bind store source reading) (.change (.bind v content))
      (.change (.bind v given)) := by
  intro bindings others types
  simp only [StoreRequest.serve, StoreChange.serve]
  obtain ⟨fault, failed, alsoFailed⟩ | ⟨larger, another, bound, alsoBound, left⟩ :=
    Bindings.bind_alike types v content given
  · rw [failed, alsoFailed]
    exact ⟨rfl, types⟩
  · -- The binding is answered by the size of the store and heard of by its type.
    have size : larger.size = another.size :=
      congrArg StoreDescription.size (Bindings.description_of_types left)
    rw [bound, alsoBound]
    refine ⟨?_, left⟩
    simp only [Command.AnsweredAlike, served, size]

private theorem evaluate_callAlike {store : String} {origin : Origin} {source target : τ}
    {v : Variable source} (derivation : Derivation v target) :
    CallAlike (.evaluateIn store origin) (.evaluateProperty derivation.build)
      (.evaluateProperty derivation.build) :=
  fun types => ⟨evaluated_alike (Bindings.evaluate_alike types derivation) [], types⟩

/-- A call that is made in both sessions is answered as alike as its command says. -/
private theorem callAlike_of_storeRequest? {known : Scope (SomeDerivation τ)}
    (traced : first.Traces known) {store : String} {request : StoreRequest τ}
    (found : first.storeRequest? catalogue command = some (store, request)) :
    CallAlike command request request := by
  intro bindings others types
  have listed : bindings.handles = others.handles := Bindings.handles_of_types types
  cases command with
  | bind store source reading =>
    obtain ⟨named, _, read⟩ := Option.bind_eq_some_iff.mp found
    obtain ⟨content, _, made⟩ := Option.bind_eq_some_iff.mp read
    cases made
    exact bind_callAlike named.view content content types
  | unbind store source =>
    obtain ⟨named, _, made⟩ := Option.bind_eq_some_iff.mp found
    cases made
    have removed : bindings.isBound (Mention.variable named) =
        others.isBound (Mention.variable named) := by
      simp only [Bindings.isBound, listed]
    refine ⟨?_, ?_⟩
    · simp only [Command.AnsweredAlike, StoreRequest.serve, StoreChange.serve, served,
        Bindings.unbind, removed]
      rfl
    · simp only [StoreRequest.serve, StoreChange.serve, Bindings.types_unbind, types]
  | isBound store source =>
    obtain ⟨named, _, made⟩ := Option.bind_eq_some_iff.mp found
    cases made
    refine ⟨?_, types⟩
    simp only [Command.AnsweredAlike, StoreRequest.serve, served, Bindings.isBound, listed]
  | value store source =>
    obtain ⟨named, _, made⟩ := Option.bind_eq_some_iff.mp found
    cases made
    simp only [StoreRequest.serve]
    obtain ⟨content, other, read, alsoRead⟩ | ⟨fault, failed, alsoFailed⟩ :=
      Bindings.value_alike types named.view
    · rw [read, alsoRead]
      exact ⟨.values content other, types⟩
    · rw [failed, alsoFailed]
      exact ⟨.same _, types⟩
  | evaluateIn store origin =>
    rcases origin with source | property
    · obtain ⟨named, _, made⟩ := Option.bind_eq_some_iff.mp found
      cases made
      -- The variable by itself is derived from itself, without a transform.
      exact ⟨evaluated_alike (Bindings.evaluate_alike types (v := named.view) .property) _, types⟩
    · obtain ⟨property, named, made⟩ := Option.bind_eq_some_iff.mp found
      cases made
      rw [traced _, Option.map_eq_some_iff] at named
      obtain ⟨derivation, _, rfl⟩ := named
      exact evaluate_callAlike derivation.derivation types
  | describeStore store =>
    cases found
    refine ⟨?_, types⟩
    simp only [Command.AnsweredAlike, StoreRequest.serve, served,
      Bindings.description_of_types types]
  | _ => cases found

private theorem step_of_uncalled {session : Session τ}
    (performed : session.perform? catalogue command = session.callStore? catalogue command)
    (unknown : session.storeRequest? catalogue command = none) :
    session.step catalogue command = session.refuse := by
  rw [step, performed, callStore?, unknown]
  rfl

private theorem call_stepsAlike {known : Scope (SomeDerivation τ)} (traced : first.Traces known)
    (same : first.SameButContents second)
    (performed : ∀ session : Session τ,
      session.perform? catalogue command = session.callStore? catalogue command) :
    StepsAlike catalogue first second command command := by
  have looked : second.storeRequest? catalogue command = first.storeRequest? catalogue command := by
    rw [same.eq_among, storeRequest?_among]
  cases found : first.storeRequest? catalogue command with
  | none =>
    -- What the call names is unknown in both sessions.
    exact stepsAlike_of_refused same (step_of_uncalled (performed first) found)
      (step_of_uncalled (performed second) (looked.trans found))
  | some call =>
    exact stepsAlike_of_call same found (looked.trans found)
      (callAlike_of_storeRequest? traced found)

private theorem bind_stepsAlike (same : first.SameButContents second) {store source : String}
    {reading given : Reading τ}
    (alike : ∀ lookup type, (reading lookup type).isSome = (given lookup type).isSome) :
    StepsAlike catalogue first second (.bind store source reading) (.bind store source given) := by
  -- Whatever type the variable is viewed at, both readings have a value of it, or neither has.
  have both : ∀ type, (first.content? catalogue reading type).isSome =
      (second.content? catalogue given type).isSome := by
    intro type
    have names : second.handle? = first.handle? := by
      funext name
      simp only [handle?, same.views]
    simp only [content?, names]
    split
    · exact alike first.handle? type
    · rfl
  have views : second.views source = first.views source := by rw [same.views]
  have refused (unknown : first.storeRequest? catalogue (.bind store source reading) = none)
      (alsoUnknown : second.storeRequest? catalogue (.bind store source given) = none) :
      StepsAlike catalogue first second (.bind store source reading) (.bind store source given) :=
    stepsAlike_of_refused same (step_of_uncalled rfl unknown) (step_of_uncalled rfl alsoUnknown)
  cases viewed : first.views source with
  | none =>
    -- There is no variable of the name to be bound.
    refine refused ?_ ?_
    · simp [storeRequest?, viewed]
    · simp [storeRequest?, views, viewed]
  | some named =>
    have present := both named.type
    cases read : first.content? catalogue reading named.type with
    | none =>
      -- Neither reading has a value of the type.
      have unread : second.content? catalogue given named.type = none := by
        rwa [read, Option.isSome_none, eq_comm, Option.isSome_eq_false_iff,
          Option.isNone_iff_eq_none] at present
      refine refused ?_ ?_
      · simp [storeRequest?, viewed, read]
      · simp [storeRequest?, views, viewed, unread]
    | some content =>
      rw [read, Option.isSome_some, eq_comm, Option.isSome_iff_exists] at present
      obtain ⟨other, alsoRead⟩ := present
      -- The calls differ in the content alone, at the type of one and the same variable.
      have found : first.storeRequest? catalogue (.bind store source reading) =
          some (store, .change (.bind named.view content)) := by
        simp [storeRequest?, viewed, read]
      have alsoFound : second.storeRequest? catalogue (.bind store source given) =
          some (store, .change (.bind named.view other)) := by
        simp [storeRequest?, views, viewed, alsoRead]
      exact stepsAlike_of_call same found alsoFound (bind_callAlike named.view content other)

private theorem copyStore_stepsAlike (same : first.SameButContents second) (store name : String) :
    StepsAlike catalogue first second (.copyStore store name) (.copyStore store name) := by
  cases stored : first.stores store with
  | none =>
    have unknown := same.stores_eq_none stored
    refine stepsAlike_of_refused same ?_ ?_
    · simp [step, perform?, stored]
    · simp [step, perform?, unknown]
  | some bindings =>
    -- The copies are as large as the stores.
    obtain ⟨others, alsoStored, types⟩ := same.stores_eq_some stored
    have described := Bindings.description_of_types types
    have size : bindings.size = others.size := congrArg StoreDescription.size described
    have isEmpty : bindings.isEmpty = others.isEmpty :=
      congrArg StoreDescription.isEmpty described
    refine ⟨?_, ?_⟩
    · simp only [step, perform?, stored, alsoStored, Option.bind_eq_bind, Option.bind_some,
        created, size, isEmpty]
      rfl
    · simp only [step, perform?, stored, alsoStored, Option.bind_eq_bind, Option.bind_some,
        created]
      exact (same.putStore types name).record rfl

private theorem aside_stepsAlike (same : first.SameButContents second)
    (aside : command.part ≠ .stores) : StepsAlike catalogue first second command command := by
  have own : first.perform? catalogue command = _ :=
    perform?_among first first.stores first.faults aside fun _ => rfl
  have alike : (first.among second.stores first.faults).perform? catalogue command = _ :=
    perform?_among first second.stores first.faults aside fun _ => rfl
  rw [← same.eq_among] at alike
  cases held : first.perform? catalogue command with
  | none =>
    rw [held] at alike
    refine stepsAlike_of_refused same ?_ ?_
    · rw [step, held]
    · rw [step, alike]
      rfl
  | some made =>
    rw [held, Option.map_some, Option.some.injEq] at own
    rw [held, Option.map_some] at alike
    -- What is carried out leaves the stores of either session as they were.
    have left : made.2.SameButContents (made.2.among second.stores first.faults) := by
      rw [congrArg Prod.snd own]
      exact ⟨rfl, rfl, rfl, same.stores, rfl⟩
    refine ⟨?_, ?_⟩
    · simp only [step, held, alike]
      exact .refl command _
    · simp only [step, held, alike]
      exact left.record rfl

/-- A step of either session is answered as alike as its command says. -/
theorem step_alike {known : Scope (SomeDerivation τ)} (traced : first.Traces known)
    (same : first.SameButContents second) (like : command.SameButContent other) :
    StepsAlike catalogue first second command other := by
  cases like with
  | bind store source given => exact bind_stepsAlike same given
  | same =>
    -- The same command sees the stores at most, which differ in nothing but values.
    by_cases aside : command.part = .stores
    · cases command with
      | create capacity name => exact ⟨rfl, (same.putStore rfl name).record rfl⟩
      | copyStore store name => exact copyStore_stepsAlike same store name
      | bind | unbind | isBound | value | evaluateIn | describeStore =>
        exact call_stepsAlike traced same fun _ => rfl
      | _ => cases aside
    · exact aside_stepsAlike same aside

/-- A run from either session is answered as alike as its commands say. -/
private theorem run_alike {known : Scope (SomeDerivation τ)} (traced : first.Traces known)
    (same : first.SameButContents second) {commands others : List (Command τ)}
    (like : List.Forall₂ Command.SameButContent commands others) :
    AnsweredAlike commands (first.run catalogue commands).1 (second.run catalogue others).1 ∧
      (first.run catalogue commands).2.SameButContents (second.run catalogue others).2 := by
  -- Every step leaves sessions that are the same but for contents, for the next step to start from.
  induction like generalizing first second known with
  | nil => exact ⟨.nil, same⟩
  | @cons command other rest later alike _ ih =>
    have stepped : StepsAlike catalogue first second command other := step_alike traced same alike
    obtain ⟨answered, left⟩ := ih (step_traces traced command) stepped.left
    exact ⟨.cons stepped.answered answered, left⟩

/--
What a session answers does not depend on the values that are bound in its stores.

Two runs that differ in the values given to be bound, but not in where there are such values, are
answered alike: by the same answers, faults and events, except for the values that are read and for
what the transforms make of them. In the end the same variables are bound at the same types.
-/
theorem run_indifferent (catalogue : Catalogue τ) (supply : Supply)
    {commands others : List (Command τ)}
    (like : List.Forall₂ Command.SameButContent commands others) :
    AnsweredAlike commands ((start supply).run catalogue commands).1
        ((start supply).run catalogue others).1 ∧
      ((start supply).run catalogue commands).2.SameButContents
        ((start supply).run catalogue others).2 := by
  -- At the start there are no properties, and no stores.
  have initial : (start supply).Traces (.empty : Scope (SomeDerivation τ)) := fun _ => rfl
  exact run_alike initial ⟨rfl, rfl, rfl, fun _ => rfl, rfl⟩ like

/-- A word, for the type of texts only. -/
def word (text : String) : Reading ValueType := fun _ type =>
  match type with
  | .text => some text
  | _ => none

/-- A word is bound, bound in vain, read, and read for its first letter, which it may not have. -/
def spelling (text : String) : List (Command ValueType) :=
  [.mint "word" .text, .map (.variable "word") "first_char" (fun _ _ => none) 1 "letter",
    .create none "store", .bind "store" "word" (word text), .bind "store" "word" (word text),
    .value "store" "word", .evaluateIn "store" (.property "letter"), .copyStore "store" "copy",
    .unbind "store" "word", .describeStore "store", .evaluateIn "copy" (.variable "word")]

/-- Two words are treated alike, although only one of them has a first letter. -/
theorem run_indifferent_spelling :
    List.Forall₂ Command.SameButContent (spelling "a") (spelling "") ∧
      AnsweredAlike (spelling "a") ((start .fresh).run ValueType.catalogue (spelling "a")).1
        ((start .fresh).run ValueType.catalogue (spelling "")).1 ∧
      (((start .fresh).run ValueType.catalogue (spelling "a")).1[6]?).map (·.reply) =
        some (.done (.value ⟨.char, 'a'⟩)) ∧
      (((start .fresh).run ValueType.catalogue (spelling "")).1[6]?).map (·.reply) =
        some (.panic ⟨"first of empty"⟩) := by
  have bound : Command.SameButContent (.bind "store" "word" (word "a"))
      (.bind "store" "word" (word "")) := by
    refine .bind "store" "word" fun _ type => ?_
    cases type <;> rfl
  have like : List.Forall₂ Command.SameButContent (spelling "a") (spelling "") :=
    .cons (.same _) <| .cons (.same _) <| .cons (.same _) <| .cons bound <| .cons bound <|
      List.forall₂_same.mpr fun command _ => .same command
  exact ⟨like, (run_indifferent ValueType.catalogue .fresh like).1, rfl, rfl⟩

end Session

end Unknowns
