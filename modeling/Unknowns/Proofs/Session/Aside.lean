import Unknowns.Proofs.Session.Frame

/-! What commands do not look at: stores that they do not call, and faults that they do not recall. -/

namespace Unknowns

variable {τ : Type} [Universe τ]

/-- Whether a command asks for the faults of earlier steps, which it calls by number. -/
def Command.recalls : Command τ → Bool
  | .describeFault _ | .compareFaults _ _ => true
  | _ => false

namespace Session

/-- The session with other stores, and with other faults remembered. -/
def among (session : Session τ) (stores : Scope (Bindings τ)) (faults : List (Option Fault)) :
    Session τ :=
  { session with stores, faults }

variable (session : Session τ) (stores : Scope (Bindings τ)) (faults : List (Option Fault))
  {catalogue : Catalogue τ} {command : Command τ}

private theorem mintSeveral_among (types : List τ) (names : List String) :
    (session.among stores faults).mintSeveral types names =
      ((session.mintSeveral types names).1, (session.mintSeveral types names).2.1,
        (session.mintSeveral types names).2.2.among stores faults) := by
  -- Each minting hands the stores and the faults on as it found them.
  induction types generalizing names session with
  | nil => rfl
  | cons type rest ih =>
    have minted : (session.among stores faults).mint names.head? type =
        ((session.mint names.head? type).1,
          (session.mint names.head? type).2.among stores faults) := by
      cases names.head? <;> rfl
    simp only [mintSeveral]
    rw [minted, ih]

private theorem mapTimes?_among (transform : String) (argument : Reading τ) (times : Nat)
    (property : SomeProperty τ) :
    (session.among stores faults).mapTimes? catalogue transform argument times property =
      session.mapTimes? catalogue transform argument times property := by
  induction times generalizing property with
  | zero => rfl
  | succ times ih =>
    have once : (session.among stores faults).mapOnce? catalogue transform argument property =
        session.mapOnce? catalogue transform argument property := rfl
    simp only [mapTimes?, once, ih]

private theorem answer?_among (unrecalled : command.recalls = true → faults = session.faults) :
    (session.among stores faults).answer? catalogue command =
      session.answer? catalogue command := by
  -- Only a command that recalls looks at the faults.
  cases command with
  | describeFault | compareFaults =>
    rw [unrecalled rfl]
    rfl
  | _ => rfl

/-- A call is looked up without a look at the stores. -/
theorem storeRequest?_among (command : Command τ) :
    (session.among stores faults).storeRequest? catalogue command =
      session.storeRequest? catalogue command := by
  cases command with
  | evaluateIn store origin => cases origin <;> rfl
  | _ => rfl

variable [DecidableEq τ]

private theorem originProperty?_among (origin : Origin) :
    (session.among stores faults).originProperty? catalogue origin =
      session.originProperty? catalogue origin := by
  cases origin <;> rfl

private theorem mapOrigin?_among (transform : String) (argument : Reading τ) (origin : Origin) :
    (session.among stores faults).mapOrigin? catalogue transform argument origin =
      session.mapOrigin? catalogue transform argument origin := by
  cases origin <;> rfl

/-- What is no command for stores is carried out alike, whatever the stores are. -/
theorem perform?_among (aside : command.part ≠ .stores)
    (unrecalled : command.recalls = true → faults = session.faults) :
    (session.among stores faults).perform? catalogue command =
      (session.perform? catalogue command).map fun made =>
        (made.1, made.2.among stores faults) := by
  -- What a command looks up is found alike, and what it changes is no store and no fault.
  cases command with
  | create | copyStore | bind | unbind | isBound | value | evaluateIn | describeStore =>
    exact absurd rfl aside
  | mint | mintOnThreads => rfl
  | mintSeveral types names =>
    simp only [perform?, mintSeveral_among]
    rfl
  | view source type name =>
    have found : (session.among stores faults).handle? = session.handle? := rfl
    simp only [perform?, found]
    cases session.handle? source <;> rfl
  | derive origin times name =>
    cases times with
    | zero => rfl
    | succ times =>
      simp only [perform?, derive?, originProperty?_among]
      cases session.originProperty? catalogue origin <;> rfl
  | map origin transform argument times name =>
    cases times with
    | zero => rfl
    | succ times =>
      simp only [perform?, map?, mapOrigin?_among, mapTimes?_among]
      cases session.mapOrigin? catalogue transform argument origin with
      | none => rfl
      | some first =>
        simp only [Option.bind_eq_bind, Option.bind_some]
        cases session.mapTimes? catalogue transform argument times first <;> rfl
  | copyProperty property name =>
    have found : (session.among stores faults).properties = session.properties := rfl
    simp only [perform?, found]
    cases session.properties property <;> rfl
  | inspect | compare | sort | label | describeProperty | evaluate | apply | evaluateEach
  | describeFault | compareFaults =>
    simp only [perform?, ask?, answer?_among session stores faults unrecalled]
    cases session.answer? catalogue _ <;> rfl

end Session

end Unknowns
