import Unknowns.Proofs.Outline.Shift
import Unknowns.Proofs.Session.Shift
import Unknowns.Proofs.ValueType.Shift

/-! Nothing in a session depends on where its handles start: a later run is the same run, later. -/

namespace Unknowns

namespace Session

variable {τ : Type} [Universe τ] [Shiftable τ] {offset : Nat} {first second : Session τ}

/-- The ends of two steps that are the same but for later handles. -/
def EndsAlike (offset : Nat) (one other : Response τ × Session τ) : Prop :=
  other.1 = one.1.shift offset ∧ one.2.ShiftsTo offset other.2

/-- A step that called nothing ends alike if it is answered and heard of alike. -/
theorem ShiftsTo.done (shifts : first.ShiftsTo offset second) (answer : Answer τ)
    (events : List Event) :
    EndsAlike offset (Session.done first answer events)
      (Session.done second (answer.shift offset) (events.map (·.shift offset))) :=
  ⟨rfl, shifts⟩

/-- A minting takes the later handle. -/
theorem ShiftsTo.mint (shifts : first.ShiftsTo offset second) (name : Option String) (type : τ) :
    (second.mint name type).1 = (first.mint name type).1.shift offset ∧
      (first.mint name type).2.ShiftsTo offset (second.mint name type).2 := by
  have minted : second.supply.mint =
      (first.supply.mint.1.shift offset, first.supply.mint.2.shift offset) := by
    rw [shifts.supply, Supply.mint_shift]
  have left := shifts.withSupply first.supply.mint.2
  simp only [Session.mint, minted]
  cases name with
  | none =>
    -- Without a name the handle is used up all the same.
    exact ⟨rfl, left⟩
  | some name => exact ⟨rfl, left.putVariable name (first.supply.mint.1.typed type)⟩

/-- So do several mintings, which are heard of in the same order. -/
theorem ShiftsTo.mintSeveral (shifts : first.ShiftsTo offset second) (types : List τ)
    (names : List String) :
    (second.mintSeveral types names).1 =
        (first.mintSeveral types names).1.map (·.shift offset) ∧
      (second.mintSeveral types names).2.1 =
        (first.mintSeveral types names).2.1.map (·.shift offset) ∧
      (first.mintSeveral types names).2.2.ShiftsTo offset (second.mintSeveral types names).2.2 := by
  -- Each minting leaves sessions of which the one is the other with later handles.
  induction types generalizing first second names with
  | nil => exact ⟨rfl, rfl, shifts⟩
  | cons type rest ih =>
    obtain ⟨handle, next⟩ := shifts.mint names.head? type
    obtain ⟨handles, events, last⟩ := ih next names.tail
    refine ⟨?_, ?_, last⟩
    · simp only [Session.mintSeveral, handle, handles, List.map_cons]
    · simp only [Session.mintSeveral, handle, events, List.map_cons]
      rfl

/-- Threads that mint in the same schedule are summed up alike. -/
theorem ShiftsTo.mintOnThreads (shifts : first.ShiftsTo offset second) (threads each : Nat) :
    EndsAlike offset (first.mintOnThreads threads each) (second.mintOnThreads threads each) := by
  simp only [Session.mintOnThreads, shifts.supply, mintScheduled_shift, MintingSummary.of_shift]
  exact (shifts.withSupply _).done _ []

/-- A first derivation is heard of alike. -/
theorem derivedEvents_shift (origin : Origin) {property later : SomeProperty τ}
    (related : property.ShiftsTo offset later) :
    derivedEvents origin later = (derivedEvents origin property).map (·.shift offset) := by
  cases related with
  | mk shifts =>
    match origin with
    | .property name =>
      -- Only the derivation from a variable itself is heard of.
      rfl
    | .variable name => exact congrArg ([·]) shifts.derivedEvent

/-- A created or copied store is as large. -/
theorem ShiftsTo.created (shifts : first.ShiftsTo offset second) (name : String)
    (store : Bindings τ) :
    EndsAlike offset (first.created name store) (second.created name (store.shift offset)) := by
  simp only [Session.created, store.size_shift, store.isEmpty_shift]
  exact (shifts.putStore name store).done (.created _ _) []

variable {catalogue : Catalogue τ}

section

variable (uniform : catalogue.Uniform offset) (transform : String) {argument : Reading τ}
  (given : argument.Uniform offset)

include uniform given

/-- A name and an argument stand for related transforms. -/
theorem ShiftsTo.find? (shifts : first.ShiftsTo offset second) (source : τ) :
    Option.Rel (FoundTransform.ShiftsTo offset)
      (catalogue.find? transform (argument first.handle?) source)
      (catalogue.find? transform (argument second.handle?) source) := by
  rw [shifts.handle?, given first.handle?]
  exact uniform transform (argument first.handle?) source

/-- Related properties are mapped to related ones. -/
theorem ShiftsTo.mapOnce? (shifts : first.ShiftsTo offset second) {property later : SomeProperty τ}
    (related : property.ShiftsTo offset later) :
    Option.Rel (SomeProperty.ShiftsTo offset) (first.mapOnce? catalogue transform argument property)
      (second.mapOnce? catalogue transform argument later) := by
  cases related with
  | @mk target one other held =>
    have found := shifts.find? uniform transform given target
    refine optionRel_map found fun _ _ alike => ?_
    cases alike with
    | mk shifted => exact .mk (held.map shifted)

/-- However often. -/
theorem ShiftsTo.mapTimes? (shifts : first.ShiftsTo offset second) (times : Nat)
    {property later : SomeProperty τ} (related : property.ShiftsTo offset later) :
    Option.Rel (SomeProperty.ShiftsTo offset)
      (first.mapTimes? catalogue transform argument times property)
      (second.mapTimes? catalogue transform argument times later) := by
  induction times generalizing property later with
  | zero => exact .some related
  | succ times ih =>
    exact optionRel_bind (shifts.mapOnce? uniform transform given related) fun _ _ next => ih next

end

/-- A question is answered alike, with later handles. -/
theorem ShiftsTo.answer? (shifts : first.ShiftsTo offset second) {command : Command τ}
    (given : command.Uniform offset) :
    Option.Rel (fun one other => other = one.shift offset) (first.answer? catalogue command)
      (second.answer? catalogue command) := by
  -- Whatever a question names is looked up alike, and each kind of answer has its own law.
  cases command with
  | inspect source =>
    simp only [Session.answer?, shifts.views source]
    refine optionRel_bind_map fun named => .some ?_
    simp only [SomeVariable.shift, Inspection.of_shift]
    rfl
  | compare left right =>
    simp only [Session.answer?, shifts.views left, shifts.views right]
    refine optionRel_bind_map fun one => optionRel_bind_map fun other => .some ?_
    simp only [SomeVariable.shift, Comparison.of_shift]
    rfl
  | sort sources =>
    simp only [Session.answer?, shifts.handles? sources]
    refine optionRel_bind_map fun handles => .some ?_
    rw [SortedHandles.of_shift]
    rfl
  | label entries wanted =>
    simp only [Session.answer?, shifts.labelEntries? entries, shifts.handles? wanted]
    refine optionRel_bind_map fun labelled => optionRel_bind_map fun handles => .some ?_
    rw [LabelReport.of_shift]
    rfl
  | describeProperty property =>
    refine optionRel_bind (shifts.properties property) fun _ _ related => ?_
    cases related with
    | mk shifted =>
      refine .some ?_
      rw [shifted.description]
      rfl
  | evaluate property type input =>
    refine optionRel_bind (shifts.properties property) fun _ _ related => ?_
    cases related with
    | mk shifted =>
      simp only [shifts.read? catalogue given]
      refine optionRel_bind_map fun value => .some ?_
      rw [shifted.evaluate]
      exact evaluated_shift offset _ []
  | apply property type input =>
    refine optionRel_bind (shifts.properties property) fun _ _ related => ?_
    cases related with
    | mk shifted =>
      simp only [shifts.read? catalogue given]
      refine optionRel_bind_map fun value => .some ?_
      rw [shifted.run?]
      exact applied_shift offset _
  | evaluateEach property type inputs =>
    refine optionRel_bind (shifts.properties property) fun _ _ related => ?_
    cases related with
    | mk shifted =>
      have values : inputs.mapM (fun input => second.read? catalogue input type) =
          (inputs.mapM fun input => first.read? catalogue input type).map
            (·.map (Value.shift offset)) :=
        mapM_shift (Value.shift offset) fun input member =>
          shifts.read? catalogue (given input member) type
      simp only [values]
      refine optionRel_bind_map fun read => .some ?_
      simp only [List.map_map, Function.comp_def, shifted.evaluate, Response.shift, Reply.shift,
        Answer.shift]
      rfl
  | describeFault step =>
    simp only [Session.answer?, shifts.faultOf? step]
    exact optionRel_bind_map fun cause => .some rfl
  | compareFaults left right =>
    simp only [Session.answer?, shifts.faultOf? left, shifts.faultOf? right]
    refine optionRel_bind_map fun one => optionRel_bind_map fun other => .some ?_
    -- Two faults are told apart by their kinds, types and handles.
    have same : (one.shift offset == other.shift offset) = (one == other) := by
      rw [Bool.eq_iff_iff, beq_iff_eq, beq_iff_eq, Fault.shift_inj]
    rw [same]
    rfl
  | _ => exact .none

/-- A command for a store is resolved to a call about later variables. -/
theorem ShiftsTo.storeRequest? (shifts : first.ShiftsTo offset second) {command : Command τ}
    (given : command.Uniform offset) :
    Option.Rel (fun one other => other.1 = one.1 ∧ one.2.ShiftsTo offset other.2)
      (first.storeRequest? catalogue command) (second.storeRequest? catalogue command) := by
  cases command with
  | bind store source reading =>
    simp only [Session.storeRequest?, shifts.views source]
    refine optionRel_bind_map fun named => ?_
    -- The content is read at the type of the view, which a later view has as well.
    simp only [SomeVariable.shift, shifts.content? catalogue given]
    exact optionRel_bind_map fun content => .some ⟨rfl, .bind named.view content⟩
  | unbind store source =>
    simp only [Session.storeRequest?, shifts.views source]
    exact optionRel_bind_map fun named => .some ⟨rfl, .unbind (.variable named)⟩
  | isBound store source =>
    simp only [Session.storeRequest?, shifts.views source]
    exact optionRel_bind_map fun named => .some ⟨rfl, .isBound (.variable named)⟩
  | value store source =>
    simp only [Session.storeRequest?, shifts.valued? catalogue source]
    exact optionRel_bind_map fun named => .some ⟨rfl, .value named.view⟩
  | evaluateIn store origin =>
    rcases origin with source | name
    · simp only [Session.storeRequest?, shifts.valued? catalogue source]
      exact optionRel_bind_map fun named => .some ⟨rfl, .evaluateVariable named.view⟩
    · refine optionRel_bind (shifts.properties name) fun _ _ related => ?_
      cases related with
      | mk shifted => exact .some ⟨rfl, .evaluateProperty shifted⟩
  | describeStore store => exact .some ⟨rfl, .describe⟩
  | _ => exact .none

variable [DecidableEq τ]

/-- An origin stands for related properties. -/
theorem ShiftsTo.originProperty? (shifts : first.ShiftsTo offset second) (origin : Origin) :
    Option.Rel (SomeProperty.ShiftsTo offset) (first.originProperty? catalogue origin)
      (second.originProperty? catalogue origin) := by
  match origin with
  | .property name => exact shifts.properties name
  | .variable name =>
    simp only [Session.originProperty?, shifts.valued? catalogue name]
    cases first.valued? catalogue name with
    | none => exact .none
    | some named => exact .some (.mk named.view.property_shiftsTo)

/-- What an origin stands for is mapped to related properties. -/
theorem ShiftsTo.mapOrigin? (uniform : catalogue.Uniform offset) (transform : String)
    {argument : Reading τ} (given : argument.Uniform offset)
    (shifts : first.ShiftsTo offset second) (origin : Origin) :
    Option.Rel (SomeProperty.ShiftsTo offset)
      (first.mapOrigin? catalogue transform argument origin)
      (second.mapOrigin? catalogue transform argument origin) := by
  match origin with
  | .property name =>
    exact optionRel_bind (shifts.properties name) fun _ _ related =>
      shifts.mapOnce? uniform transform given related
  | .variable name =>
    simp only [Session.mapOrigin?, shifts.valued? catalogue name]
    refine optionRel_bind_map fun named => ?_
    -- The transform is looked up at the type of the view, which a later view has as well.
    refine optionRel_bind (shifts.find? uniform transform given named.type) fun _ _ found => ?_
    cases found with
    | mk shifted => exact .some (.mk (named.view.map_shiftsTo shifted))

/-- A call about later variables on a store of them ends alike. -/
theorem ShiftsTo.serve? (shifts : first.ShiftsTo offset second) (store : String)
    {request later : StoreRequest τ} (shifted : request.ShiftsTo offset later) :
    Option.Rel (EndsAlike offset) (first.serve? store request) (second.serve? store later) := by
  simp only [Session.serve?, shifts.stores store]
  refine optionRel_bind_map fun bindings => ?_
  rw [StoreRequest.serve_shift offset shifted bindings, served_shift]
  exact .some ⟨rfl, shifts.putStore store _⟩

/-- So does a command that is resolved to a call. -/
theorem ShiftsTo.callStore? (shifts : first.ShiftsTo offset second) {command : Command τ}
    (given : command.Uniform offset) :
    Option.Rel (EndsAlike offset) (first.callStore? catalogue command)
      (second.callStore? catalogue command) := by
  refine optionRel_bind (shifts.storeRequest? given) fun one other alike => ?_
  -- The store that is called has the same name in both sessions.
  obtain ⟨same, shifted⟩ := alike
  show Option.Rel _ (first.serve? one.1 one.2) (second.serve? other.1 other.2)
  rw [same]
  exact shifts.serve? one.1 shifted

/-- A derivation ends alike. -/
theorem ShiftsTo.derive? (shifts : first.ShiftsTo offset second) (origin : Origin) (times : Nat)
    (name : String) :
    Option.Rel (EndsAlike offset) (first.derive? catalogue origin times name)
      (second.derive? catalogue origin times name) := by
  cases times with
  | zero => exact .none
  | succ times =>
    refine optionRel_bind (shifts.originProperty? origin) fun property later related => ?_
    have heard := derivedEvents_shift origin related
    have named := shifts.putProperty name related
    rw [heard]
    cases related with
    | mk shifted => exact .some (named.done _ _)

/-- So does a derivation with transforms, also if one of them is unknown. -/
theorem ShiftsTo.map? (uniform : catalogue.Uniform offset) (transform : String)
    {argument : Reading τ} (given : argument.Uniform offset)
    (shifts : first.ShiftsTo offset second) (origin : Origin) (times : Nat) (name : String) :
    Option.Rel (EndsAlike offset) (first.map? catalogue origin transform argument times name)
      (second.map? catalogue origin transform argument times name) := by
  cases times with
  | zero => exact .none
  | succ times =>
    refine optionRel_bind (shifts.mapOrigin? uniform transform given origin)
      fun property later related => ?_
    have heard := derivedEvents_shift origin related
    have mapped := shifts.mapTimes? uniform transform given times related
    rw [heard]
    generalize first.mapTimes? catalogue transform argument times property = before at mapped ⊢
    generalize second.mapTimes? catalogue transform argument times later = behind at mapped ⊢
    cases mapped with
    | none =>
      -- A transform further on is unknown in both, and nothing gets a name.
      exact .some ⟨rfl, shifts⟩
    | some last =>
      have named := shifts.putProperty name last
      cases last with
      | mk shifted => exact .some (named.done _ _)

/-- Whatever is carried out ends alike, and what is refused is refused. -/
theorem ShiftsTo.perform? (uniform : catalogue.Uniform offset)
    (shifts : first.ShiftsTo offset second) {command : Command τ}
    (given : command.Uniform offset) :
    Option.Rel (EndsAlike offset) (first.perform? catalogue command)
      (second.perform? catalogue command) := by
  -- Every command ends in its own kind of answer, and in one change of its own part at most.
  cases command with
  | mint name type =>
    obtain ⟨handle, left⟩ := shifts.mint (some name) type
    simp only [Session.perform?, handle]
    exact .some (left.done (.handle _) [mintedEvent _ type])
  | mintSeveral types names =>
    obtain ⟨handles, events, left⟩ := shifts.mintSeveral types names
    simp only [Session.perform?, handles, events]
    exact .some (left.done (.handles _) _)
  | mintOnThreads threads each => exact .some (shifts.mintOnThreads threads each)
  | view source type name =>
    simp only [Session.perform?, shifts.handle?]
    exact optionRel_bind_map fun handle =>
      .some ((shifts.putVariable name (handle.typed type)).done (.view ⟨type, _⟩) [])
  | derive origin times name => exact shifts.derive? origin times name
  | map origin transform argument times name =>
    exact shifts.map? uniform transform given origin times name
  | copyProperty property name =>
    refine optionRel_bind (shifts.properties property) fun found later related => ?_
    have named := shifts.putProperty name related
    cases related with
    | mk shifted => exact .some (named.done (.type _) [])
  | create capacity name =>
    have vacant : (Bindings.create capacity : Bindings τ).shift offset = .create capacity := by
      cases capacity <;> rfl
    have made := shifts.created name (.create capacity)
    rw [vacant] at made
    exact .some made
  | copyStore store name =>
    simp only [Session.perform?, shifts.stores store]
    exact optionRel_bind_map fun bindings => .some (shifts.created name bindings)
  | bind | unbind | isBound | value | evaluateIn | describeStore => exact shifts.callStore? given
  | inspect | compare | sort | label | describeProperty | evaluate | apply | evaluateEach
  | describeFault | compareFaults =>
    exact optionRel_map (shifts.answer? given) fun _ _ answered => ⟨answered, shifts⟩

/-- A step from either session ends alike. -/
theorem ShiftsTo.step (uniform : catalogue.Uniform offset) (shifts : first.ShiftsTo offset second)
    {command : Command τ} (given : command.Uniform offset) :
    EndsAlike offset (first.step catalogue command) (second.step catalogue command) := by
  have performed := shifts.perform? uniform given
  simp only [Session.step]
  generalize first.perform? catalogue command = before at performed ⊢
  generalize second.perform? catalogue command = behind at performed ⊢
  cases performed with
  | none =>
    -- What the one session refuses, the other refuses as well.
    exact ⟨rfl, shifts.record { reply := .refused }⟩
  | @some one other ended =>
    obtain ⟨answered, left⟩ := ended
    dsimp only
    rw [answered]
    exact ⟨rfl, left.record one.1⟩

/-- All steps of a run end alike. -/
theorem ShiftsTo.run (uniform : catalogue.Uniform offset) (shifts : first.ShiftsTo offset second)
    {commands : List (Command τ)} (given : ∀ command ∈ commands, command.Uniform offset) :
    (second.run catalogue commands).1 =
        (first.run catalogue commands).1.map (·.shift offset) ∧
      (first.run catalogue commands).2.ShiftsTo offset (second.run catalogue commands).2 := by
  -- Each step leaves sessions of which the one is the other with later handles.
  induction commands generalizing first second with
  | nil => exact ⟨rfl, shifts⟩
  | cons command rest ih =>
    obtain ⟨here, later⟩ := List.forall_mem_cons.mp given
    obtain ⟨answered, left⟩ := shifts.step uniform here
    obtain ⟨responses, last⟩ := ih left later
    refine ⟨?_, last⟩
    simp only [Session.run, List.map_cons]
    rw [answered, responses]

/--
A session depends on no index by itself: with a later start it runs as it does, and all is later.

Given transforms and values that do not count handles, every step ends alike, in the same kind of
answer, fault or panic, after the same calls, and is heard of in the same events. All handles in
them are later by the same number, and so are all handles in the texts that they are shown by.
-/
theorem run_equivariant (offset : Nat) {catalogue : Catalogue τ}
    (uniform : catalogue.Uniform offset) (supply : Supply) {commands : List (Command τ)}
    (given : ∀ command ∈ commands, command.Uniform offset) :
    ((start (supply.shift offset)).run catalogue commands).1 =
        ((start supply).run catalogue commands).1.map (·.shift offset) ∧
      ((start supply).run catalogue commands).2.ShiftsTo offset
        ((start (supply.shift offset)).run catalogue commands).2 ∧
      ShownAlike := by
  -- At the start nothing has a name, and only the supplies differ.
  have initial : (start supply : Session τ).ShiftsTo offset (start (supply.shift offset)) :=
    ⟨rfl, fun _ => rfl, fun _ => .none, fun _ => rfl, rfl⟩
  obtain ⟨answered, left⟩ := initial.run uniform given
  exact ⟨answered, left, shownAlike⟩

/-- The handle of a named variable, for the type of handles only. -/
def pointer (name : String) : Reading ValueType := fun lookup type =>
  match type with
  | .handle => lookup name
  | _ => none

/-- The handle of a name is looked up, whichever it is. -/
theorem pointer_uniform (offset : Nat) (name : String) : (pointer name).Uniform offset := by
  intro lookup
  funext type
  cases type <;> rfl

/-- A variable is bound to the handle of another one, which it is then compared with. -/
def pointing : List (Command ValueType) :=
  [.mint "target" .bool, .mint "pointer" .handle, .create none "store",
    .bind "store" "pointer" (pointer "target"), .bind "store" "pointer" (pointer "pointer"),
    .value "store" "pointer",
    .map (.variable "pointer") "same_as" (pointer "target") 1 "hit",
    .evaluateIn "store" (.property "hit"), .value "store" "target",
    .sort ["target", "pointer", "target"], .compare "target" "pointer", .describeStore "store"]

/-- With a start that is later by 41, the first variable has the handle 42, and is pointed to. -/
theorem run_equivariant_pointing :
    ValueType.catalogue.Uniform 41 ∧ (∀ command ∈ pointing, command.Uniform 41) ∧
      ((start (Supply.fresh.shift 41)).run ValueType.catalogue pointing).1 =
        ((start .fresh).run ValueType.catalogue pointing).1.map (·.shift 41) ∧
      (((start (Supply.fresh.shift 41)).run ValueType.catalogue pointing).1[5]?).map (·.reply) =
        some (.done (.value ⟨.handle, (⟨42, by decide⟩ : Handle)⟩)) := by
  have given : ∀ command ∈ pointing, command.Uniform 41 := by
    simp [pointing, Command.Uniform, pointer_uniform]
  have uniform : ValueType.catalogue.Uniform 41 := ValueType.catalogue_uniform 41
  exact ⟨uniform, given, (run_equivariant 41 uniform .fresh given).1, rfl⟩

end Session

end Unknowns
