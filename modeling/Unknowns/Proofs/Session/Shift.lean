import Unknowns.Proofs.Bindings.Shift
import Unknowns.Proofs.Session.Frame

/-! Sessions whose handles are counted from a later start answer alike, with later handles. -/

namespace Unknowns

section

variable {α β γ δ : Type} {before : α → β → Prop} {behind : γ → δ → Prop}

/-- Options that are related are bound alike by what takes related things to related options. -/
theorem optionRel_bind {first : Option α} {second : Option β} {f : α → Option γ}
    {g : β → Option δ} (related : Option.Rel before first second)
    (next : ∀ one other, before one other → Option.Rel behind (f one) (g other)) :
    Option.Rel behind (first.bind f) (second.bind g) := by
  cases related with
  | none => exact .none
  | some held => exact next _ _ held

/-- So are an option and the same option changed. -/
theorem optionRel_bind_map {held : Option α} {change : α → β} {f : α → Option γ}
    {g : β → Option δ} (next : ∀ one, Option.Rel behind (f one) (g (change one))) :
    Option.Rel behind (held.bind f) ((held.map change).bind g) := by
  cases held with
  | none => exact .none
  | some one => exact next one

/-- Options that are related are changed to related ones. -/
theorem optionRel_map {first : Option α} {second : Option β} {f : α → γ} {g : β → δ}
    (related : Option.Rel before first second)
    (next : ∀ one other, before one other → behind (f one) (g other)) :
    Option.Rel behind (first.map f) (second.map g) := by
  cases related with
  | none => exact .none
  | some held => exact .some (next _ _ held)

end

/-- What is made of each element of a list, or of none, is changed as each of it is. -/
theorem mapM_shift {α β γ : Type} (change : β → γ) {f : α → Option β} {g : α → Option γ}
    {elements : List α} (same : ∀ element ∈ elements, g element = (f element).map change) :
    elements.mapM g = (elements.mapM f).map (·.map change) := by
  -- An element without a result leaves none for the list, on both sides.
  induction elements with
  | nil => rfl
  | cons element rest ih =>
    obtain ⟨here, later⟩ := List.forall_mem_cons.mp same
    rw [List.mapM_cons, List.mapM_cons, here, ih later]
    cases f element with
    | none => rfl
    | some made => cases rest.mapM f <;> rfl

section

variable (offset : Nat)

/-- The same collections of later handles. -/
def SortedHandles.shift (collections : SortedHandles) : SortedHandles :=
  { collections with
    set := collections.set.map (·.shift offset)
    descending := collections.descending.map (·.shift offset) }

/-- Later handles are collected alike. -/
theorem SortedHandles.of_shift (handles : List Handle) :
    of (handles.map (·.shift offset)) = (of handles).shift offset := by
  simp only [of, shift, ascending_shift, descending_shift, distinctHandles_shift, List.length_map]

/-- Labels of later handles are reported alike. -/
theorem LabelReport.of_shift (entries : List (Handle × String)) (wanted : List Handle) :
    of (entries.map fun entry => (entry.1.shift offset, entry.2))
      (wanted.map (·.shift offset)) = of entries wanted := by
  have labels := Labels.ofEntries_shift offset entries
  simp only [of, labels, List.map_map, Function.comp_def, Labels.get?_shift]
  -- The labels themselves have no handles in them.
  simp only [Labels.shift, List.length_map, List.map_map]
  rfl

/-- A later variable agrees with its erasure as the variable does. -/
theorem Inspection.of_shift {τ : Type} {type : τ} (v : Variable type) :
    of (v.shift offset) = of v := by
  have same : (v.handle.shift offset == v.handle.shift offset) = (v.handle == v.handle) :=
    v.handle.beq_shift offset v.handle
  have hashes := v.handle.hash_shift offset v.handle
  simp only [of, sameIdentity, identityHash, Identified.handle, Variable.erase, Variable.shift,
    id_eq, same, hashes]

/-- Later variables compare as the variables do. -/
theorem Comparison.of_shift {τ : Type} {left right : τ} (v : Variable left) (w : Variable right) :
    of (v.shift offset) (w.shift offset) = of v w := by
  -- Equality, order and hash are all that a comparison asks of two handles.
  have same := v.handle.beq_shift offset w.handle
  have reversed := w.handle.beq_shift offset v.handle
  have hashes := v.handle.hash_shift offset w.handle
  have order := v.handle.order_shift offset w.handle
  simp only [of, sameIdentity, identityHash, mintingOrder, mintingOrder?, Identified.handle,
    Variable.erase, Variable.shift, Handle.typed, id_eq, same, reversed, hashes, order]

variable {τ : Type} [Universe τ] [Shiftable τ]

/-- The same answer with later handles. -/
def Answer.shift : Answer τ → Answer τ
  | .handle named => .handle (named.shift offset)
  | .handles named => .handles (named.map (·.shift offset))
  | .minted summary => .minted (summary.shift offset)
  | .view named => .view (named.shift offset)
  | .inspection named found => .inspection (named.shift offset) found
  | .comparison found => .comparison found
  | .sorted collections => .sorted (collections.shift offset)
  | .labels report => .labels report
  | .type same => .type same
  | .property shown => .property (shown.shift offset)
  | .value read => .value (read.shift offset)
  | .applied made => .applied (made.map (·.shift offset))
  | .outcomes reached =>
    .outcomes (reached.map fun one => ⟨one.target, one.outcome.shift offset⟩)
  | .created number vacant => .created number vacant
  | .size number => .size number
  | .truth same => .truth same
  | .store shown => .store (shown.shift offset)
  | .fault cause => .fault (cause.shift offset)

/-- The same end of a step with later handles. -/
def Reply.shift : Reply τ → Reply τ
  | .done answer => .done (answer.shift offset)
  | .fault cause => .fault (cause.shift offset)
  | .panic cause => .panic cause
  | .refused => .refused

/-- The same response with later handles: the same kind of end, the same calls, the same events. -/
def Response.shift (response : Response τ) : Response τ :=
  { reply := response.reply.shift offset
    calls := response.calls.map (·.shift offset)
    events := response.events.map (·.shift offset) }

/-- Faults are remembered with later handles. -/
theorem Reply.fault?_shift (reply : Reply τ) :
    (reply.shift offset).fault? = reply.fault?.map (·.shift offset) := by
  cases reply <;> rfl

/-- A reading that looks handles up and does not count them. -/
def Reading.Uniform (reading : Reading τ) : Prop :=
  -- Where names stand for later handles, the content that is read has the later ones.
  ∀ lookup : String → Option Handle,
    reading (fun name => (lookup name).map (·.shift offset)) =
      Argument.shift offset (reading lookup)

/-- A command whose readings do not count handles. -/
def Command.Uniform : Command τ → Prop
  | .map _ _ argument _ _ => argument.Uniform offset
  | .evaluate _ _ input => input.Uniform offset
  | .apply _ _ input => input.Uniform offset
  | .evaluateEach _ _ inputs => ∀ input ∈ inputs, input.Uniform offset
  | .bind _ _ given => given.Uniform offset
  | _ => True

namespace Session

/-- Later evaluations are answered by later values, the same faults or the same panics. -/
theorem evaluated_shift {target : τ} (evaluation : Evaluation target) (events : List Event) :
    evaluated (evaluation.shift offset) (events.map (·.shift offset)) =
      (evaluated evaluation events).shift offset := by
  rcases evaluation with ⟨calls, outcome⟩
  cases outcome <;> rfl

/-- So are later applications. -/
theorem applied_shift {target : τ} (run : Option (Run target)) :
    applied (run.map (·.shift offset)) = (applied run).shift offset := by
  cases run with
  | none => rfl
  | some made =>
    rcases made with ⟨calls, result⟩
    cases result <;> rfl

/-- And later calls on stores. -/
theorem served_shift (made : Served τ) :
    served (made.shift offset) = (served made).shift offset := by
  rcases made with ⟨result, events, store⟩
  cases result with
  | bound =>
    simp only [served, Served.shift, StoreResult.shift, store.size_shift]
    rfl
  | evaluation reached => exact evaluated_shift offset reached events
  | truth | value | description | fault => rfl

/-- A session with later handles than another, which is otherwise the same. -/
structure ShiftsTo (first second : Session τ) : Prop where
  supply : second.supply = first.supply.shift offset
  views : second.views.Follows (·.shift offset) first.views
  -- Transforms cannot be looked into, so properties are related by what they do.
  properties : ∀ name,
    Option.Rel (SomeProperty.ShiftsTo offset) (first.properties name) (second.properties name)
  stores : second.stores.Follows (·.shift offset) first.stores
  faults : second.faults = first.faults.map (Option.map (·.shift offset))

namespace ShiftsTo

variable {offset} {first second : Session τ}

/-- A later supply may be taken. -/
theorem withSupply (shifts : first.ShiftsTo offset second) (supply : Supply) :
    ShiftsTo offset { first with supply } { second with supply := supply.shift offset } where
  supply := rfl
  views := shifts.views
  properties := shifts.properties
  stores := shifts.stores
  faults := shifts.faults

/-- A later variable may be put under a name. -/
theorem putVariable (shifts : first.ShiftsTo offset second) (name : String) {type : τ}
    (v : Variable type) :
    (first.putVariable name v).ShiftsTo offset (second.putVariable name (v.shift offset)) where
  supply := shifts.supply
  views := shifts.views.put name ⟨type, v⟩
  properties := shifts.properties
  stores := shifts.stores
  faults := shifts.faults

/-- A related property may be put under a name. -/
theorem putProperty (shifts : first.ShiftsTo offset second) (name : String)
    {property later : SomeProperty τ} (related : property.ShiftsTo offset later) :
    (first.putProperty name property).ShiftsTo offset (second.putProperty name later) where
  supply := shifts.supply
  views := shifts.views
  properties := by
    intro asked
    show Option.Rel _ (first.properties.put name property asked)
      (second.properties.put name later asked)
    -- Only what was under the name before is replaced.
    by_cases here : asked = name
    · rw [here, Scope.put_same, Scope.put_same]
      exact .some related
    · rw [Scope.put_of_ne here, Scope.put_of_ne here]
      exact shifts.properties asked
  stores := shifts.stores
  faults := shifts.faults

/-- A store of later variables may be put under a name. -/
theorem putStore (shifts : first.ShiftsTo offset second) (name : String) (store : Bindings τ) :
    (first.putStore name store).ShiftsTo offset (second.putStore name (store.shift offset)) where
  supply := shifts.supply
  views := shifts.views
  properties := shifts.properties
  stores := shifts.stores.put name store
  faults := shifts.faults

/-- Steps that ended alike may be remembered. -/
theorem record (shifts : first.ShiftsTo offset second) (response : Response τ) :
    (Session.record response first).2.ShiftsTo offset
      (Session.record (response.shift offset) second).2 where
  supply := shifts.supply
  views := shifts.views
  properties := shifts.properties
  stores := shifts.stores
  faults := by
    simp only [Session.record, shifts.faults, List.map_append, Response.shift,
      Reply.fault?_shift]
    rfl

/-- The handles of names are later ones. -/
theorem handle? (shifts : first.ShiftsTo offset second) :
    second.handle? = fun name => (first.handle? name).map (·.shift offset) := by
  funext name
  simp only [Session.handle?, shifts.views name, Option.map_map]
  rfl

/-- Also those of several names. -/
theorem handles? (shifts : first.ShiftsTo offset second) (names : List String) :
    second.handles? names = (first.handles? names).map (·.map (·.shift offset)) :=
  mapM_shift (Handle.shift offset) fun name _ => congrFun shifts.handle? name

/-- And those of entries with labels. -/
theorem labelEntries? (shifts : first.ShiftsTo offset second) (entries : List (String × String)) :
    second.labelEntries? entries =
      (first.labelEntries? entries).map
        (·.map fun entry => (entry.1.shift offset, entry.2)) := by
  refine mapM_shift (fun entry : Handle × String => (entry.1.shift offset, entry.2)) ?_
  intro entry _
  simp only [shifts.handle?]
  cases first.handle? entry.1 <;> rfl

/-- What is read for a type is read with later handles. -/
theorem content? (shifts : first.ShiftsTo offset second) (catalogue : Catalogue τ)
    {reading : Reading τ} (uniform : reading.Uniform offset) (type : τ) :
    second.content? catalogue reading type =
      (first.content? catalogue reading type).map (shiftContent offset type) := by
  simp only [Session.content?, shifts.handle?, uniform first.handle?]
  -- Types without values are refused in both sessions.
  split <;> rfl

/-- Also together with the type. -/
theorem read? (shifts : first.ShiftsTo offset second) (catalogue : Catalogue τ)
    {reading : Reading τ} (uniform : reading.Uniform offset) (type : τ) :
    second.read? catalogue reading type =
      (first.read? catalogue reading type).map (·.shift offset) := by
  simp only [Session.read?, shifts.content? catalogue uniform, Option.map_map]
  rfl

/-- Named variables with values are later ones. -/
theorem valued? (shifts : first.ShiftsTo offset second) (catalogue : Catalogue τ)
    (name : String) :
    second.valued? catalogue name = (first.valued? catalogue name).map (·.shift offset) := by
  simp only [Session.valued?, shifts.views name]
  cases first.views name with
  | none => rfl
  | some named =>
    -- The type of a later variable is the same, so it passes the same test.
    simp only [Option.map_some, Option.filter_some]
    cases kept : catalogue.hasValues named.type with
    | true => simp [SomeVariable.shift, kept]
    | false => simp [SomeVariable.shift, kept]

/-- The fault of a step is that of a later handle. -/
theorem faultOf? (shifts : first.ShiftsTo offset second) (step : Nat) :
    second.faultOf? step = (first.faultOf? step).map (·.shift offset) := by
  simp only [Session.faultOf?, shifts.faults, List.getElem?_map]
  -- There is no such step, or it ended at no fault, or at a fault.
  rcases first.faults[step]? with _ | _ | _ <;> rfl

end ShiftsTo

end Session

end

end Unknowns
