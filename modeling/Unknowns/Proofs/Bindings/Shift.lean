import Unknowns.Bindings.Request
import Unknowns.Proofs.Property.Shift

/-! Stores of later variables answer every call as the stores of the variables themselves do. -/

namespace Unknowns

variable {τ : Type} [Universe τ] [Shiftable τ] (offset : Nat)

/-- The store in which each variable is a later one, and its value is of later ones. -/
def Bindings.shift (store : Bindings τ) : Bindings τ where
  entries := store.entries.map fun entry => (entry.1.shift offset, entry.2.shift offset)
  distinct := by
    rw [List.map_map]
    refine List.pairwise_map.mpr ((List.pairwise_map.mp store.distinct).imp ?_)
    -- Variables that differ are later ones that differ.
    intro left right differ same
    exact differ ((Handle.shift_inj offset).mp same)

/-- The same description of later variables. -/
def StoreDescription.shift (description : StoreDescription) : StoreDescription :=
  { description with handles := description.handles.map (·.shift offset) }

/-- The same mention of a later variable. -/
def Mention.shift : Mention τ → Mention τ
  | .variable named => .variable (named.shift offset)
  | .reference named => .reference (named.shift offset)
  | .erased handle => .erased (handle.shift offset)

omit [Universe τ] [Shiftable τ] in
/-- It is about the later handle. -/
theorem Mention.handle_shift (mention : Mention τ) :
    Identified.handle (mention.shift offset) = (Identified.handle mention).shift offset := by
  cases mention <;> rfl

namespace Bindings

variable (store : Bindings τ)

/-- The bound variables are the later ones, in the same order. -/
theorem handles_shift : (store.shift offset).handles = store.handles.map (·.shift offset) := by
  simp only [handles, shift, List.map_map]
  rfl

/-- A later variable is bound exactly when the variable is. -/
theorem mem_handles_shift {handle : Handle} :
    handle.shift offset ∈ (store.shift offset).handles ↔ handle ∈ store.handles := by
  rw [handles_shift, mem_map_shift]

/-- It is bound to the later value. -/
theorem get?_shift (handle : Handle) :
    (store.shift offset).get? (handle.shift offset) =
      (store.get? handle).map (·.shift offset) :=
  lookup_shift offset (Value.shift offset) handle store.entries

/-- As many variables are bound. -/
theorem size_shift : (store.shift offset).size = store.size := List.length_map _

/-- Nothing is bound if nothing was. -/
theorem isEmpty_shift : (store.shift offset).isEmpty = store.isEmpty := by
  simp only [isEmpty, shift, List.isEmpty_map]

/-- The description is that of later variables, in the same order. -/
theorem description_shift :
    (store.shift offset).description = store.description.shift offset := by
  rw [description, size_shift, isEmpty_shift, handles_shift, ascending_shift]
  rfl

/-- A later variable is bound to a later value exactly when the variable is bound to the value. -/
theorem bind_shift {type : τ} (v : Variable type) (content : Carrier type) :
    (store.shift offset).bind (v.shift offset) (shiftContent offset type content) =
      match store.bind v content with
      | .error fault => .error (fault.shift offset)
      | .ok larger => .ok (larger.shift offset) := by
  have same : (v.shift offset).erase ∈ (store.shift offset).handles ↔
      v.erase ∈ store.handles := store.mem_handles_shift offset
  unfold bind
  -- The variable is bound in both stores or in neither.
  by_cases present : v.erase ∈ store.handles
  · rw [dif_pos present, dif_pos (same.mpr present)]
    rfl
  · rw [dif_neg present, dif_neg (mt same.mp present)]
    rfl

/-- A later variable is bound exactly when what it is named by was. -/
theorem isBound_shift (mention : Mention τ) :
    (store.shift offset).isBound (mention.shift offset) = store.isBound mention := by
  rw [isBound, isBound, mention.handle_shift, decide_eq_decide]
  exact store.mem_handles_shift offset

/-- An unbinding of a later variable leaves the others. -/
theorem unbind_shift (mention : Mention τ) :
    (store.shift offset).unbind (mention.shift offset) =
      ((store.unbind mention).1, (store.unbind mention).2.shift offset) := by
  rw [unbind, isBound_shift]
  refine Prod.ext rfl ?_
  simp only [unbind, shift, mention.handle_shift, List.filter_map, mk.injEq]
  -- An entry stays if its variable is another one, which later variables are as well.
  refine congrArg _ (List.filter_congr fun entry _ => ?_)
  simp [Handle.shift_inj]

/-- A related property evaluates to what is later. -/
theorem evaluate_shift {target : τ} {first second : Property target}
    (shifts : first.ShiftsTo offset second) :
    (store.shift offset).evaluate second = (store.evaluate first).shift offset := by
  unfold evaluate
  rw [shifts.handle, get?_shift]
  cases store.get? first.handle with
  | none => rfl
  | some bound => exact shifts.evaluate bound

variable [DecidableEq τ]

/-- A later variable has the later value, or the same fault. -/
theorem value_shift {type : τ} (v : Variable type) :
    (store.shift offset).value (v.shift offset) =
      match store.value v with
      | .error fault => .error (fault.shift offset)
      | .ok content => .ok (shiftContent offset type content) := by
  have found : (store.shift offset).get? (v.shift offset).erase =
      (store.get? v.erase).map (·.shift offset) := store.get?_shift offset v.erase
  unfold value
  rw [found]
  cases store.get? v.erase with
  | none => rfl
  | some bound =>
    -- The value is of the type of the view in both stores, or of another one in both.
    dsimp only [Option.map_some]
    rw [Value.as?_shift]
    cases bound.as? type <;> rfl

end Bindings

/-- A call that is about later variables and values, and otherwise the same as another. -/
inductive StoreRequest.ShiftsTo : StoreRequest τ → StoreRequest τ → Prop
  | bind {type : τ} (v : Variable type) (content : Carrier type) :
      ShiftsTo (.change (.bind v content))
        (.change (.bind (v.shift offset) (shiftContent offset type content)))
  | unbind (mention : Mention τ) :
      ShiftsTo (.change (.unbind mention)) (.change (.unbind (mention.shift offset)))
  | isBound (mention : Mention τ) : ShiftsTo (.isBound mention) (.isBound (mention.shift offset))
  | value {type : τ} (v : Variable type) : ShiftsTo (.value v) (.value (v.shift offset))
  | evaluateVariable {type : τ} (v : Variable type) :
      ShiftsTo (.evaluateVariable v) (.evaluateVariable (v.shift offset))
  | evaluateProperty {target : τ} {first second : Property target}
      (shifts : first.ShiftsTo offset second) :
      ShiftsTo (.evaluateProperty first) (.evaluateProperty second)
  | describe : ShiftsTo .describe .describe

/-- The same result with later handles. -/
def StoreResult.shift : StoreResult τ → StoreResult τ
  | .bound => .bound
  | .truth same => .truth same
  | .value read => .value (read.shift offset)
  | .evaluation reached => .evaluation (reached.shift offset)
  | .description shown => .description (shown.shift offset)
  | .fault cause => .fault (cause.shift offset)

/-- The same outcome of a call with later handles. -/
def Served.shift (served : Served τ) : Served τ :=
  { result := served.result.shift offset
    events := served.events.map (·.shift offset)
    store := served.store.shift offset }

/-- A call about later variables is served as the call about the variables themselves. -/
theorem StoreRequest.serve_shift [DecidableEq τ] {request later : StoreRequest τ}
    (shifts : request.ShiftsTo offset later) (store : Bindings τ) :
    later.serve (store.shift offset) = (request.serve store).shift offset := by
  -- One case for each call, and for each of them the law of the store.
  cases shifts with
  | bind v content =>
    simp only [serve, StoreChange.serve, Bindings.bind_shift]
    cases store.bind v content <;> rfl
  | unbind mention =>
    simp only [serve, StoreChange.serve, Bindings.unbind_shift, mention.handle_shift]
    -- The unbinding is heard of in both stores or in neither.
    cases (store.unbind mention).1 <;> rfl
  | isBound mention =>
    simp only [serve, Bindings.isBound_shift]
    rfl
  | value v =>
    simp only [serve, Bindings.value_shift]
    cases store.value v <;> rfl
  | evaluateVariable v =>
    -- The derivation is heard of first, also if the variable is unbound.
    have shifts : v.property.ShiftsTo offset (v.shift offset).property := v.property_shiftsTo
    simp only [serve, store.evaluate_shift offset shifts, shifts.derivedEvent]
    rfl
  | evaluateProperty shifts =>
    simp only [serve, store.evaluate_shift offset shifts]
    rfl
  | describe =>
    simp only [serve, Bindings.description_shift]
    rfl

end Unknowns
