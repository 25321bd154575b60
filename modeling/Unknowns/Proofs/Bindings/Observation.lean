import Unknowns.Bindings.Request
import Unknowns.Proofs.Elements
import Unknowns.Transcript

/-! What is observed of a store follows from what each of its variables is bound to. -/

namespace Unknowns

variable {τ : Type} [Universe τ]

namespace Bindings

/-- A variable is listed exactly when it is bound to something. -/
theorem mem_handles_iff {store : Bindings τ} {handle : Handle} :
    handle ∈ store.handles ↔ store.get? handle ≠ none := by
  rw [ne_eq, get?_eq_none_iff, Decidable.not_not]

/-- A bound variable cannot be bound again. -/
theorem bind_of_mem {store : Bindings τ} {type : τ} {v : Variable type}
    (present : v.erase ∈ store.handles) (content : Carrier type) :
    store.bind v content = .error (.alreadyBound v.erase) :=
  bind_eq_error_iff.mpr ⟨present, rfl⟩

/-- An unbound variable can be bound to anything. -/
theorem bind_of_not_mem {store : Bindings τ} {type : τ} {v : Variable type}
    (absent : v.erase ∉ store.handles) (content : Carrier type) :
    ∃ larger, store.bind v content = .ok larger := by
  cases bound : store.bind v content with
  | error fault => exact absurd (bind_eq_error_iff.mp bound).1 absent
  | ok larger => exact ⟨larger, rfl⟩

/-- A reading depends only on what its variable is bound to. -/
theorem value_congr [DecidableEq τ] {first second : Bindings τ} {type : τ} {v : Variable type}
    (same : first.get? v.erase = second.get? v.erase) : first.value v = second.value v := by
  rw [value, value, same]

/-- So does an evaluation. -/
theorem evaluate_congr {first second : Bindings τ} {target : τ} {property : Property target}
    (same : first.get? property.handle = second.get? property.handle) :
    first.evaluate property = second.evaluate property := by
  rw [evaluate, evaluate, same]

/-- Two stores have the same description exactly when the same variables are bound in them. -/
theorem description_eq_iff {first second : Bindings τ} :
    first.description = second.description ↔
      ∀ handle, handle ∈ first.handles ↔ handle ∈ second.handles := by
  constructor
  · intro equal
    exact ascending_eq_iff.mp (congrArg StoreDescription.handles equal)
  · intro same
    -- No variable is listed twice, so both lists are as long as the set of their variables.
    have arranged : first.handles.Perm second.handles :=
      (List.perm_ext_iff_of_nodup first.distinct second.distinct).mpr same
    have size : first.entries.length = second.entries.length := by
      simpa only [handles, List.length_map] using arranged.length_eq
    have isEmpty : first.entries.isEmpty = second.entries.isEmpty := by
      rw [Bool.eq_iff_iff, List.isEmpty_iff_length_eq_zero, List.isEmpty_iff_length_eq_zero, size]
    simp only [description, Bindings.size, Bindings.isEmpty, size, isEmpty,
      ascending_eq_iff.mpr same]

end Bindings

namespace StoreRequest

/-- The variable that a call is about; only a description is about none. -/
def subject? : StoreRequest τ → Option Handle
  | .change (.bind v _) => some v.erase
  | .change (.unbind mention) => some (Identified.handle mention)
  | .isBound mention => some (Identified.handle mention)
  | .value v => some v.erase
  | .evaluateVariable v => some v.erase
  | .evaluateProperty property => some property.handle
  | .describe => none

/-- Whether a call may change what a variable is bound to. -/
def Touches (handle : Handle) : StoreRequest τ → Prop
  | .change (.bind v _) => v.erase = handle
  | .change (.unbind mention) => Identified.handle mention = handle
  | _ => False

variable [DecidableEq τ]

/-- A call leaves every variable that it does not touch bound to what it was bound to. -/
theorem get?_serve {handle : Handle} {request : StoreRequest τ} (apart : ¬ request.Touches handle)
    (store : Bindings τ) : (request.serve store).store.get? handle = store.get? handle := by
  cases request with
  | change made =>
    cases made with
    | bind v content =>
      have other : handle ≠ v.erase := fun same => apart same.symm
      simp only [serve, StoreChange.serve]
      cases bound : store.bind v content with
      | error fault => rfl
      | ok larger =>
        dsimp only
        rw [Bindings.get?_of_bind bound, if_neg other]
    | unbind mention =>
      have other : handle ≠ Identified.handle mention := fun same => apart same.symm
      simp only [serve, StoreChange.serve]
      rw [Bindings.get?_unbind, if_neg other]
  | value v =>
    simp only [serve]
    cases store.value v <;> rfl
  | isBound | evaluateVariable | evaluateProperty | describe => rfl

/-- What a call returns and what is heard of it, and the store that it leaves. -/
def respond (store : Bindings τ) (request : StoreRequest τ) :
    (StoreResult τ × List Event) × Bindings τ :=
  (((request.serve store).result, (request.serve store).events), (request.serve store).store)

/-- A call about another variable leaves a variable bound to what it was bound to. -/
theorem get?_respond_of_ne {request : StoreRequest τ} {handle : Handle}
    (other : request.subject? ≠ some handle) (store : Bindings τ) :
    (request.respond store).2.get? handle = store.get? handle := by
  -- Whatever a call touches is the variable that it is about.
  refine get?_serve (fun touched => other ?_) store
  cases request with
  | change made => cases made <;> exact congrArg some touched
  | isBound | value | evaluateVariable | evaluateProperty | describe => cases touched

variable {first second : Bindings τ} {handle : Handle}

/-- A change looks at its own variable only: whether it is bound, and at most what is put there. -/
private theorem respond_change_congr {made : StoreChange τ}
    (about : subject? (.change made) = some handle)
    (listed : handle ∈ first.handles ↔ handle ∈ second.handles)
    (same : first.get? handle = second.get? handle) :
    (respond first (.change made)).1 = (respond second (.change made)).1 ∧
      (respond first (.change made)).2.get? handle =
        (respond second (.change made)).2.get? handle := by
  cases made with
  | bind v content =>
    cases about
    by_cases present : v.erase ∈ first.handles
    · -- A bound variable keeps its binding in both stores.
      have failed := Bindings.bind_of_mem present content
      have alsoFailed := Bindings.bind_of_mem (listed.mp present) content
      simp only [respond, serve, StoreChange.serve, failed, alsoFailed]
      exact ⟨trivial, same⟩
    · obtain ⟨one, bound⟩ := Bindings.bind_of_not_mem present content
      obtain ⟨another, alsoBound⟩ :=
        Bindings.bind_of_not_mem (mt listed.mpr present) content
      simp only [respond, serve, StoreChange.serve, bound, alsoBound]
      refine ⟨trivial, ?_⟩
      rw [Bindings.get?_of_bind bound, Bindings.get?_of_bind alsoBound, if_pos rfl, if_pos rfl]
  | unbind mention =>
    cases about
    have removed : first.isBound mention = second.isBound mention := by
      simp only [Bindings.isBound, listed]
    simp only [respond, serve, StoreChange.serve]
    refine ⟨?_, ?_⟩
    · simp only [Bindings.unbind, removed]
      trivial
    · rw [Bindings.get?_unbind, Bindings.get?_unbind, if_pos rfl, if_pos rfl]

/-- A call looks at its own variable only, and what it leaves of it depends on nothing else. -/
theorem respond_congr {request : StoreRequest τ} (about : request.subject? = some handle)
    (same : first.get? handle = second.get? handle) :
    (request.respond first).1 = (request.respond second).1 ∧
      (request.respond first).2.get? handle = (request.respond second).2.get? handle := by
  -- Whether the variable is bound is the same question in both stores.
  have listed : handle ∈ first.handles ↔ handle ∈ second.handles := by
    rw [Bindings.mem_handles_iff, Bindings.mem_handles_iff, same]
  cases request with
  | describe => cases about
  | change made => exact respond_change_congr about listed same
  | isBound mention =>
    cases about
    simp only [respond, serve, Bindings.isBound, listed]
    exact ⟨trivial, same⟩
  | value v =>
    cases about
    have read : first.value v = second.value v := Bindings.value_congr same
    simp only [respond, serve, read]
    cases second.value v <;> exact ⟨rfl, same⟩
  | evaluateVariable v =>
    cases about
    have evaluated : first.evaluate v.property = second.evaluate v.property :=
      Bindings.evaluate_congr same
    simp only [respond, serve, evaluated]
    exact ⟨trivial, same⟩
  | evaluateProperty property =>
    cases about
    simp only [respond, serve, Bindings.evaluate_congr same]
    exact ⟨trivial, same⟩

/-- Stores in which every variable is bound to the same respond to every call alike. -/
theorem respond_alike (same : ∀ handle, first.get? handle = second.get? handle)
    (request : StoreRequest τ) :
    (request.respond first).1 = (request.respond second).1 ∧
      ∀ handle, (request.respond first).2.get? handle = (request.respond second).2.get? handle := by
  cases about : request.subject? with
  | none =>
    -- What is left is a description, which shows the bound variables and changes none.
    have described : first.description = second.description := by
      refine Bindings.description_eq_iff.mpr fun handle => ?_
      rw [Bindings.mem_handles_iff, Bindings.mem_handles_iff, same handle]
    cases request with
    | describe =>
      simp only [respond, serve, described]
      exact ⟨trivial, same⟩
    | change made => cases made <;> cases about
    | isBound | value | evaluateVariable | evaluateProperty => cases about
  | some subject =>
    obtain ⟨answered, own⟩ := respond_congr about (same subject)
    refine ⟨answered, fun handle => ?_⟩
    by_cases here : subject = handle
    · rw [← here]
      exact own
    · have other : request.subject? ≠ some handle := fun equal =>
        here (Option.some.inj (about.symm.trans equal))
      rw [get?_respond_of_ne other, get?_respond_of_ne other, same handle]

end StoreRequest

namespace Bindings

variable [DecidableEq τ]

/-- Two stores that no observer tells apart, now or after any further calls on both of them. -/
structure Indistinguishable (first second : Bindings τ) : Prop where
  size : first.size = second.size
  isEmpty : first.isEmpty = second.isEmpty
  bound : ∀ handle, handle ∈ first.handles ↔ handle ∈ second.handles
  value : ∀ {type : τ} (v : Variable type), first.value v = second.value v
  evaluate : ∀ {target : τ} (property : Property target),
    first.evaluate property = second.evaluate property
  inline : first.description.outline.inline = second.description.outline.inline
  block : first.description.outline.block = second.description.outline.block
  later : ∀ requests : List (StoreRequest τ),
    (transcript (fun store request => request.respond store) first requests).1 =
      (transcript (fun store request => request.respond store) second requests).1

/-- Stores in which every variable is bound to the same are told apart by nothing. -/
theorem Indistinguishable.of_get? {first second : Bindings τ}
    (same : ∀ handle, first.get? handle = second.get? handle) :
    first.Indistinguishable second := by
  have bound : ∀ handle, handle ∈ first.handles ↔ handle ∈ second.handles := by
    intro handle
    rw [mem_handles_iff, mem_handles_iff, same handle]
  have described : first.description = second.description := description_eq_iff.mpr bound
  exact {
    size := congrArg StoreDescription.size described
    isEmpty := congrArg StoreDescription.isEmpty described
    bound := bound
    value := fun v => value_congr (same v.erase)
    evaluate := fun property => evaluate_congr (same property.handle)
    inline := by rw [described]
    block := by rw [described]
    later := fun requests =>
      (transcript_simulates (fun _ _ request held => StoreRequest.respond_alike held request)
        requests same).1 }

end Bindings

end Unknowns
