import Unknowns.Ascending
import Unknowns.Property

/-! Stores of bindings: each variable is bound at most once, to a value of any type. -/

namespace Unknowns

/-- The bound variables with their values, none of them twice. -/
structure Bindings (τ : Type) [Universe τ] where
  entries : List (Handle × Value τ)
  distinct : (entries.map Prod.fst).Nodup

namespace Bindings

variable {τ : Type} [Universe τ]

/-- A store without bindings. -/
def empty : Bindings τ := ⟨[], List.nodup_nil⟩

/-- A store without bindings that has room for some; the room cannot be seen. -/
def withCapacity (_ : Nat) : Bindings τ := empty

/-- A new store, with room for some bindings if a number of them is given. -/
def create (capacity : Option Nat) : Bindings τ :=
  capacity.elim empty withCapacity

/-- The bound variables, in no particular order. -/
def handles (store : Bindings τ) : List Handle :=
  store.entries.map Prod.fst

/-- The number of bindings. -/
def size (store : Bindings τ) : Nat := store.entries.length

/-- Whether nothing is bound. -/
def isEmpty (store : Bindings τ) : Bool := store.entries.isEmpty

/-- Whether a variable is bound, to a value of whatever type. -/
def isBound {α : Type} [Identified α] (store : Bindings τ) (thing : α) : Bool :=
  decide (Identified.handle thing ∈ store.handles)

/-- What a variable is bound to. -/
def get? (store : Bindings τ) (handle : Handle) : Option (Value τ) :=
  store.entries.lookup handle

/-- The store with one more binding; a bound variable keeps its binding. -/
def bind {type : τ} (store : Bindings τ) (v : Variable type) (content : Carrier type) :
    Except Fault (Bindings τ) :=
  -- A binding at any other type counts as well.
  if present : v.erase ∈ store.handles then .error (.alreadyBound v.erase)
  else .ok ⟨(v.erase, ⟨type, content⟩) :: store.entries,
    List.nodup_cons.mpr ⟨present, store.distinct⟩⟩

/-- Whether a variable was bound, and the store without its binding. -/
def unbind {α : Type} [Identified α] (store : Bindings τ) (thing : α) : Bool × Bindings τ :=
  -- Without a binding of the variable every entry stays.
  (store.isBound thing,
    ⟨store.entries.filter (·.1 ≠ Identified.handle thing),
      store.distinct.sublist (List.filter_sublist.map Prod.fst)⟩)

/-- The value of a variable at the type it is viewed at. -/
def value [DecidableEq τ] {type : τ} (store : Bindings τ) (v : Variable type) :
    Except Fault (Carrier type) :=
  match store.get? v.erase with
  | none => .error (.unbound v.erase)
  | some bound =>
    match bound.as? type with
    | none => .error (.typeMismatch v.erase (Universe.name type))
    | some content => .ok content

/-- Evaluates a property on what its variable is bound to. -/
def evaluate {target : τ} (store : Bindings τ) (property : Property target) : Evaluation target :=
  -- Whether the variable is bound at all is settled before its type is looked at.
  match store.get? property.handle with
  | none => .faulty (.unbound property.handle)
  | some bound => property.evaluate bound

/-- Nothing is bound in an empty store. -/
@[simp] theorem get?_empty (handle : Handle) : (empty : Bindings τ).get? handle = none := rfl

/-- A variable has no value exactly when it is not among the bound ones. -/
theorem get?_eq_none_iff {store : Bindings τ} {handle : Handle} :
    store.get? handle = none ↔ handle ∉ store.handles := by
  simp only [get?, handles, List.lookup_eq_none_iff, List.mem_map, not_exists, not_and]
  constructor
  · intro absent entry member same
    have differ := absent entry member
    simp [same] at differ
  · intro absent entry member
    have differ := absent entry member
    simp only [ne_eq, bne_iff_ne]
    exact fun same => differ same.symm

/-- Binding fails exactly for bound variables, and then names the variable. -/
theorem bind_eq_error_iff {store : Bindings τ} {type : τ} {v : Variable type}
    {content : Carrier type} {fault : Fault} :
    store.bind v content = .error fault ↔
      v.erase ∈ store.handles ∧ fault = .alreadyBound v.erase := by
  unfold bind
  split
  · rename_i present
    simp [present, eq_comm]
  · rename_i absent
    simp [absent]

/-- After a binding, its variable has the new value and all others have what they had. -/
theorem get?_of_bind {store larger : Bindings τ} {type : τ} {v : Variable type}
    {content : Carrier type} (bound : store.bind v content = .ok larger) (other : Handle) :
    larger.get? other = if other = v.erase then some ⟨type, content⟩ else store.get? other := by
  unfold bind at bound
  split at bound
  · cases bound
  · cases bound
    by_cases same : other = v.erase
    · simp [get?, same]
    · have differ : (other == v.erase) = false := by simp [same]
      simp [get?, List.lookup_cons, same, differ]

/-- A binding lists its variable before the others. -/
theorem handles_of_bind {store larger : Bindings τ} {type : τ} {v : Variable type}
    {content : Carrier type} (bound : store.bind v content = .ok larger) :
    larger.handles = v.erase :: store.handles := by
  unfold bind at bound
  split at bound
  · cases bound
  · cases bound
    rfl

/-- An unbinding takes its variable off the list and leaves the others in their places. -/
theorem handles_unbind {α : Type} [Identified α] (store : Bindings τ) (thing : α) :
    (store.unbind thing).2.handles = store.handles.filter (· ≠ Identified.handle thing) := by
  simp only [handles, unbind, List.filter_map]
  rfl

/-- After an unbinding, its variable has no value and all others have what they had. -/
theorem get?_unbind {α : Type} [Identified α] (store : Bindings τ) (thing : α) (other : Handle) :
    (store.unbind thing).2.get? other =
      if other = Identified.handle thing then none else store.get? other := by
  simp only [get?, unbind]
  generalize Identified.handle thing = handle
  induction store.entries with
  | nil => simp
  | cons entry rest ih =>
    rcases entry with ⟨key, held⟩
    by_cases removed : key = handle
    · -- The entry goes, and only its own variable can have been found in it.
      simp only [ne_eq, removed, not_true_eq_false, decide_false, Bool.false_eq_true,
        not_false_eq_true, List.filter_cons_of_neg]
      by_cases same : other = handle
      · simpa [same] using ih
      · have differ : (other == handle) = false := by simp [same]
        simpa [same, List.lookup_cons, differ] using ih
    · rw [List.filter_cons_of_pos (by simpa using removed)]
      by_cases here : other = key
      · subst here
        simp [removed]
      · have differ : (other == key) = false := by simp [here]
        simpa [List.lookup_cons, differ] using ih

section

variable [DecidableEq τ] {store : Bindings τ} {type : τ} {v : Variable type}

/-- A variable's value is read exactly when the variable is bound to it at the type of the view. -/
theorem value_eq_ok_iff {content : Carrier type} :
    store.value v = .ok content ↔ store.get? v.erase = some ⟨type, content⟩ := by
  unfold value
  cases found : store.get? v.erase with
  | none => simp
  | some held =>
    dsimp only
    rw [Option.some.injEq, ← Value.as?_eq_some_iff]
    cases held.as? type <;> simp

/-- A reading fails exactly for variables that are unbound or bound at another type. -/
theorem value_eq_error_iff {fault : Fault} :
    store.value v = .error fault ↔
      (store.get? v.erase = none ∧ fault = .unbound v.erase) ∨
        ∃ held, store.get? v.erase = some held ∧ held.type ≠ type ∧
          fault = .typeMismatch v.erase (Universe.name type) := by
  -- The two faults are told apart by whether a binding is found at all.
  unfold value
  cases found : store.get? v.erase with
  | none => simp [eq_comm]
  | some held =>
    simp only [reduceCtorEq, false_and, Option.some.injEq, false_or, exists_eq_left',
      ← Value.as?_eq_none_iff]
    cases held.as? type <;> simp [eq_comm]

end

end Bindings

/-- What is shown of a store: its bound variables in minting order, but not their values. -/
structure StoreDescription where
  size : Nat
  isEmpty : Bool
  handles : List Handle
deriving DecidableEq

/-- The description of a store. -/
def Bindings.description {τ : Type} [Universe τ] (store : Bindings τ) : StoreDescription :=
  ⟨store.size, store.isEmpty, ascending store.handles⟩

/-- The layout of a store's description. -/
def StoreDescription.outline (description : StoreDescription) : Outline :=
  .record "Bindings"
    [("bound", .list (description.handles.map fun handle => .atom handle.text))] true

end Unknowns
