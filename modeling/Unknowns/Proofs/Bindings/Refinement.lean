import Mathlib.Data.Finmap
import Unknowns.Bindings.Request
import Unknowns.Transcript

/-! A store of bindings answers every run of changes as a finite map from variables to values. -/

namespace Unknowns

variable {τ : Type} [Universe τ]

/-- A finite partial map from variables to values, each with the type it was bound at. -/
abbrev BindingMap (τ : Type) [Universe τ] := Finmap fun _ : Handle => Value τ

namespace BindingMap

/-- What a change of the map returns, and the map after it. -/
def change (map : BindingMap τ) : StoreChange τ → StoreResult τ × BindingMap τ
  | @StoreChange.bind _ _ type v content =>
    -- Whatever a variable is bound to stays, and no type is looked at.
    if v.erase ∈ map then (.fault (.alreadyBound v.erase), map)
    else (.bound, map.insert v.erase ⟨type, content⟩)
  | .unbind mention =>
    (.truth (Identified.handle mention ∈ map), map.erase (Identified.handle mention))

end BindingMap

namespace Bindings

/-- What a change of a store returns, and the store after it. -/
def change (store : Bindings τ) (change : StoreChange τ) : StoreResult τ × Bindings τ :=
  ((change.serve store).result, (change.serve store).store)

/-- Every lookup in a store finds what the map holds. -/
def Holds (store : Bindings τ) (map : BindingMap τ) : Prop :=
  ∀ handle, store.get? handle = map.lookup handle

/-- A new store holds nothing, whatever room it was given. -/
theorem holds_create (capacity : Option Nat) :
    (create capacity : Bindings τ).Holds ∅ := by
  -- The room of a store is not among its bindings.
  intro handle
  cases capacity with
  | none => simp [create]
  | some room => simp [create, withCapacity]

namespace Holds

variable {store : Bindings τ} {map : BindingMap τ}

/-- The bound variables of a store are those that the map has a value for. -/
theorem mem_handles (holds : store.Holds map) (handle : Handle) :
    handle ∈ store.handles ↔ handle ∈ map := by
  -- Both sides say that a lookup of the variable finds something.
  rw [← not_iff_not, ← get?_eq_none_iff, holds handle, Finmap.lookup_eq_none]

/-- The list of bound variables has one entry for each variable of the map. -/
theorem handles_toFinset (holds : store.Holds map) : store.handles.toFinset = map.keys := by
  ext handle
  rw [List.mem_toFinset, Finmap.mem_keys]
  exact holds.mem_handles handle

/-- There are as many bindings as the map has variables. -/
theorem size_eq (holds : store.Holds map) : store.size = map.keys.card := by
  -- No variable is listed twice, so the list is as long as its set is large.
  have once : store.handles.Nodup := store.distinct
  rw [← holds.handles_toFinset, List.toFinset_card_of_nodup once]
  simp [size, handles]

/-- Nothing is bound exactly when the map is empty. -/
theorem isEmpty_iff (holds : store.Holds map) : store.isEmpty = true ↔ map = ∅ := by
  have counted : store.isEmpty = true ↔ store.size = 0 := by
    simp [isEmpty, size, List.isEmpty_iff]
  rw [counted, holds.size_eq, Finset.card_eq_zero]
  constructor
  · intro none_
    refine Finmap.ext_lookup fun handle => ?_
    rw [Finmap.lookup_empty, Finmap.lookup_eq_none, ← Finmap.mem_keys, none_]
    exact Finset.notMem_empty handle
  · intro empty_
    rw [empty_, Finmap.keys_empty]

/-- A change returns what it returns on the map, and leaves a store that holds the map after it. -/
theorem change (holds : store.Holds map) (change : StoreChange τ) :
    (store.change change).1 = (map.change change).1 ∧
      (store.change change).2.Holds (map.change change).2 := by
  cases change with
  | @bind type v content =>
    cases made : store.bind v content with
    | error fault =>
      -- The store kept its binding, and so does the map.
      obtain ⟨present, named⟩ := bind_eq_error_iff.mp made
      have mapped := (holds.mem_handles v.erase).mp present
      simp only [Bindings.change, StoreChange.serve, made, BindingMap.change, if_pos mapped, named]
      exact ⟨trivial, holds⟩
    | ok larger =>
      have absent : v.erase ∉ map := by
        intro mapped
        have failed : store.bind v content = .error (.alreadyBound v.erase) :=
          bind_eq_error_iff.mpr ⟨(holds.mem_handles v.erase).mpr mapped, rfl⟩
        rw [made] at failed
        cases failed
      simp only [Bindings.change, StoreChange.serve, made, BindingMap.change, if_neg absent]
      refine ⟨trivial, fun other => ?_⟩
      rw [get?_of_bind made other]
      by_cases same : other = v.erase
      · rw [if_pos same, same, Finmap.lookup_insert]
      · rw [if_neg same, Finmap.lookup_insert_of_ne _ same, holds other]
  | unbind mention =>
    simp only [Bindings.change, StoreChange.serve, BindingMap.change]
    refine ⟨?_, fun other => ?_⟩
    · simp only [unbind, isBound, holds.mem_handles]
    · rw [get?_unbind]
      by_cases same : other = Identified.handle mention
      · rw [if_pos same, same, Finmap.lookup_erase]
      · rw [if_neg same, Finmap.lookup_erase_ne same, holds other]

end Holds

/-- Everything that is observed of a store is observed of the map. -/
structure Shows [DecidableEq τ] (store : Bindings τ) (map : BindingMap τ) : Prop where
  isBound : ∀ mention : Mention τ, store.isBound mention = true ↔ Identified.handle mention ∈ map
  size : store.size = map.keys.card
  isEmpty : store.isEmpty = true ↔ map = ∅
  listed : ∀ handle, handle ∈ store.handles ↔ handle ∈ map
  listedOnce : store.handles.Nodup
  value : ∀ {type : τ} (v : Variable type) (content : Carrier type),
    store.value v = .ok content ↔ map.lookup v.erase = some ⟨type, content⟩
  typeMismatch : ∀ {type : τ} (v : Variable type),
    store.value v = .error (.typeMismatch v.erase (Universe.name type)) ↔
      ∃ held, map.lookup v.erase = some held ∧ held.type ≠ type
  unbound : ∀ {type : τ} (v : Variable type),
    store.value v = .error (.unbound v.erase) ↔ v.erase ∉ map

/-- A store shows the map that its lookups find. -/
theorem Holds.shows [DecidableEq τ] {store : Bindings τ} {map : BindingMap τ}
    (holds : store.Holds map) : store.Shows map where
  isBound mention := by simp only [Bindings.isBound, decide_eq_true_eq, holds.mem_handles]
  size := holds.size_eq
  isEmpty := holds.isEmpty_iff
  listed := holds.mem_handles
  listedOnce := store.distinct
  value v content := by rw [value_eq_ok_iff, holds v.erase]
  typeMismatch v := by
    rw [value_eq_error_iff, holds v.erase]
    simp
  unbound v := by
    rw [value_eq_error_iff, holds v.erase, Finmap.lookup_eq_none]
    simp

/--
A new store answers every run of changes as the map does, and shows the map after it.

As the run is any list of changes, the same holds at every point of a longer one.
-/
theorem changes_refine_map [DecidableEq τ] (capacity : Option Nat)
    (changes : List (StoreChange τ)) :
    (transcript change (create capacity) changes).1 =
        (transcript BindingMap.change (∅ : BindingMap τ) changes).1 ∧
      (transcript change (create capacity) changes).2.Shows
        (transcript BindingMap.change (∅ : BindingMap τ) changes).2 := by
  -- Each single change keeps the agreement of the lookups, from which all observers follow.
  obtain ⟨results, holds⟩ := transcript_simulates
    (fun _ _ request held => Holds.change held request) changes (holds_create capacity)
  exact ⟨results, holds.shows⟩

end Bindings

end Unknowns
