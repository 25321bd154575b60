import Unknowns.Proofs.Bindings.Observation
import Unknowns.ValueType.Basic

/-! Calls about different variables commute, however many of them change places in a run. -/

namespace Unknowns

/-- Lists of keyed elements are arrangements of one another when they agree key by key. -/
theorem perm_of_filter_eq {α κ : Type} [DecidableEq κ] {key : α → Option κ} {first second : List α}
    (keyed : ∀ element ∈ first, key element ≠ none)
    (alsoKeyed : ∀ element ∈ second, key element ≠ none)
    (same : ∀ k, first.filter (key · = some k) = second.filter (key · = some k)) :
    first.Perm second := by
  classical
  -- An element occurs as often in a list as among the elements with its own key.
  refine List.perm_iff_count.mpr fun element => ?_
  cases own : key element with
  | none =>
    have absent : element ∉ first := fun member => keyed element member own
    have alsoAbsent : element ∉ second := fun member => alsoKeyed element member own
    rw [List.count_eq_zero_of_not_mem absent, List.count_eq_zero_of_not_mem alsoAbsent]
  | some k =>
    have counted : ∀ elements : List α,
        (elements.filter (key · = some k)).count element = elements.count element :=
      fun elements => List.count_filter (by simpa using own)
    rw [← counted first, same k, counted second]

variable {τ : Type} [Universe τ]

/-- Whether a call is about a variable. -/
def StoreRequest.isAbout (handle : Handle) (request : StoreRequest τ) : Bool :=
  decide (request.subject? = some handle)

/-- Calls about variables in two orders, which both have the calls about one variable in one. -/
structure Reordered (first second : List (StoreRequest τ)) : Prop where
  single : ∀ request ∈ first, request.subject? ≠ none
  arranged : second.Perm first
  kept : ∀ handle, second.filter (·.isAbout handle) =
    first.filter (·.isAbout handle)

/-- A variable with a value to bind it to. -/
structure Assignment (τ : Type) [Universe τ] where
  type : τ
  view : Variable type
  content : Carrier type

namespace Bindings

/-- The store after several bindings, unless one of them fails. -/
def bindAll : Bindings τ → List (Assignment τ) → Except Fault (Bindings τ)
  | store, [] => .ok store
  | store, first :: rest => do bindAll (← store.bind first.view first.content) rest

/-- The store after several unbindings. -/
def unbindAll (store : Bindings τ) (mentions : List (Mention τ)) : Bindings τ :=
  mentions.foldl (fun left mention => (left.unbind mention).2) store

/-- Bindings that are all made are of unbound variables, and leave all other variables alone. -/
theorem get?_of_bindAll {store full : Bindings τ} {assignments : List (Assignment τ)}
    (bound : store.bindAll assignments = .ok full) (handle : Handle) :
    (handle ∈ assignments.map (·.view.erase) → store.get? handle = none) ∧
      (handle ∉ assignments.map (·.view.erase) → full.get? handle = store.get? handle) := by
  -- What the first binding leaves is the store that the others start from.
  induction assignments generalizing store with
  | nil =>
    -- Nothing is bound, and nothing has changed.
    cases bound
    exact ⟨fun member => absurd member List.not_mem_nil, fun _ => rfl⟩
  | cons first rest ih =>
    cases made : store.bind first.view first.content with
    | error fault =>
      simp only [bindAll, made] at bound
      cases bound
    | ok larger =>
      simp only [bindAll, made] at bound
      obtain ⟨inside, outside⟩ := ih bound
      by_cases here : handle = first.view.erase
      · -- The first binding was made, so its variable was unbound before it.
        have absent : first.view.erase ∉ store.handles := by
          intro present
          rw [bind_of_mem present] at made
          cases made
        rw [here]
        exact ⟨fun _ => get?_eq_none_iff.mpr absent,
          fun other => absurd List.mem_cons_self other⟩
      · rw [get?_of_bind made handle, if_neg here] at inside outside
        simp only [List.map_cons, List.mem_cons, here, false_or]
        exact ⟨inside, outside⟩

/-- Unbindings take away the values of their variables, in whatever order, and no others. -/
theorem get?_unbindAll (store : Bindings τ) (mentions : List (Mention τ)) (handle : Handle) :
    (store.unbindAll mentions).get? handle =
      if handle ∈ mentions.map Identified.handle then none else store.get? handle := by
  induction mentions generalizing store with
  | nil => simp [unbindAll]
  | cons first rest ih =>
    have next : store.unbindAll (first :: rest) = (store.unbind first).2.unbindAll rest := rfl
    rw [next, ih, get?_unbind]
    by_cases later : handle ∈ rest.map Identified.handle
    · simp [later]
    · simp [later]

variable [DecidableEq τ]

/-- The calls of a list, each with what it returns and what is heard of it. -/
def answered (store : Bindings τ) (requests : List (StoreRequest τ)) :
    List (StoreRequest τ × (StoreResult τ × List Event)) :=
  requests.zip (transcript (fun left request => request.respond left) store requests).1

/-- The store after all calls of a list. -/
def after (store : Bindings τ) (requests : List (StoreRequest τ)) : Bindings τ :=
  (transcript (fun left request => request.respond left) store requests).2

/-- The calls about a variable are answered as if they were the only ones. -/
theorem answered_filter {store other : Bindings τ} {handle : Handle}
    (same : store.get? handle = other.get? handle) (requests : List (StoreRequest τ)) :
    (store.answered requests).filter (·.1.isAbout handle) =
        other.answered (requests.filter (·.isAbout handle)) ∧
      (store.after requests).get? handle =
        (other.after (requests.filter (·.isAbout handle))).get? handle := by
  -- What the variable is bound to on both sides is the invariant of the induction.
  induction requests generalizing store other with
  | nil => exact ⟨rfl, same⟩
  | cons request rest ih =>
    have answered : store.answered (request :: rest) =
        (request, (request.respond store).1) :: (request.respond store).2.answered rest := rfl
    have after : store.after (request :: rest) = (request.respond store).2.after rest := rfl
    rw [answered, after]
    by_cases about : request.isAbout handle = true
    · -- The call is made on both sides, and finds and leaves its variable alike.
      obtain ⟨response, left⟩ := StoreRequest.respond_congr (of_decide_eq_true about) same
      obtain ⟨answers, last⟩ := ih left
      rw [List.filter_cons, List.filter_cons, if_pos about, if_pos about, answers, last, response]
      exact ⟨rfl, rfl⟩
    · -- The call is made on one side only, where it leaves the variable alone.
      have other : request.subject? ≠ some handle := fun own => about (decide_eq_true own)
      rw [List.filter_cons, List.filter_cons, if_neg about, if_neg about]
      exact ih ((StoreRequest.get?_respond_of_ne other store).trans same)

/-- Two orders of calls have each call answered alike and leave the same store, for all to see. -/
structure Unaffected (store : Bindings τ) (first second : List (StoreRequest τ)) : Prop where
  each : (store.answered second).Perm (store.answered first)
  inOrder : ∀ handle, (store.answered second).filter (·.1.isAbout handle) =
    (store.answered first).filter (·.1.isAbout handle)
  left : (store.after first).Indistinguishable (store.after second)

/-- Calls in another order are answered alike if those about one variable keep their order. -/
theorem unaffected_of_reordered (store : Bindings τ) {first second : List (StoreRequest τ)}
    (reordered : Reordered first second) : store.Unaffected first second := by
  have inOrder : ∀ handle, (store.answered second).filter (·.1.isAbout handle) =
      (store.answered first).filter (·.1.isAbout handle) := by
    intro handle
    rw [(answered_filter rfl first).1, (answered_filter rfl second).1, reordered.kept handle]
  have keyed : ∀ requests, (∀ request ∈ requests, request.subject? ≠ none) →
      ∀ element ∈ store.answered requests, element.1.subject? ≠ none :=
    fun _ single element member => single element.1 (List.of_mem_zip member).1
  have single : ∀ request ∈ second, request.subject? ≠ none :=
    fun request member => reordered.single request (reordered.arranged.mem_iff.mp member)
  refine ⟨?_, inOrder, ?_⟩
  · exact perm_of_filter_eq (keyed second single) (keyed first reordered.single) inOrder
  · refine .of_get? fun handle => ?_
    rw [(answered_filter rfl first).2, (answered_filter rfl second).2, reordered.kept handle]

/--
Calls about different variables commute in every store.

Whatever order they are made in, each is answered alike, and the store that is left shows the same.
In particular, variables that were bound one after another may be unbound in any order.
-/
theorem calls_commute (store : Bindings τ) :
    (∀ {first second : List (StoreRequest τ)}, Reordered first second →
        store.Unaffected first second) ∧
      ∀ {assignments : List (Assignment τ)} {full : Bindings τ} {mentions : List (Mention τ)},
        store.bindAll assignments = .ok full →
          (mentions.map Identified.handle).Perm (assignments.map (·.view.erase)) →
            (full.unbindAll mentions).Indistinguishable store := by
  refine ⟨store.unaffected_of_reordered, ?_⟩
  intro assignments full mentions bound undone
  refine .of_get? fun handle => ?_
  obtain ⟨inside, outside⟩ := get?_of_bindAll bound handle
  rw [get?_unbindAll]
  by_cases member : handle ∈ assignments.map (·.view.erase)
  · -- The variable was unbound before, and is unbound again.
    rw [if_pos (undone.mem_iff.mpr member), inside member]
  · rw [if_neg (mt undone.mem_iff.mp member), outside member]

/-- The first of two variables. -/
def flag : Variable ValueType.bool := ⟨⟨1, Nat.one_pos⟩⟩

/-- The second of two variables. -/
def nothing : Variable ValueType.unit := ⟨⟨2, Nat.two_pos⟩⟩

/-- The first variable is bound twice, the second time in vain. -/
def boundTwice : List (StoreRequest ValueType) :=
  [.change (.bind flag true), .change (.bind flag false)]

/-- The second variable is bound, read at the type of the first, and unbound. -/
def boundAndUnbound : List (StoreRequest ValueType) :=
  [.change (.bind nothing ()), .value (nothing.erase.typed .bool),
    .change (.unbind (.erased nothing.erase))]

/-- Both variables are bound, and unbound in the order that they were bound in. -/
theorem calls_commute_two :
    Reordered (boundTwice ++ boundAndUnbound) (boundAndUnbound ++ boundTwice) ∧
      (empty : Bindings ValueType).Unaffected (boundTwice ++ boundAndUnbound)
        (boundAndUnbound ++ boundTwice) ∧
      ∃ full, (empty : Bindings ValueType).bindAll
          [⟨.bool, flag, true⟩, ⟨.unit, nothing, ()⟩] = .ok full ∧
        (full.unbindAll [.erased flag.erase, .erased nothing.erase]).Indistinguishable empty := by
  have reordered : Reordered (boundTwice ++ boundAndUnbound) (boundAndUnbound ++ boundTwice) := by
    refine ⟨by simp [boundTwice, boundAndUnbound, StoreRequest.subject?],
      List.perm_append_comm, fun handle => ?_⟩
    -- No handle is that of both variables.
    by_cases first : handle = flag.erase
    · subst first
      rfl
    · have unmentioned : boundTwice.filter (·.isAbout handle) = [] := by
        simp [boundTwice, StoreRequest.isAbout, StoreRequest.subject?, Ne.symm first]
      rw [List.filter_append, List.filter_append, unmentioned, List.append_nil, List.nil_append]
  obtain ⟨commute, undo⟩ := calls_commute (empty : Bindings ValueType)
  refine ⟨reordered, commute reordered, _, rfl, ?_⟩
  exact @undo [⟨.bool, flag, true⟩, ⟨.unit, nothing, ()⟩] _ _ rfl (.refl _)

end Bindings

end Unknowns
