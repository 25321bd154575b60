import Unknowns.Ascending
import Unknowns.Handle

/-! Collections keyed by handles: ordered sets, repetitions in order, and labels. -/

namespace Unknowns

/-- A handle takes its place among handles in descending order, behind its equals. -/
def insertDescending (handle : Handle) : List Handle → List Handle
  | [] => [handle]
  | head :: rest =>
    if head < handle then handle :: head :: rest else head :: insertDescending handle rest

/-- All handles with their repetitions, the latest minted first. -/
def descending (handles : List Handle) : List Handle :=
  handles.foldr insertDescending []

/-- The distinct handles of a list, each where it occurs last. -/
def distinctHandles : List Handle → List Handle
  | [] => []
  | handle :: rest =>
    -- A handle that occurs again later is counted there.
    let others := distinctHandles rest
    if handle ∈ others then others else handle :: others

/-- Labels of handles, ascending by handle. -/
abbrev Labels (α : Type) := List (Handle × α)

namespace Labels

variable {α : Type}

/-- A label for a handle, which replaces any earlier one. -/
def put (handle : Handle) (label : α) : Labels α → Labels α
  | [] => [(handle, label)]
  | (other, old) :: rest =>
    if handle < other then (handle, label) :: (other, old) :: rest
    else if other < handle then (other, old) :: put handle label rest
    else (handle, label) :: rest

/-- The labels that a list of entries leaves, the last one of a handle counting. -/
def ofEntries (entries : List (Handle × α)) : Labels α :=
  entries.foldl (fun labels entry => put entry.1 entry.2 labels) []

/-- The label of a handle. -/
def get? (labels : Labels α) (handle : Handle) : Option α :=
  labels.lookup handle

/-- A label is found under its handle, and every other handle keeps what it had. -/
theorem get?_put (labels : Labels α) (handle other : Handle) (label : α) :
    (labels.put handle label).get? other =
      if other = handle then some label else labels.get? other := by
  induction labels with
  | nil =>
    by_cases same : other = handle
    · simp [put, get?, same]
    · have differ : (other == handle) = false := by simp [same]
      simp [put, get?, List.lookup_cons, same, differ]
  | cons entry rest ih =>
    rcases entry with ⟨key, old⟩
    simp only [put]
    by_cases same : other = handle
    · subst same
      split
      · simp [get?]
      · split
        · rename_i above
          have differ : (other == key) = false := by
            simp only [beq_eq_false_iff_ne, ne_eq]
            intro equal
            exact absurd above (equal ▸ Nat.lt_irrefl _)
          simpa [get?, List.lookup_cons, differ] using ih
        · simp [get?]
    · have differ : (other == handle) = false := by simp [same]
      split
      · simp [get?, List.lookup_cons, differ]
      · split
        · by_cases here : other = key
          · subst here
            simp [get?]
          · have apart : (other == key) = false := by simp [here]
            simpa [get?, List.lookup_cons, same, apart] using ih
        · -- Neither handle is below the other, so the entry was the handle's own.
          rename_i notBelow notAbove
          have equal : handle = key :=
            Std.Trichotomous.trichotomous handle key notBelow notAbove
          subst equal
          simp [get?, List.lookup_cons, differ]

end Labels

end Unknowns
