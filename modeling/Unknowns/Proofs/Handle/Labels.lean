import Mathlib.Data.List.Dedup
import Unknowns.Handle.Labels
import Unknowns.Proofs.Elements
import Unknowns.Proofs.Handle.Supply
import Unknowns.Variable

/-! Laws of labels: a map keeps the last label of each variable, in the order of minting. -/

namespace Unknowns

@[simp]
theorem handle_handle (handle : Handle) : Identified.handle handle = handle := rfl

section

variable {α : Type} [Identified α] {left right : α}

/-- The order of minting decides between two things as their handles do. -/
theorem mintingOrder_eq_lt_iff :
    mintingOrder left right = .lt ↔ Identified.handle left < Identified.handle right :=
  Nat.compare_eq_lt

/-- Things are level in the order of minting exactly when they stand for the same variable. -/
theorem mintingOrder_eq_eq_iff :
    mintingOrder left right = .eq ↔ Identified.handle left = Identified.handle right :=
  Nat.compare_eq_eq.trans ⟨Handle.eq_of_index, congrArg Handle.index⟩

/-- The order of minting is one that ordered collections can be kept in. -/
instance : Std.TransCmp (mintingOrder : α → α → Ordering) :=
  inferInstanceAs (Std.TransCmp (compareOn fun thing : α => (Identified.handle thing).index))

instance : Std.LawfulEqCmp (mintingOrder : Handle → Handle → Ordering) where
  eq_of_compare := mintingOrder_eq_eq_iff.mp

instance {τ : Type} {type : τ} :
    Std.LawfulEqCmp (mintingOrder : Variable type → Variable type → Ordering) where
  eq_of_compare level := Variable.ext_iff.mpr (mintingOrder_eq_eq_iff.mp level)

end

section

variable {κ β α : Type} [Identified κ] [Identified β]

/-- The labels that are given to a variable through any view of it, one after another. -/
def labelsFor (entries : List (κ × α)) (view : β) : List α :=
  (entries.filter fun entry => sameIdentity entry.1 view).map (·.2)

/-- An entry adds its label to those of its own variable. -/
theorem labelsFor_cons (entry : κ × α) (rest : List (κ × α)) (view : β) :
    labelsFor (entry :: rest) view =
      if sameIdentity entry.1 view then entry.2 :: labelsFor rest view
      else labelsFor rest view := by
  rw [labelsFor, List.filter_cons]
  split <;> rfl

/-- The labels of a variable in two lists of entries follow one another. -/
theorem labelsFor_append (first second : List (κ × α)) (view : β) :
    labelsFor (first ++ second) view = labelsFor first view ++ labelsFor second view := by
  simp [labelsFor]

/-- The entries of a map of labels, under the handles of what the labels are given to. -/
def erasedEntries (entries : List (κ × α)) : List (Handle × α) :=
  entries.map fun entry => (Identified.handle entry.1, entry.2)

/-- A map into which entries are put one by one leads to the last label of each variable. -/
theorem find_foldl_put {Map : Type} {find : Map → Handle → Option α}
    {put : Map → Handle × α → Map}
    (found : ∀ map entry handle,
      find (put map entry) handle = if handle = entry.1 then some entry.2 else find map handle)
    (entries : List (κ × α)) (map : Map) (handle : Handle) :
    find ((erasedEntries entries).foldl put map) handle =
      (labelsFor entries handle).getLast?.or (find map handle) := by
  -- Each later entry of the variable takes the place of the label that stands before it.
  induction entries generalizing map with
  | nil => rfl
  | cons entry rest ih =>
    rw [erasedEntries, List.map_cons, List.foldl_cons, ← erasedEntries, ih, found]
    rw [labelsFor_cons]
    by_cases same : handle = Identified.handle entry.1
    · have told : sameIdentity entry.1 handle = true := beq_iff_eq.mpr same.symm
      rw [if_pos same, if_pos told, List.getLast?_cons, Option.some_or]
      cases (labelsFor rest handle).getLast? <;> rfl
    · have told : ¬ sameIdentity entry.1 handle = true := fun equal =>
        same (beq_iff_eq.mp equal).symm
      rw [if_neg same, if_neg told]

/-- A variable is given no label at all exactly when no entry is about it. -/
theorem labelsFor_eq_nil_iff {entries : List (κ × α)} {view : β} :
    labelsFor entries view = [] ↔ ∀ entry ∈ entries, sameIdentity entry.1 view = false := by
  simp [labelsFor]

end

namespace Labels

variable {α : Type}

/-- The handles of labels are kept in order as a set of handles is. -/
theorem map_fst_put (handle : Handle) (label : α) (labels : Labels α) :
    (labels.put handle label).map Prod.fst = insertAscending handle (labels.map Prod.fst) := by
  induction labels with
  | nil => rfl
  | cons entry rest ih =>
    simp only [put, List.map_cons, insertAscending]
    split
    · rfl
    · rename_i notBelow
      split
      · rw [List.map_cons, ih]
      · -- The label is replaced under the handle that stands there.
        rename_i notAbove
        rw [List.map_cons, Std.Trichotomous.trichotomous handle entry.1 notBelow notAbove]

/-- Labels are kept in strictly ascending order of their handles. -/
theorem pairwise_ofEntries (entries : List (Handle × α)) :
    ((ofEntries entries).map Prod.fst).Pairwise (· < ·) := by
  -- Each entry leaves the order as it was, whatever the map has held before.
  have kept : ∀ labels : Labels α, (labels.map Prod.fst).Pairwise (· < ·) →
      ((entries.foldl (fun labels entry => put entry.1 entry.2 labels) labels).map
        Prod.fst).Pairwise (· < ·) := by
    induction entries with
    | nil => exact fun labels sorted => sorted
    | cons entry rest ih =>
      intro labels sorted
      refine ih (put entry.1 entry.2 labels) ?_
      rw [map_fst_put]
      exact pairwise_insertAscending entry.1 sorted
  exact kept [] .nil

/-- The labels of entries are the ones that stand last. -/
theorem get?_ofEntries {κ : Type} [Identified κ] (entries : List (κ × α)) (handle : Handle) :
    (ofEntries (erasedEntries entries)).get? handle = (labelsFor entries handle).getLast? := by
  -- A new map holds no label that the last one could take the place of.
  have last := find_foldl_put (fun labels entry other => get?_put labels entry.1 other entry.2)
    entries [] handle
  exact last.trans Option.or_none

/-- A map of labels leads nowhere from a handle exactly when no entry is about its variable. -/
theorem get?_ofEntries_eq_none_iff {κ : Type} [Identified κ] {entries : List (κ × α)}
    {handle : Handle} :
    (ofEntries (erasedEntries entries)).get? handle = none ↔
      ∀ entry ∈ entries, sameIdentity entry.1 handle = false := by
  rw [get?_ofEntries, List.getLast?_eq_none_iff, labelsFor_eq_nil_iff]

/-- The handles of a map of labels are those that entries are about. -/
theorem mem_map_fst_ofEntries {κ : Type} [Identified κ] {entries : List (κ × α)}
    {handle : Handle} :
    handle ∈ (ofEntries (erasedEntries entries)).map Prod.fst ↔
      handle ∈ entries.map fun entry => Identified.handle entry.1 := by
  -- A handle is missing exactly where its lookup leads nowhere.
  rw [← not_iff_not, ← lookup_eq_none_iff_not_mem]
  refine get?_ofEntries_eq_none_iff.trans ?_
  simp [sameIdentity]

end Labels

end Unknowns
