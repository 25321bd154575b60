/-! Strictly ascending lists, which hold each element once. -/

namespace Unknowns

variable {α : Type} [LT α] [DecidableLT α]

/-- An element takes its place in a strictly ascending list, unless it is there already. -/
def insertAscending (element : α) : List α → List α
  | [] => [element]
  | head :: rest =>
    if element < head then element :: head :: rest
    else if head < element then head :: insertAscending element rest
    else head :: rest

/-- The distinct elements of a list in ascending order. -/
def ascending (elements : List α) : List α :=
  elements.foldr insertAscending []

/-- An insertion adds its element and loses none. -/
theorem mem_insertAscending [@Std.Trichotomous α (· < ·)] {element other : α}
    {elements : List α} :
    other ∈ insertAscending element elements ↔ other = element ∨ other ∈ elements := by
  induction elements with
  | nil => simp [insertAscending]
  | cons head rest ih =>
    simp only [insertAscending]
    split
    · simp
    · rename_i notBelow
      split
      · simp only [List.mem_cons, ih]
        exact or_left_comm
      · -- Neither is below the other, so the element is there already.
        rename_i notAbove
        have same : element = head := Std.Trichotomous.trichotomous _ _ notBelow notAbove
        simp [same]

/-- An insertion keeps a list strictly ascending. -/
theorem pairwise_insertAscending [@Std.Trichotomous α (· < ·)]
    [@Trans α α α (· < ·) (· < ·) (· < ·)] (element : α) {elements : List α}
    (sorted : elements.Pairwise (· < ·)) :
    (insertAscending element elements).Pairwise (· < ·) := by
  induction elements with
  | nil => simp [insertAscending]
  | cons head rest ih =>
    have parts := List.pairwise_cons.mp sorted
    simp only [insertAscending]
    split
    · rename_i below
      refine List.pairwise_cons.mpr ⟨?_, sorted⟩
      intro other member
      rcases List.mem_cons.mp member with same | later
      · exact same ▸ below
      · exact Trans.trans below (parts.1 other later)
    · split
      · rename_i above
        refine List.pairwise_cons.mpr ⟨?_, ih parts.2⟩
        intro other member
        rcases mem_insertAscending.mp member with same | later
        · exact same ▸ above
        · exact parts.1 other later
      · exact sorted

/-- The ascending list of a list has the same elements. -/
theorem mem_ascending [@Std.Trichotomous α (· < ·)] {element : α} {elements : List α} :
    element ∈ ascending elements ↔ element ∈ elements := by
  induction elements with
  | nil => simp [ascending]
  | cons head rest ih =>
    simp only [ascending, List.foldr_cons, mem_insertAscending, List.mem_cons] at ih ⊢
    rw [ih]

/-- A strictly ascending list is its own ascending list. -/
theorem ascending_of_pairwise {elements : List α} (sorted : elements.Pairwise (· < ·)) :
    ascending elements = elements := by
  induction elements with
  | nil => rfl
  | cons head rest ih =>
    obtain ⟨least, others⟩ := List.pairwise_cons.mp sorted
    have kept : ascending rest = rest := ih others
    rw [ascending, List.foldr_cons, ← ascending, kept]
    -- The head takes its place in front, since it is below whatever comes next.
    cases rest with
    | nil => rfl
    | cons second later => rw [insertAscending, if_pos (least second List.mem_cons_self)]

/-- The ascending list of a list is strictly ascending. -/
theorem pairwise_ascending [@Std.Trichotomous α (· < ·)]
    [@Trans α α α (· < ·) (· < ·) (· < ·)] (elements : List α) :
    (ascending elements).Pairwise (· < ·) := by
  induction elements with
  | nil => simp [ascending]
  | cons head rest ih => exact pairwise_insertAscending head ih

end Unknowns
