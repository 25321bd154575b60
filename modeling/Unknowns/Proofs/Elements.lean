import Mathlib.Data.List.Sort
import Unknowns.Ascending

/-! Lists that are known by what is in them: ascending ones, and entries under distinct keys. -/

namespace Unknowns

/-- Among copies of distinct elements, an element occurs as often as there are copies of it. -/
theorem count_flatMap_replicate {α : Type} [DecidableEq α] {listed : List α}
    (distinct : listed.Nodup) (copies : α → Nat) (element : α) :
    (listed.flatMap fun other => List.replicate (copies other) other).count element =
      if element ∈ listed then copies element else 0 := by
  -- Only one block of copies counts, since the elements that head the blocks differ.
  induction listed with
  | nil => rfl
  | cons head rest ih =>
    obtain ⟨absent, others⟩ := List.nodup_cons.mp distinct
    rw [List.flatMap_cons, List.count_append, ih others, List.count_replicate]
    by_cases same : element = head
    · subst same
      simp [absent]
    · have differ : (head == element) = false :=
        beq_eq_false_iff_ne.mpr fun equal => same equal.symm
      simp [same, differ]

section

variable {α : Type} [LT α] [@Std.Irrefl α (· < ·)]

/-- A strictly ascending list holds nothing twice. -/
theorem nodup_of_pairwise_lt {elements : List α} (sorted : elements.Pairwise (· < ·)) :
    elements.Nodup := by
  -- An element that came again would be below itself.
  refine sorted.imp ?_
  rintro left right below rfl
  exact Std.Irrefl.irrefl left below

variable [@Trans α α α (· < ·) (· < ·) (· < ·)]

/-- What is below an element is not above it. -/
theorem not_lt_of_lt {left right : α} (below : left < right) : ¬ right < left := by
  intro above
  have itself : left < left := Trans.trans below above
  exact Std.Irrefl.irrefl left itself

variable [DecidableLT α] [@Std.Trichotomous α (· < ·)]

/-- A strictly ascending list is the ascending list of every list that has its elements. -/
theorem ascending_eq_of_mem_iff {elements listed : List α} (sorted : listed.Pairwise (· < ·))
    (members : ∀ element, element ∈ listed ↔ element ∈ elements) :
    ascending elements = listed := by
  -- Two ascending lists with the same elements agree, and both lists are ascending.
  have antisymm : @Std.Antisymm α (· < ·) :=
    ⟨fun left right below above => absurd above (not_lt_of_lt below)⟩
  refine (pairwise_ascending elements).eq_of_mem_iff sorted fun element => ?_
  rw [mem_ascending, members]

/-- Lists have one ascending list exactly when they have the same elements, however often. -/
theorem ascending_eq_iff {first second : List α} :
    ascending first = ascending second ↔ ∀ element, element ∈ first ↔ element ∈ second := by
  constructor
  · -- No element is lost in an ascending list, so either list has the elements of the common one.
    intro equal element
    have listed : element ∈ ascending first ↔ element ∈ first := mem_ascending
    rw [← listed, equal, mem_ascending]
  · intro same
    refine ascending_eq_of_mem_iff (pairwise_ascending second) fun element => ?_
    rw [mem_ascending, same]

/-- The ascending list is as long as every list that has each of its elements once. -/
theorem length_ascending {elements listed : List α} (distinct : listed.Nodup)
    (members : ∀ element, element ∈ listed ↔ element ∈ elements) :
    (ascending elements).length = listed.length := by
  have same : ∀ element, element ∈ ascending elements ↔ element ∈ listed := by
    intro element
    rw [mem_ascending, members]
  have arranged : (ascending elements).Perm listed :=
    (List.perm_ext_iff_of_nodup (nodup_of_pairwise_lt (pairwise_ascending elements)) distinct).mpr
      same
  exact arranged.length_eq

variable [DecidableEq α]

/-- The distinct elements of a list in ascending order, each as often as it occurs. -/
def ascendingRepeated (elements : List α) : List α :=
  (ascending elements).flatMap fun element => List.replicate (elements.count element) element

/-- Nothing is lost or added when elements are put in order with their repetitions. -/
theorem ascendingRepeated_perm (elements : List α) :
    (ascendingRepeated elements).Perm elements := by
  have distinct := nodup_of_pairwise_lt (pairwise_ascending elements)
  refine List.perm_iff_count.mpr fun element => ?_
  rw [ascendingRepeated, count_flatMap_replicate distinct]
  -- Whatever is not in the ascending list does not occur at all.
  split
  · rfl
  · rename_i absent
    rw [mem_ascending] at absent
    rw [List.count_eq_zero_of_not_mem absent]

/-- Elements in order with their repetitions never descend. -/
theorem pairwise_ascendingRepeated (elements : List α) :
    (ascendingRepeated elements).Pairwise fun left right => ¬ right < left := by
  refine List.pairwise_flatMap.mpr ⟨fun element _ => ?_, ?_⟩
  · -- Copies of one element are not below one another.
    exact List.pairwise_replicate.mpr (.inr (Std.Irrefl.irrefl element))
  · -- Copies of different elements are ordered as these are.
    refine (pairwise_ascending elements).imp fun below left copied right copiedToo => ?_
    rw [List.eq_of_mem_replicate copied, List.eq_of_mem_replicate copiedToo]
    exact not_lt_of_lt below

/-- There is one way to put elements in order with their repetitions. -/
theorem eq_ascendingRepeated {elements listed : List α} (arranged : listed.Perm elements)
    (sorted : listed.Pairwise fun left right => ¬ right < left) :
    listed = ascendingRepeated elements := by
  -- Where neither of two elements is below the other, they are one.
  refine List.Perm.eq_of_pairwise ?_ sorted (pairwise_ascendingRepeated elements)
    (arranged.trans (ascendingRepeated_perm elements).symm)
  intro left right _ _ notAbove notBelow
  exact Std.Trichotomous.trichotomous left right notBelow notAbove

/-- The order of a list does not matter once its elements are put in order. -/
theorem ascendingRepeated_eq_of_perm {elements others : List α} (arranged : others.Perm elements) :
    ascendingRepeated others = ascendingRepeated elements :=
  eq_ascendingRepeated ((ascendingRepeated_perm others).trans arranged)
    (pairwise_ascendingRepeated others)

end

section

variable {κ α : Type} [DecidableEq κ] {entries others : List (κ × α)}

/-- Among distinct keys, a key leads to each entry that has it. -/
theorem lookup_eq_some_iff_mem (distinct : (entries.map Prod.fst).Nodup) {key : κ}
    {content : α} : entries.lookup key = some content ↔ (key, content) ∈ entries := by
  constructor
  · intro found
    obtain ⟨before, after, rfl, _⟩ := List.lookup_eq_some_iff.mp found
    simp
  · intro member
    obtain ⟨before, after, rfl⟩ := List.append_of_mem member
    refine List.lookup_eq_some_iff.mpr ⟨before, after, rfl, fun entry earlier => ?_⟩
    -- An earlier entry of the same key would be a second one.
    rw [List.map_append, List.map_cons, List.nodup_append] at distinct
    have differ : entry.1 ≠ key :=
      distinct.2.2 _ (List.mem_map_of_mem earlier) _ List.mem_cons_self
    simpa using differ.symm

/-- A key leads nowhere exactly when no entry has it. -/
theorem lookup_eq_none_iff_not_mem {key : κ} :
    entries.lookup key = none ↔ key ∉ entries.map Prod.fst := by
  rw [List.lookup_eq_none_iff]
  constructor
  · intro differ member
    obtain ⟨entry, listed, rfl⟩ := List.mem_map.mp member
    simpa using differ entry listed
  · intro absent entry listed
    refine bne_iff_ne.mpr ?_
    rintro rfl
    exact absent (List.mem_map_of_mem listed)

variable [LT κ] [@Std.Irrefl κ (· < ·)] [@Trans κ κ κ (· < ·) (· < ·) (· < ·)]

/-- Entries in ascending order are known by what their keys lead to. -/
theorem eq_of_lookup_eq (sorted : (entries.map Prod.fst).Pairwise (· < ·))
    (sortedToo : (others.map Prod.fst).Pairwise (· < ·))
    (same : ∀ key, entries.lookup key = others.lookup key) : entries = others := by
  -- With the same lookups the lists have the same entries, and there is one order for these.
  have distinct := nodup_of_pairwise_lt sorted
  have distinctToo := nodup_of_pairwise_lt sortedToo
  have members : ∀ entry, entry ∈ entries ↔ entry ∈ others := by
    rintro ⟨key, content⟩
    rw [← lookup_eq_some_iff_mem distinct, same, lookup_eq_some_iff_mem distinctToo]
  have arranged : entries.Perm others :=
    (List.perm_ext_iff_of_nodup (distinct.of_map _) (distinctToo.of_map _)).mpr members
  rw [List.pairwise_map] at sorted sortedToo
  refine arranged.eq_of_pairwise ?_ sorted sortedToo
  intro left right _ _ below above
  exact absurd above (not_lt_of_lt below)

end

end Unknowns
