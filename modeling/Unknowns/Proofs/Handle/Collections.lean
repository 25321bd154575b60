import Unknowns.Handle.Holdings
import Unknowns.Proofs.Handle.Labels
import Unknowns.Session.Answer

/-! Collections see identities: a variable is kept as one, whatever views of it are put in. -/

namespace Unknowns

section

variable {handle : Handle} {handles : List Handle}

/-- A handle that takes its place in descending order is one more among the others. -/
theorem insertDescending_perm (handle : Handle) (handles : List Handle) :
    (insertDescending handle handles).Perm (handle :: handles) := by
  induction handles with
  | nil => exact .refl _
  | cons head rest ih =>
    rw [insertDescending]
    split
    · exact .refl _
    · exact (ih.cons head).trans (.swap handle head rest)

/-- Handles in descending order are the same handles with the same repetitions. -/
theorem descending_perm (handles : List Handle) : (descending handles).Perm handles := by
  induction handles with
  | nil => exact .refl _
  | cons head rest ih => exact (insertDescending_perm head _).trans (ih.cons head)

/-- Handles that never ascend do not when another one takes its place among them. -/
theorem pairwise_insertDescending (handle : Handle)
    (sorted : handles.Pairwise fun left right => ¬ left < right) :
    (insertDescending handle handles).Pairwise fun left right => ¬ left < right := by
  induction handles with
  | nil => exact List.pairwise_singleton _ _
  | cons head rest ih =>
    obtain ⟨greatest, others⟩ := List.pairwise_cons.mp sorted
    rw [insertDescending]
    split
    · -- The new handle is above the head, and so above all that the head is not below.
      rename_i below
      refine .cons ?_ sorted
      intro other member above
      rcases List.mem_cons.mp member with rfl | later
      · exact not_lt_of_lt below above
      · exact greatest other later (Trans.trans below above)
    · rename_i notBelow
      refine .cons ?_ (ih others)
      intro other member
      -- What follows the head is either the new handle or was there before.
      rcases List.mem_cons.mp ((insertDescending_perm handle rest).mem_iff.mp member) with
        rfl | later
      · exact notBelow
      · exact greatest other later

/-- Handles in descending order are those in ascending order, backwards. -/
theorem descending_eq_reverse (handles : List Handle) :
    descending handles = (ascendingRepeated handles).reverse := by
  have sorted : (descending handles).Pairwise fun left right => ¬ left < right := by
    induction handles with
    | nil => exact .nil
    | cons head rest ih => exact pairwise_insertDescending head ih
  have backwards : (descending handles).reverse = ascendingRepeated handles :=
    eq_ascendingRepeated ((List.reverse_perm _).trans (descending_perm handles))
      (List.pairwise_reverse.mpr sorted)
  rw [← backwards, List.reverse_reverse]

/-- No handle is lost when repetitions are left out. -/
theorem mem_distinctHandles : handle ∈ distinctHandles handles ↔ handle ∈ handles := by
  -- A handle is left out only where it occurs again.
  induction handles with
  | nil => rfl
  | cons head rest ih =>
    rw [distinctHandles, List.mem_cons, ← ih]
    split
    · rename_i again
      constructor
      · exact .inr
      · rintro (rfl | later)
        · exact again
        · exact later
    · exact List.mem_cons

/-- No handle is left twice. -/
theorem nodup_distinctHandles (handles : List Handle) : (distinctHandles handles).Nodup := by
  induction handles with
  | nil => exact .nil
  | cons head rest ih =>
    rw [distinctHandles]
    split
    · exact ih
    · rename_i once
      exact List.nodup_cons.mpr ⟨once, ih⟩

end

section

variable {α : Type} [Identified α]

/-- An ordered set of things that stand for variables lists these in strictly ascending order. -/
theorem map_handle_treeSet [DecidableEq α] [Std.LawfulEqCmp (mintingOrder : α → α → Ordering)]
    (things : List α) :
    (Std.TreeSet.ofList things mintingOrder).toList.map Identified.handle =
      ascending (things.map Identified.handle) := by
  -- The set is in the order of minting, and has the elements that it was made of.
  have sorted : ((Std.TreeSet.ofList things mintingOrder).toList.map
      Identified.handle).Pairwise (· < ·) := by
    rw [List.pairwise_map]
    exact Std.TreeSet.ordered_toList.imp mintingOrder_eq_lt_iff.mp
  refine (ascending_eq_of_mem_iff sorted fun handle => ?_).symm
  simp only [List.mem_map, Std.TreeSet.mem_toList, Std.TreeSet.mem_ofList,
    List.contains_iff_mem]

/-- Things that are sorted by minting stand for the variables in order, with their repetitions. -/
theorem map_handle_mergeSort (things : List α) :
    (things.mergeSort fun left right => (mintingOrder left right).isLE).map Identified.handle =
      ascendingRepeated (things.map Identified.handle) := by
  have order : ∀ left right : α, (mintingOrder left right).isLE = true ↔
      ¬ Identified.handle right < Identified.handle left := by
    intro left right
    exact Nat.isLE_compare.trans Nat.not_lt.symm
  -- Sorting arranges the same things, so the variables come as often as before.
  refine eq_ascendingRepeated ((List.mergeSort_perm things _).map _) ?_
  rw [List.pairwise_map]
  refine (List.pairwise_mergeSort ?_ ?_ things).imp fun sorted => (order _ _).mp sorted
  · intro first second third below further
    exact Std.TransCmp.isLE_trans below further
  · intro left right
    rw [Bool.or_eq_true, order, order]
    by_cases above : Identified.handle right < Identified.handle left
    · exact .inr (not_lt_of_lt above)
    · exact .inl above

/-- A hash set of things that stand for variables has as many elements as there are of these. -/
theorem size_hashSet [BEq α] [LawfulBEq α] [Hashable α]
    (known : ∀ left right : α, Identified.handle left = Identified.handle right → left = right)
    (things : List α) :
    (Std.HashSet.ofList things).size = (ascending (things.map Identified.handle)).length := by
  -- A hash set holds equal things once, and things are equal where their variables are.
  have distinct : ((Std.HashSet.ofList things).toList.map Identified.handle).Nodup := by
    refine List.pairwise_map.mpr (Std.HashSet.distinct_toList.imp ?_)
    intro left right differ same
    exact beq_eq_false_iff_ne.mp differ (known left right same)
  have members : ∀ handle, handle ∈ (Std.HashSet.ofList things).toList.map Identified.handle ↔
      handle ∈ things.map Identified.handle := by
    intro handle
    simp only [List.mem_map, Std.HashSet.mem_toList, Std.HashSet.mem_ofList,
      List.contains_iff_mem]
  rw [length_ascending distinct members, List.length_map, Std.HashSet.length_toList]

end

section

variable {α : Type}

/-- An ordered map into which entries are put one by one. -/
def treeMapOf (entries : List (Handle × α)) : Std.TreeMap Handle α mintingOrder :=
  entries.foldl (fun map entry => map.insert entry.1 entry.2) ∅

/-- A hash map into which entries are put one by one. -/
def hashMapOf (entries : List (Handle × α)) : Std.HashMap Handle α :=
  entries.foldl (fun map entry => map.insert entry.1 entry.2) ∅

variable {κ : Type} [Identified κ]

/-- An ordered map holds what a map of labels does, and lists it in the same order. -/
theorem toList_treeMapOf (entries : List (κ × α)) :
    (treeMapOf (erasedEntries entries)).toList = Labels.ofEntries (erasedEntries entries) := by
  have found : ∀ handle : Handle, (treeMapOf (erasedEntries entries))[handle]? =
      (labelsFor entries handle).getLast? := by
    intro handle
    have put : ∀ (map : Std.TreeMap Handle α mintingOrder) (entry : Handle × α) (other : Handle),
        (map.insert entry.1 entry.2)[other]? =
          if other = entry.1 then some entry.2 else map[other]? := by
      intro map entry other
      have level : mintingOrder entry.1 other = .eq ↔ other = entry.1 :=
        mintingOrder_eq_eq_iff.trans eq_comm
      simp only [Std.TreeMap.getElem?_insert, level]
    have inserted := find_foldl_put put entries ∅ handle
    rw [Std.TreeMap.getElem?_emptyc, Option.or_none] at inserted
    exact inserted
  have sorted : ((treeMapOf (erasedEntries entries)).toList.map Prod.fst).Pairwise (· < ·) := by
    rw [List.pairwise_map]
    have ordered := Std.TreeMap.ordered_keys_toList (t := treeMapOf (erasedEntries entries))
    exact ordered.imp mintingOrder_eq_lt_iff.mp
  -- Both are in ascending order, so it is enough that both lead to the same labels.
  refine eq_of_lookup_eq sorted (Labels.pairwise_ofEntries _) fun handle => ?_
  ext label
  rw [lookup_eq_some_iff_mem (nodup_of_pairwise_lt sorted),
    Std.TreeMap.mem_toList_iff_getElem?_eq_some, found, ← Labels.get?_ofEntries]
  rfl

/-- A hash map leads to what a map of labels does. -/
theorem getElem?_hashMapOf (entries : List (κ × α)) (handle : Handle) :
    (hashMapOf (erasedEntries entries))[handle]? =
      (Labels.ofEntries (erasedEntries entries)).get? handle := by
  have put : ∀ (map : Std.HashMap Handle α) (entry : Handle × α) (other : Handle),
      (map.insert entry.1 entry.2)[other]? =
        if other = entry.1 then some entry.2 else map[other]? := by
    intro map entry other
    have level : (entry.1 == other) = true ↔ other = entry.1 := beq_iff_eq.trans eq_comm
    simp only [Std.HashMap.getElem?_insert, level]
  have inserted := find_foldl_put put entries ∅ handle
  rw [Std.HashMap.getElem?_empty, Option.or_none] at inserted
  rw [Labels.get?_ofEntries]
  exact inserted

/-- A hash map is as large as a map of labels. -/
theorem size_hashMapOf (entries : List (κ × α)) :
    (hashMapOf (erasedEntries entries)).size =
      (Labels.ofEntries (erasedEntries entries)).length := by
  -- Neither lists a handle twice, and both have the handles that lead to a label.
  have sorted := Labels.pairwise_ofEntries (erasedEntries entries)
  have members : ∀ handle, handle ∈ (hashMapOf (erasedEntries entries)).keys ↔
      handle ∈ (Labels.ofEntries (erasedEntries entries)).map Prod.fst := by
    intro handle
    rw [Std.HashMap.mem_keys, Std.HashMap.mem_iff_isSome_getElem?, getElem?_hashMapOf,
      ← not_iff_not, ← lookup_eq_none_iff_not_mem, Bool.not_eq_true, Option.isSome_eq_false_iff,
      Option.isNone_iff_eq_none]
    rfl
  have counted := length_ascending Std.HashMap.nodup_keys members
  rw [ascending_of_pairwise sorted, List.length_map, Std.HashMap.length_keys] at counted
  exact counted.symm

end

section

variable {τ α : Type}

/-- The map of labels that is left when entries are put in, each through a view of its variable. -/
def Labels.through (entries : List (Held τ × α)) : Labels α :=
  .ofEntries (erasedEntries entries)

/-- Labels that are put in through views are kept by variable. -/
structure LabelledByIdentity (entries : List (Held τ × α)) : Prop where
  size : (Labels.through entries).length =
    (entries.map fun entry => Identified.handle entry.1).dedup.length
  keys : ∀ view : Held τ, Identified.handle view ∈ (Labels.through entries).map Prod.fst ↔
    ∃ entry ∈ entries, sameIdentity entry.1 view = true
  latest : ∀ view : Held τ, (Labels.through entries).get? (Identified.handle view) =
    (labelsFor entries view).getLast?
  absent : ∀ view : Held τ, (Labels.through entries).get? (Identified.handle view) = none ↔
    ∀ entry ∈ entries, sameIdentity entry.1 view = false
  -- Other entries leave the same map if they give each variable its labels in the same order.
  reordered : ∀ others : List (Held τ × α),
    (∀ view : Held τ, labelsFor others view = labelsFor entries view) →
      Labels.through others = Labels.through entries
  swapped : ∀ (before after : List (Held τ × α)) (left right : Held τ × α),
    entries = before ++ left :: right :: after → sameIdentity left.1 right.1 = false →
      Labels.through (before ++ right :: left :: after) = Labels.through entries
  rearranged : ∀ others : List (Held τ × α), others.Perm entries →
    (entries.Pairwise fun left right => sameIdentity left.1 right.1 = false) →
      Labels.through others = Labels.through entries
  inOrder : (Labels.through entries).Pairwise fun left right =>
    mintingOrder left.1 right.1 = .lt
  created : ∀ (supply : Supply) (count : Nat),
    (∀ entry ∈ entries, Identified.handle entry.1 ∈ (supply.mintMany count).1) →
      ((Labels.through entries).map Prod.fst).Sublist (supply.mintMany count).1
  inTreeMap : (treeMapOf (erasedEntries entries)).toList = Labels.through entries
  inHashMap : (hashMapOf (erasedEntries entries)).size = (Labels.through entries).length ∧
    ∀ view : Held τ, (hashMapOf (erasedEntries entries))[Identified.handle view]? =
      (Labels.through entries).get? (Identified.handle view)

/-- The handles of things, without their types. -/
def erasedHandles (things : List (Held τ)) : List Handle :=
  things.map Identified.handle

/-- The handles of things, all viewed at one type. -/
def viewedHandles (type : τ) (things : List (Held τ)) : List (Variable type) :=
  things.map fun thing => (Identified.handle thing).typed type

/-- Handles that are collected through views are kept by variable, at each single type as erased. -/
structure CollectedByIdentity (type : τ) (things : List (Held τ)) : Prop where
  ascends : ((ascending (erasedHandles things)).map (·.index)).Pairwise (· < ·)
  members : ∀ view : Held τ, Identified.handle view ∈ ascending (erasedHandles things) ↔
    ∃ thing ∈ things, sameIdentity thing view = true
  erasedSet : (Std.TreeSet.ofList (erasedHandles things) mintingOrder).toList =
    ascending (erasedHandles things)
  viewedSet : (Std.TreeSet.ofList (viewedHandles type things) mintingOrder).toList.map
    Variable.erase = ascending (erasedHandles things)
  erasedSorted : (erasedHandles things).mergeSort (fun left right =>
    (mintingOrder left right).isLE) = ascendingRepeated (erasedHandles things)
  viewedSorted : ((viewedHandles type things).mergeSort fun left right =>
    (mintingOrder left right).isLE).map Variable.erase = ascendingRepeated (erasedHandles things)
  backwards : descending (erasedHandles things) =
    (ascendingRepeated (erasedHandles things)).reverse
  distinct : (distinctHandles (erasedHandles things)).length =
    (ascending (erasedHandles things)).length
  erasedHashed : (Std.HashSet.ofList (erasedHandles things)).size =
    (ascending (erasedHandles things)).length
  viewedHashed : (Std.HashSet.ofList (viewedHandles type things)).size =
    (ascending (erasedHandles things)).length
  unordered : ∀ others : List (Held τ), others.Perm things →
    SortedHandles.of (erasedHandles others) = SortedHandles.of (erasedHandles things) ∧
      ascendingRepeated (erasedHandles others) = ascendingRepeated (erasedHandles things)

/-- Insertions of labels for two different variables may change places. -/
theorem labelsFor_swap {before after : List (Held τ × α)} {left right : Held τ × α}
    (apart : sameIdentity left.1 right.1 = false) (view : Held τ) :
    labelsFor (before ++ right :: left :: after) view =
      labelsFor (before ++ left :: right :: after) view := by
  rw [labelsFor_append, labelsFor_append, labelsFor_cons, labelsFor_cons, labelsFor_cons,
    labelsFor_cons]
  -- At most one of the two entries is about the variable.
  by_cases first : sameIdentity left.1 view = true
  · have second : ¬ sameIdentity right.1 view = true := by
      intro second
      have same : Identified.handle left.1 = Identified.handle right.1 :=
        (beq_iff_eq.mp first).trans (beq_iff_eq.mp second).symm
      exact beq_eq_false_iff_ne.mp apart same
    rw [if_neg second, if_neg second]
  · rw [if_neg first, if_neg first]

/-- Where no two entries are about one variable, each has its label in every order of them. -/
theorem labelsFor_eq_of_perm {entries others : List (Held τ × α)} (arranged : others.Perm entries)
    (apart : entries.Pairwise fun left right => sameIdentity left.1 right.1 = false)
    (view : Held τ) : labelsFor others view = labelsFor entries view := by
  have own : (others.filter fun entry => sameIdentity entry.1 view).Perm
      (entries.filter fun entry => sameIdentity entry.1 view) := arranged.filter _
  have few : ((entries.filter fun entry => sameIdentity entry.1 view).Pairwise fun left right =>
      sameIdentity left.1 right.1 = false) := apart.filter _
  have about : ∀ entry ∈ entries.filter fun entry => sameIdentity entry.1 view,
      Identified.handle entry.1 = Identified.handle view := by
    intro entry member
    exact beq_iff_eq.mp (List.mem_filter.mp member).2
  rw [labelsFor, labelsFor]
  -- All entries about the variable have its handle, so there is at most one.
  generalize (entries.filter fun entry => sameIdentity entry.1 view) = kept at own few about ⊢
  rcases kept with _ | ⟨first, _ | ⟨second, rest⟩⟩
  · rw [own.eq_nil]
  · rw [List.perm_singleton.mp own]
  · have differ : sameIdentity first.1 second.1 = false :=
      (List.pairwise_cons.mp few).1 second List.mem_cons_self
    have same : Identified.handle first.1 = Identified.handle second.1 :=
      (about first (by simp)).trans (about second (by simp)).symm
    exact absurd same (beq_eq_false_iff_ne.mp differ)

/-- Labels of variables, put in through whatever views, are kept by variable. -/
theorem labelledByIdentity (entries : List (Held τ × α)) : LabelledByIdentity entries := by
  have sorted : ((Labels.through entries).map Prod.fst).Pairwise (· < ·) :=
    Labels.pairwise_ofEntries _
  have distinct := nodup_of_pairwise_lt sorted
  have members : ∀ handle, handle ∈ (Labels.through entries).map Prod.fst ↔
      handle ∈ entries.map fun entry => Identified.handle entry.1 :=
    fun handle => Labels.mem_map_fst_ofEntries
  have latest : ∀ handle, (Labels.through entries).get? handle =
      (labelsFor entries handle).getLast? := Labels.get?_ofEntries entries
  have reordered : ∀ others : List (Held τ × α),
      (∀ view : Held τ, labelsFor others view = labelsFor entries view) →
        Labels.through others = Labels.through entries := by
    -- A map of labels is known by the labels that it leads to, the last one of each variable.
    intro others same
    refine eq_of_lookup_eq (Labels.pairwise_ofEntries _) sorted fun handle => ?_
    have last := congrArg List.getLast? (same (.erased handle))
    exact (Labels.get?_ofEntries others handle).trans (last.trans (latest handle).symm)
  exact {
    size := by
      have counted := length_ascending (List.nodup_dedup _) fun handle =>
        List.mem_dedup.trans (members handle).symm
      rw [ascending_of_pairwise sorted, List.length_map] at counted
      exact counted
    keys := by
      intro view
      rw [members, List.mem_map]
      simp only [sameIdentity, beq_iff_eq]
    latest := fun view => latest (Identified.handle view)
    absent := fun view => Labels.get?_ofEntries_eq_none_iff
    reordered := reordered
    swapped := by
      rintro before after left right rfl apart
      exact reordered _ (labelsFor_swap apart)
    rearranged := fun others arranged apart =>
      reordered others (labelsFor_eq_of_perm arranged apart)
    inOrder := (List.pairwise_map.mp sorted).imp mintingOrder_eq_lt_iff.mpr
    created := by
      -- The handles of the map are some of the minted ones, and in the same order as these.
      intro supply count minted
      have antisymm : @Std.Antisymm Handle (· < ·) :=
        ⟨fun left right below above => absurd above (not_lt_of_lt below)⟩
      refine List.sublist_of_subperm_of_pairwise (List.subperm_of_subset distinct ?_) sorted
        (pairwise_of_index_eq_range' (supply.mintMany_index count))
      intro handle listed
      obtain ⟨entry, member, rfl⟩ := List.mem_map.mp ((members handle).mp listed)
      exact minted entry member
    inTreeMap := toList_treeMapOf entries
    inHashMap := ⟨size_hashMapOf entries, fun view => getElem?_hashMapOf entries _⟩ }

/-- Handles that are collected through whatever views are kept by variable. -/
theorem collectedByIdentity (type : τ) (things : List (Held τ)) :
    CollectedByIdentity type things := by
  -- Viewed at any type, a thing has the handle that it has without a type.
  have viewed : (viewedHandles type things).map Identified.handle = erasedHandles things := by
    rw [viewedHandles, List.map_map]
    rfl
  have erased : (erasedHandles things).map Identified.handle = erasedHandles things :=
    List.map_id _
  have counted : ∀ handles : List Handle,
      (distinctHandles handles).length = (ascending handles).length := fun handles =>
    (length_ascending (nodup_distinctHandles handles) fun _ => mem_distinctHandles).symm
  exact {
    ascends := List.pairwise_map.mpr (pairwise_ascending _)
    members := by
      intro view
      rw [mem_ascending, erasedHandles, List.mem_map]
      simp only [sameIdentity, beq_iff_eq]
    erasedSet := by
      have listed := map_handle_treeSet (erasedHandles things)
      rw [erased] at listed
      exact (List.map_id _).symm.trans listed
    viewedSet := by
      have listed := map_handle_treeSet (viewedHandles type things)
      rw [viewed] at listed
      exact listed
    erasedSorted := by
      have listed := map_handle_mergeSort (erasedHandles things)
      rw [erased] at listed
      exact (List.map_id _).symm.trans listed
    viewedSorted := by
      have listed := map_handle_mergeSort (viewedHandles type things)
      rw [viewed] at listed
      exact listed
    backwards := descending_eq_reverse _
    distinct := counted _
    erasedHashed := by
      have size := size_hashSet (fun _ _ same => same) (erasedHandles things)
      rw [erased] at size
      exact size
    viewedHashed := by
      have size := size_hashSet (fun _ _ same => Variable.ext same) (viewedHandles type things)
      rw [viewed] at size
      exact size
    unordered := by
      intro others arranged
      have same : (erasedHandles others).Perm (erasedHandles things) := arranged.map _
      have repeated := ascendingRepeated_eq_of_perm same
      have set : ascending (erasedHandles others) = ascending (erasedHandles things) :=
        ascending_eq_iff.mpr fun _ => same.mem_iff
      refine ⟨?_, repeated⟩
      simp only [SortedHandles.of, descending_eq_reverse, counted, set, repeated] }

/--
Collections that are keyed by handles see identities, not views.

A map of labels has one entry for each variable, the last one that was put in through any of its
views. A set of handles has each variable once, whether it is ordered or hashed, and a sorted list has
each as often as it was given, whatever types the handles are viewed at.
-/
theorem collections_see_identities {τ : Type} :
    (∀ {α : Type} (entries : List (Held τ × α)), LabelledByIdentity entries) ∧
      ∀ (type : τ) (things : List (Held τ)), CollectedByIdentity type things :=
  ⟨labelledByIdentity, collectedByIdentity⟩

end

end Unknowns
