import Unknowns.Handle.Schedule

/-! Laws of minting: the handles that a supply hands out are the next indices, one after another. -/

namespace Unknowns

namespace Supply

/-- Several handles of a supply have the next indices, without a gap. -/
theorem mintMany_index (count : Nat) (supply : Supply) :
    (supply.mintMany count).1.map (·.index) = List.range' supply.next count := by
  -- The first handle takes the next index, and the others go on behind it.
  induction count generalizing supply with
  | zero => rfl
  | succ count ih =>
    simp only [mintMany, List.map_cons, List.range'_succ]
    rw [ih]
    rfl

/-- Several handles of a supply are as many as were asked for. -/
theorem mintMany_length (count : Nat) (supply : Supply) :
    (supply.mintMany count).1.length = count := by
  have counted := congrArg List.length (mintMany_index count supply)
  simpa using counted

end Supply

/-- Handles whose indices follow one another without a gap are in strictly ascending order. -/
theorem pairwise_of_index_eq_range' {handles : List Handle} {first count : Nat}
    (consecutive : handles.map (·.index) = List.range' first count) :
    handles.Pairwise (· < ·) := by
  have ascending : (handles.map (·.index)).Pairwise (· < ·) := by
    rw [consecutive]
    exact List.pairwise_lt_range'
  rw [List.pairwise_map] at ascending
  exact ascending

/-- A schedule hands out what a single thread would, whichever threads take its steps. -/
theorem mintScheduled_handles (schedule : List Nat) (supply : Supply) :
    (mintScheduled schedule supply).1.map (·.handle) = (supply.mintMany schedule.length).1 := by
  induction schedule generalizing supply with
  | nil => rfl
  | cons thread later ih =>
    simp only [mintScheduled, List.map_cons, List.length_cons, Supply.mintMany]
    rw [ih]

/-- Handles in strictly ascending order are found to increase. -/
theorem isIncreasing_of_pairwise {handles : List Handle} (sorted : handles.Pairwise (· < ·)) :
    isIncreasing handles = true := by
  induction handles with
  | nil => rfl
  | cons first rest ih =>
    obtain ⟨least, others⟩ := List.pairwise_cons.mp sorted
    cases rest with
    | nil => rfl
    | cons second later =>
      have below : first < second := least second List.mem_cons_self
      rw [isIncreasing, ih others, decide_eq_true below]
      rfl

/-- What threads observe together does not depend on which of them takes which step. -/
theorem summary_mintScheduled (threads : Nat) (schedule : List Nat) (supply : Supply) :
    MintingSummary.of threads (mintScheduled schedule supply).1 =
      { distinct := schedule.length
        increasing := true
        least := (supply.mintMany schedule.length).1.head?
        greatest := (supply.mintMany schedule.length).1.getLast? } := by
  -- One supply serves all threads in order, and each thread sees a part of that order.
  have handles := mintScheduled_handles schedule supply
  have sorted := pairwise_of_index_eq_range' (supply.mintMany_index schedule.length)
  have own : ∀ thread, isIncreasing (handlesOf thread (mintScheduled schedule supply).1) = true := by
    intro thread
    refine isIncreasing_of_pairwise (sorted.sublist ?_)
    rw [← handles]
    exact List.filter_sublist.map _
  have increasing : ((List.range threads).all fun thread =>
      isIncreasing (handlesOf thread (mintScheduled schedule supply).1)) = true :=
    List.all_eq_true.mpr fun thread _ => own thread
  simp only [MintingSummary.of, handles, ascending_of_pairwise sorted, supply.mintMany_length,
    increasing]

end Unknowns
