import Unknowns.Proofs.Handle.Threads
import Unknowns.ValueType.Basic

/-! What threads share out: one unbroken block of handles, that serves each in written order. -/

namespace Unknowns

variable {τ : Type}

/-- What a thread takes for one list of variables, when those before it need a number of handles. -/
def takingsFor (own : List (Taking τ)) (before : Nat) (asked : List (Wanted τ)) :
    List (Taking τ) :=
  (own.drop before).take asked.length

/-- What is taken for a list of variables is taken for each of them in written order. -/
theorem takingsFor_wanted {own : List (Taking τ)} {pending before asked after : List (Wanted τ)}
    (written : own.map (·.wanted) ++ pending = before ++ asked ++ after) :
    (takingsFor own before.length asked).map (·.wanted) <+: asked ∧
      (pending.length ≤ after.length →
        (takingsFor own before.length asked).map (·.wanted) = asked) := by
  -- Behind what is written before, the thread's own list and the one asked for begin alike.
  have behind : (own.map (·.wanted)).drop before.length ++
      pending.drop (before.length - own.length) = asked ++ after := by
    have dropped := congrArg (List.drop before.length) written
    rw [List.append_assoc, List.drop_left, List.drop_append, List.length_map] at dropped
    exact dropped
  have served : (takingsFor own before.length asked).map (·.wanted) =
      ((own.map (·.wanted)).drop before.length).take asked.length := by
    rw [takingsFor, List.map_take, List.map_drop]
  have first : (takingsFor own before.length asked).map (·.wanted) <+: asked := by
    have whole : (own.map (·.wanted)).drop before.length <+: asked ++ after :=
      ⟨_, behind⟩
    rw [served]
    refine List.prefix_of_prefix_length_le ((List.take_prefix _ _).trans whole)
      (List.prefix_append asked after) ?_
    rw [List.length_take]
    omega
  refine ⟨first, fun past => first.eq_of_length ?_⟩
  have lengths := congrArg List.length written
  simp only [List.length_append, List.length_map] at lengths
  simp only [takingsFor, List.length_map, List.length_take, List.length_drop]
  omega

/-- What threads take of one counter, however their steps interleave. -/
structure SharedOut (counter : UInt64) (programs : Nat → List (List (Wanted τ)))
    (schedule : List Nat) (history : List (Moment τ)) (last : Process τ) : Prop where
  distinct : ((takings history).map (·.handle)).Nodup
  nonzero : ∀ taking ∈ takings history, taking.handle.index ≠ 0
  block : (takings history).map (·.handle.index) =
    List.range' counter.toNat (takings history).length
  -- Each addition takes a handle, as long as there are words left.
  unfailing : 0 < counter.toNat → counter.toNat + additions history ≤ UInt64.size →
    last.aborted = false ∧ (takings history).length = additions history
  increasing : ∀ thread, ((takingsOf thread history).map (·.handle)).Pairwise (· < ·)
  inTime : ∀ {first second : Nat} {wanted other : Wanted τ} {handle later : Handle},
    [⟨first, wanted, .returned handle⟩, ⟨second, other, .began⟩,
        ⟨second, other, .took later⟩].Sublist history →
      handle < later
  written : ∀ thread,
    (takingsOf thread history).map (·.wanted) ++ (last.workers thread).pending =
      (programs thread).flatten
  -- A list of variables is served in written order, and in full once its thread is past it.
  listed : ∀ {thread : Nat} {before after : List (List (Wanted τ))} {asked : List (Wanted τ)},
    programs thread = before ++ asked :: after →
      let served := takingsFor (takingsOf thread history) before.flatten.length asked
      served.map (·.wanted) <+: asked ∧
        ((last.workers thread).pending.length ≤ after.flatten.length →
          served.map (·.wanted) = asked) ∧
        (served.map (·.handle)).Pairwise (· < ·)
  -- Three turns for each of its mintings bring a thread through all of them.
  finished : last.aborted = false → ∀ thread,
    3 * (programs thread).flatten.length ≤ schedule.count thread →
      last.workers thread = ⟨.between, []⟩ ∧
        (takingsOf thread history).map (·.wanted) = (programs thread).flatten
  scheduled : ∀ supply : Supply, supply.next = counter.toNat →
    (takings history).map (fun taking => Minting.mk taking.thread taking.handle) =
      (mintScheduled ((takings history).map (·.thread)) supply).1
  -- What a number of threads find out together is told by how many handles there are.
  observed : ∀ supply : Supply, supply.next = counter.toNat → ∀ threads : Nat,
    MintingSummary.of threads
        ((takings history).map fun taking => Minting.mk taking.thread taking.handle) =
      { distinct := (takings history).length
        increasing := true
        least := (supply.mintMany (takings history).length).1.head?
        greatest := (supply.mintMany (takings history).length).1.getLast? }

/--
Threads share out one unbroken block of handles, in whatever order their steps are taken.

The schedule is any list of threads, so the same holds at every point of a longer one. A schedule
that is long enough serves every thread in full, unless the counter runs out of words.
-/
theorem Process.interleave_sharesOut (counter : UInt64)
    (programs : Nat → List (List (Wanted τ))) (schedule : List Nat) :
    SharedOut counter programs schedule ((start counter programs).interleave schedule).1
      ((start counter programs).interleave schedule).2 := by
  have runs := (start counter programs).interleave_runs schedule
  have rests := @workers_of_turns τ counter programs schedule
  generalize (start counter programs).interleave schedule = run at runs rests ⊢
  obtain ⟨history, last⟩ := run
  have block : (takings history).map (·.handle.index) =
      List.range' counter.toNat (takings history).length := runs.takings_index
  have indices : ((takings history).map (·.handle)).map (·.index) =
      List.range' counter.toNat (takings history).length := by rw [List.map_map]; exact block
  have ascending := pairwise_of_index_eq_range' indices
  -- What one thread takes, or takes for one list, is a part of what all of them take.
  have own : ∀ thread, ((takingsOf thread history).map (·.handle)).Pairwise (· < ·) :=
    fun thread => ascending.sublist (List.filter_sublist.map _)
  have written := runs.takingsOf_pending
  have below : (start counter programs).OutBelow := by
    intro thread wanted handle later stands
    cases stands
  have scheduled : ∀ supply : Supply, supply.next = counter.toNat →
      (takings history).map (fun taking => Minting.mk taking.thread taking.handle) =
        (mintScheduled ((takings history).map (·.thread)) supply).1 :=
    fun _ same => runs.takings_eq_mintScheduled same
  exact {
    distinct := ascending.imp fun less same => absurd (same ▸ less) (Nat.lt_irrefl _)
    nonzero := fun taking _ => Nat.ne_of_gt taking.handle.positive
    block := block
    unfailing := fun positive room => runs.live rfl (.inr ⟨positive, room⟩)
    increasing := own
    inTime := runs.lt_of_returned below
    written := written
    listed := by
      intro thread before after asked program
      have whole : (takingsOf thread history).map (·.wanted) ++ (last.workers thread).pending =
          before.flatten ++ asked ++ after.flatten := by
        rw [written thread]
        show (programs thread).flatten = _
        rw [program]
        simp
      obtain ⟨first, past⟩ := takingsFor_wanted whole
      refine ⟨first, past, (own thread).sublist (List.Sublist.map _ ?_)⟩
      exact (List.take_sublist _ _).trans (List.drop_sublist _ _)
    finished := by
      intro goes thread turns
      have none := rests goes turns
      -- With nothing left to mint, what was taken is all that was written.
      have whole := written thread
      rw [none] at whole
      exact ⟨none, (List.append_nil _).symm.trans whole⟩
    scheduled := scheduled
    observed := by
      intro supply same threads
      rw [scheduled supply same, summary_mintScheduled, List.length_map] }

/-- Two programs: the first mints a list of two variables, and the second two variables singly. -/
def twoPrograms : Nat → List (List (Wanted ValueType))
  | 0 => [[⟨some "x", .int32⟩, ⟨some "y", .bool⟩]]
  | 1 => [[⟨none, .int32⟩], [⟨none, .text⟩]]
  | _ => []

/-- A schedule of two threads, in which each of them is overtaken by the other. -/
def twoSchedule : List Nat := [0, 1, 1, 0, 0, 0, 1, 1, 1, 0, 0, 1]

/-- Two threads take four handles by turns, and are both served in full. -/
theorem Process.interleave_sharesOut_twoPrograms :
    (takings ((start 5 twoPrograms).interleave twoSchedule).1).map
        (fun taking => (taking.thread, taking.handle.index)) = [(1, 5), (0, 6), (1, 7), (0, 8)] ∧
      ∀ thread, (takingsOf thread ((start 5 twoPrograms).interleave twoSchedule).1).map
          (·.wanted) = (twoPrograms thread).flatten := by
  have shared := interleave_sharesOut 5 twoPrograms twoSchedule
  have goes : ((start 5 twoPrograms).interleave twoSchedule).2.aborted = false := by
    decide +kernel
  refine ⟨by decide +kernel, fun thread => (shared.finished goes thread ?_).2⟩
  match thread with
  | 0 | 1 => decide
  | _ + 2 => exact Nat.zero_le _

end Unknowns
