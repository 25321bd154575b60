import Unknowns.Handle.Threads
import Unknowns.Proofs.Handle.Supply

/-! Minting on threads: whatever the schedule, the counter hands out one unbroken block of indices. -/

namespace Unknowns

variable {τ : Type}

/-- A handle that was taken from the counter: by which thread, and for which variable. -/
structure Taking (τ : Type) where
  thread : Nat
  wanted : Wanted τ
  handle : Handle

namespace Moment

/-- The handle that a moment takes from the counter. -/
def taking? (moment : Moment τ) : Option (Taking τ) :=
  match moment.stage with
  | .took handle => some ⟨moment.thread, moment.wanted, handle⟩
  | _ => none

/-- The handle that is out once a moment has passed. -/
def handle? (moment : Moment τ) : Option Handle :=
  match moment.stage with
  | .took handle | .returned handle => some handle
  | _ => none

/-- Whether a moment is an addition to the counter. -/
def adds (moment : Moment τ) : Bool :=
  match moment.stage with
  | .took _ | .failed => true
  | _ => false

end Moment

/-- The handles that were taken in a history, in the order of the additions. -/
def takings (history : List (Moment τ)) : List (Taking τ) :=
  history.filterMap Moment.taking?

/-- A taking comes before those of the rest of the history. -/
theorem takings_cons_took (thread : Nat) (wanted : Wanted τ) (handle : Handle)
    (later : List (Moment τ)) :
    takings ([⟨thread, wanted, .took handle⟩] ++ later) =
      ⟨thread, wanted, handle⟩ :: takings later := rfl

/-- The handles that one thread took in a history, in order. -/
def takingsOf (thread : Nat) (history : List (Moment τ)) : List (Taking τ) :=
  (takings history).filter (·.thread = thread)

/-- The number of additions to the counter in a history; the last one may fail. -/
def additions (history : List (Moment τ)) : Nat :=
  history.countP Moment.adds

/-- The variables that a thread has yet to take a handle for, in written order. -/
def Worker.pending (worker : Worker τ) : List (Wanted τ) :=
  match worker.phase with
  | .begun wanted => wanted :: worker.written
  | _ => worker.written

/-- The steps that a thread has yet to take: three for each minting, less those behind it. -/
def Worker.remaining (worker : Worker τ) : Nat :=
  match worker.phase with
  | .between => 3 * worker.written.length
  | .begun _ => 3 * worker.written.length + 2
  | .taken _ _ => 3 * worker.written.length + 1

/-- A thread with no steps to take has minted all that it had to. -/
theorem Worker.eq_of_remaining {worker : Worker τ} (done : worker.remaining = 0) :
    worker = ⟨.between, []⟩ := by
  obtain ⟨phase, written⟩ := worker
  cases phase with
  | between =>
    have none : written.length = 0 := by
      simp only [remaining] at done
      omega
    rw [List.length_eq_zero_iff.mp none]
  | begun wanted => simp [remaining] at done
  | taken wanted handle => simp [remaining] at done

namespace Process

/-- Everything that the next step of a thread can be. -/
inductive Steps (process : Process τ) (thread : Nat) : List (Moment τ) → Process τ → Prop
  | rests (idle : process.aborted = true ∨ process.workers thread = ⟨.between, []⟩) :
      Steps process thread [] process
  | begins {wanted : Wanted τ} {later : List (Wanted τ)} (live : process.aborted = false)
      (stands : process.workers thread = ⟨.between, wanted :: later⟩) :
      Steps process thread [⟨thread, wanted, .began⟩] (process.put thread ⟨.begun wanted, later⟩)
  | takes {wanted : Wanted τ} {later : List (Wanted τ)} {handle : Handle}
      (live : process.aborted = false) (stands : process.workers thread = ⟨.begun wanted, later⟩)
      (counted : handle.index = process.counter.toNat) :
      Steps process thread [⟨thread, wanted, .took handle⟩]
        (process.counted.put thread ⟨.taken wanted handle, later⟩)
  | fails {wanted : Wanted τ} {later : List (Wanted τ)} (live : process.aborted = false)
      (stands : process.workers thread = ⟨.begun wanted, later⟩)
      (wrapped : process.counter.toNat = 0) :
      Steps process thread [⟨thread, wanted, .failed⟩] process.counted.abort
  | returns {wanted : Wanted τ} {handle : Handle} {later : List (Wanted τ)}
      (live : process.aborted = false)
      (stands : process.workers thread = ⟨.taken wanted handle, later⟩) :
      Steps process thread [⟨thread, wanted, .returned handle⟩]
        (process.put thread ⟨.between, later⟩)

/-- A step is one of those that a step can be. -/
theorem step_steps (process : Process τ) (thread : Nat) :
    process.Steps thread (process.step thread).1 (process.step thread).2 := by
  unfold step
  split
  · rename_i aborted
    exact .rests (.inl aborted)
  · rename_i live
    have live : process.aborted = false := Bool.eq_false_iff.mpr live
    rcases stands : process.workers thread with ⟨phase, written⟩
    cases phase with
    | between =>
      cases written with
      | nil => exact .rests (.inr stands)
      | cons wanted later => exact .begins live stands
    | begun wanted =>
      -- The addition takes the word before it, which is a handle unless it is zero.
      unfold add
      cases found : handleOfWord? process.counter with
      | some handle => exact .takes live stands (handleOfWord?_eq_some_iff.mp found)
      | none => exact .fails live stands (handleOfWord?_eq_none_iff.mp found)
    | taken wanted handle => exact .returns live stands

/-- The histories that a process can have, each with the process that it leaves. -/
inductive Runs : Process τ → List (Moment τ) → Process τ → Prop
  | stop (process : Process τ) : Runs process [] process
  | step {process next last : Process τ} {thread : Nat} {moments history : List (Moment τ)}
      (first : process.Steps thread moments next) (rest : Runs next history last) :
      Runs process (moments ++ history) last

/-- Every schedule makes one of the histories that a process can have. -/
theorem interleave_runs (process : Process τ) (schedule : List Nat) :
    process.Runs (process.interleave schedule).1 (process.interleave schedule).2 := by
  induction schedule generalizing process with
  | nil => exact .stop process
  | cons thread later ih => exact .step (process.step_steps thread) (ih _)

variable {process last : Process τ} {history : List (Moment τ)}

/-- Once the process has aborted, nothing happens any more. -/
theorem Runs.of_aborted (runs : process.Runs history last) (aborted : process.aborted = true) :
    history = [] ∧ last = process := by
  induction runs with
  | stop process => exact ⟨rfl, rfl⟩
  | step first rest ih =>
    cases first with
    | rests => exact ih aborted
    | begins live | takes live | fails live | returns live =>
      rw [aborted] at live
      cases live

/-- A process that goes on in the end has never aborted. -/
theorem Runs.live_of_last (runs : process.Runs history last) (goes : last.aborted = false) :
    process.aborted = false := by
  cases aborted : process.aborted with
  | false => rfl
  | true =>
    rw [(runs.of_aborted aborted).2, aborted] at goes
    cases goes

/-- An addition to the counter counts one further, or wraps around to zero. -/
theorem counted_counter (process : Process τ) :
    process.counted.counter.toNat = 0 ∧ process.counter.toNat + 1 = UInt64.size ∨
      process.counted.counter.toNat = process.counter.toNat + 1 ∧
        process.counter.toNat + 1 < UInt64.size := by
  have bound := process.counter.toNat_lt
  rw [counted, UInt64.toNat_add]
  simp only [UInt64.toNat_one, UInt64.size]
  omega

/-- On a wrapped counter no handle is taken any more. -/
theorem Runs.takings_of_wrapped (runs : process.Runs history last)
    (wrapped : process.counter.toNat = 0) : takings history = [] := by
  induction runs with
  | stop process => rfl
  | step first rest ih =>
    cases first with
    | rests => exact ih wrapped
    | begins live stands => exact ih wrapped
    | @takes wanted later handle live stands counted =>
      have positive := handle.positive
      omega
    | fails live stands =>
      rw [(rest.of_aborted rfl).1]
      rfl
    | returns live stands => exact ih wrapped

/-- The handles that are taken have the next indices of the counter, without a gap. -/
theorem Runs.takings_index (runs : process.Runs history last) :
    (takings history).map (·.handle.index) =
      List.range' process.counter.toNat (takings history).length := by
  -- Only a taking adds to the list and moves the counter, each time by one.
  induction runs with
  | stop process => rfl
  | @step process next last thread moments history first rest ih =>
    cases first with
    | rests => exact ih
    | begins live stands => exact ih
    | @takes wanted later handle live stands counted =>
      rw [put_counter] at ih
      simp only [takings_cons_took, List.map_cons, List.length_cons, List.range'_succ, counted]
      rcases process.counted_counter with ⟨wrapped, _⟩ | ⟨counts, _⟩
      · -- The last index was taken, and nothing can come after it.
        rw [rest.takings_of_wrapped wrapped]
        rfl
      · rw [ih, counts]
    | fails live stands wrapped =>
      rw [(rest.of_aborted rfl).1]
      rfl
    | returns live stands => exact ih

/-- A handle is taken only from a counter that has not wrapped, and is not below it. -/
theorem Runs.counter_le (runs : process.Runs history last) {taking : Taking τ}
    (taken : taking ∈ takings history) :
    0 < process.counter.toNat ∧ process.counter.toNat ≤ taking.handle.index := by
  constructor
  · rcases Nat.eq_zero_or_pos process.counter.toNat with wrapped | positive
    · rw [runs.takings_of_wrapped wrapped] at taken
      cases taken
    · exact positive
  · have listed : taking.handle.index ∈ (takings history).map (·.handle.index) :=
      List.mem_map_of_mem taken
    rw [runs.takings_index, List.mem_range'_1] at listed
    exact listed.1

/-- Every handle that a thread has taken and not yet returned is below the counter. -/
def OutBelow (process : Process τ) : Prop :=
  ∀ {thread : Nat} {wanted : Wanted τ} {handle : Handle} {later : List (Wanted τ)},
    process.workers thread = ⟨.taken wanted handle, later⟩ →
      -- A wrapped counter hands out nothing that could be compared with it.
      process.counter.toNat = 0 ∨ handle.index < process.counter.toNat

/-- A thread that goes on without a handle in its hands leaves no handle out above the counter. -/
theorem OutBelow.put (below : process.OutBelow) (thread : Nat) (worker : Worker τ)
    (empty : ∀ wanted handle, worker.phase ≠ .taken wanted handle) :
    (process.put thread worker).OutBelow := by
  intro other wanted handle later stands
  by_cases same : other = thread
  · subst same
    rw [put_workers_same] at stands
    exact absurd (congrArg Worker.phase stands) (empty wanted handle)
  · rw [put_workers_of_ne _ _ same] at stands
    exact below stands

/-- A thread that takes the next handle has it below the counter, as all others have theirs. -/
theorem OutBelow.take (below : process.OutBelow) {thread : Nat} {wanted : Wanted τ}
    {handle : Handle} (counted : handle.index = process.counter.toNat)
    (later : List (Wanted τ)) :
    (process.counted.put thread ⟨.taken wanted handle, later⟩).OutBelow := by
  intro other otherWanted otherHandle otherLater stands
  have positive := handle.positive
  rw [put_counter]
  rcases process.counted_counter with ⟨wrapped, _⟩ | ⟨counts, _⟩
  · exact .inl wrapped
  · right
    by_cases same : other = thread
    · subst same
      rw [put_workers_same] at stands
      cases stands
      omega
    · rw [put_workers_of_ne _ _ same] at stands
      rcases below stands with wrapped | under
      · omega
      · omega

/-- A handle that is out when another one is taken is the lesser of the two. -/
theorem Runs.pairwise (runs : process.Runs history last) (below : process.OutBelow) :
    history.Pairwise fun earlier later =>
      ∀ handle ∈ earlier.handle?, ∀ taking ∈ later.taking?, handle < taking.handle := by
  induction runs with
  | stop process => exact .nil
  | @step process next last thread moments history first rest ih =>
    -- Whatever is taken later is not below the counter that this step leaves.
    have above : ∀ later ∈ history, ∀ taking ∈ later.taking?,
        0 < next.counter.toNat ∧ next.counter.toNat ≤ taking.handle.index := by
      intro later member taking taken
      exact rest.counter_le (List.mem_filterMap.mpr ⟨later, member, taken⟩)
    cases first with
    | rests => exact ih below
    | begins live stands =>
      refine .cons ?_ (ih (below.put _ _ (by simp)))
      intro later member handle out
      cases out
    | @takes wanted asked handle live stands counted =>
      refine .cons ?_ (ih (below.take counted asked))
      intro later member out same taking taken
      cases same
      obtain ⟨positive, least⟩ := above later member taking taken
      rw [put_counter] at positive least
      show handle.index < taking.handle.index
      rcases process.counted_counter with ⟨wrapped, _⟩ | ⟨counts, _⟩
      · omega
      · omega
    | fails live stands wrapped =>
      rw [(rest.of_aborted rfl).1]
      exact List.pairwise_singleton _ _
    | @returns wanted handle asked live stands =>
      refine .cons ?_ (ih (below.put _ _ (by simp)))
      intro later member out same taking taken
      cases same
      obtain ⟨positive, least⟩ := above later member taking taken
      rw [put_counter] at positive least
      show handle.index < taking.handle.index
      rcases below stands with wrapped | under
      · omega
      · omega

/-- A step leaves all other threads where they stand. -/
theorem Steps.workers_of_ne {next : Process τ} {stepping thread : Nat} {moments : List (Moment τ)}
    (step : process.Steps stepping moments next) (differ : thread ≠ stepping) :
    next.workers thread = process.workers thread := by
  cases step with
  | rests | fails => rfl
  | begins | takes | returns => exact put_workers_of_ne _ _ differ

/-- A step takes a handle at most for the next variable that its own thread has to mint. -/
theorem Steps.takingsOf_pending {next : Process τ} {stepping : Nat} {moments : List (Moment τ)}
    (step : process.Steps stepping moments next) (thread : Nat) :
    (takingsOf thread moments).map (·.wanted) ++ (next.workers thread).pending =
      (process.workers thread).pending := by
  by_cases same : thread = stepping
  · subst same
    cases step with
    | rests => rfl
    | begins live stands =>
      rw [put_workers_same, stands]
      rfl
    | takes live stands =>
      rw [put_workers_same, stands]
      simp [takingsOf, takings, Moment.taking?, Worker.pending]
    | fails live stands => rfl
    | returns live stands =>
      rw [put_workers_same, stands]
      rfl
  · -- What another thread takes is not listed here.
    have apart : ¬ stepping = thread := fun equal => same equal.symm
    rw [step.workers_of_ne same]
    cases step with
    | rests | fails | begins | returns => rfl
    | takes => simp [takingsOf, takings, Moment.taking?, apart]

/-- A thread takes handles for the variables that it has to mint, one by one in written order. -/
theorem Runs.takingsOf_pending (runs : process.Runs history last) (thread : Nat) :
    (takingsOf thread history).map (·.wanted) ++ (last.workers thread).pending =
      (process.workers thread).pending := by
  induction runs with
  | stop process => rfl
  | step first rest ih =>
    rw [← first.takingsOf_pending thread, ← ih]
    simp [takingsOf, takings, List.filterMap_append]

/-- While there are words left for its additions, a process does not abort, and takes a handle each. -/
theorem Runs.live (runs : process.Runs history last) (live : process.aborted = false)
    (room : additions history = 0 ∨
      0 < process.counter.toNat ∧ process.counter.toNat + additions history ≤ UInt64.size) :
    last.aborted = false ∧ (takings history).length = additions history := by
  induction runs with
  | stop process => exact ⟨live, rfl⟩
  | @step process next last thread moments history first rest ih =>
    cases first with
    | rests => exact ih live room
    | begins _ stands => exact ih live room
    | @takes wanted later handle _ stands counted =>
      have one : additions ([⟨thread, wanted, .took handle⟩] ++ history) =
          additions history + 1 := List.countP_cons_of_pos rfl
      rw [one] at room ⊢
      have left : additions history = 0 ∨ 0 < process.counted.counter.toNat ∧
          process.counted.counter.toNat + additions history ≤ UInt64.size := by
        rcases process.counted_counter with ⟨wrapped, _⟩ | ⟨counts, _⟩ <;> omega
      obtain ⟨goes, each⟩ := ih live left
      refine ⟨goes, ?_⟩
      rw [takings_cons_took, List.length_cons, each]
    | @fails wanted later _ stands wrapped =>
      -- A wrapped counter has no room for an addition at all.
      have one : additions ([⟨thread, wanted, .failed⟩] ++ history) =
          additions history + 1 := List.countP_cons_of_pos rfl
      omega
    | returns _ stands => exact ih live room

/-- A step takes its own thread one step on, unless it has none left, and no other thread. -/
theorem Steps.remaining {next : Process τ} {stepping : Nat} {moments : List (Moment τ)}
    (step : process.Steps stepping moments next) (goes : next.aborted = false) (thread : Nat) :
    (next.workers thread).remaining =
      (process.workers thread).remaining - [stepping].count thread := by
  -- A thread at rest has no step left to lose, and the others are not touched.
  by_cases same : thread = stepping
  · subst same
    cases step with
    | rests idle =>
      rcases idle with aborted | stands
      · rw [goes] at aborted
        cases aborted
      · simp [stands, Worker.remaining]
    | begins live stands =>
      simp only [put_workers_same, stands, Worker.remaining, List.length_cons,
        List.count_singleton_self]
      omega
    | takes live stands => simp [stands, Worker.remaining]
    | fails live stands => cases goes
    | returns live stands => simp [stands, Worker.remaining]
  · rw [step.workers_of_ne same, List.count_singleton, if_neg (by simpa using Ne.symm same),
      Nat.sub_zero]

/-- Unless the process aborts, each turn of a thread in the schedule takes it one step on. -/
theorem interleave_remaining (process : Process τ) (schedule : List Nat)
    (goes : (process.interleave schedule).2.aborted = false) (thread : Nat) :
    ((process.interleave schedule).2.workers thread).remaining =
      (process.workers thread).remaining - schedule.count thread := by
  -- Each turn takes one off the steps that are left, until there are none.
  induction schedule generalizing process with
  | nil => rfl
  | cons stepping later ih =>
    -- The first step is followed by those of the rest, so it did not abort either.
    have rest : (process.interleave (stepping :: later)).2 =
        ((process.step stepping).2.interleave later).2 := rfl
    rw [rest] at goes ⊢
    have live := ((process.step stepping).2.interleave_runs later).live_of_last goes
    rw [ih _ goes, (process.step_steps stepping).remaining live thread, Nat.sub_sub,
      ← List.count_append, List.singleton_append]

/-- A thread that has had three turns for each of its mintings is through with all of them. -/
theorem workers_of_turns {counter : UInt64} {programs : Nat → List (List (Wanted τ))}
    {schedule : List Nat} (goes : ((start counter programs).interleave schedule).2.aborted = false)
    {thread : Nat} (turns : 3 * (programs thread).flatten.length ≤ schedule.count thread) :
    ((start counter programs).interleave schedule).2.workers thread = ⟨.between, []⟩ := by
  -- It starts with three steps for each minting, and each turn takes it one further.
  have steps : ((start counter programs).workers thread).remaining =
      3 * (programs thread).flatten.length := rfl
  apply Worker.eq_of_remaining
  rw [interleave_remaining _ _ goes, steps]
  omega

end Process

/-- Mintings with the next indices of a supply are those of the schedule of their threads. -/
theorem eq_mintScheduled {mintings : List Minting} {supply : Supply}
    (consecutive : mintings.map (·.handle.index) = List.range' supply.next mintings.length) :
    mintings = (mintScheduled (mintings.map (·.thread)) supply).1 := by
  induction mintings generalizing supply with
  | nil => rfl
  | cons first rest ih =>
    simp only [List.map_cons, List.length_cons, List.range'_succ, List.cons.injEq] at consecutive
    obtain ⟨least, others⟩ := consecutive
    have next : rest = (mintScheduled (rest.map (·.thread)) supply.mint.2).1 := ih others
    have handle : first.handle = supply.mint.1 := Handle.eq_of_index least
    simp only [List.map_cons, mintScheduled, ← handle]
    rw [← next]

section

variable {process last : Process τ} {history : List (Moment τ)}

/-- A handle that is returned before another minting begins is the lesser of the two. -/
theorem Process.Runs.lt_of_returned (runs : process.Runs history last) (below : process.OutBelow)
    {first second : Nat} {wanted other : Wanted τ} {handle later : Handle}
    (inOrder : [⟨first, wanted, .returned handle⟩, ⟨second, other, .began⟩,
      ⟨second, other, .took later⟩].Sublist history) : handle < later := by
  have three := (runs.pairwise below).sublist inOrder
  have taken : ⟨second, other, .took later⟩ ∈
      [⟨second, other, .began⟩, (⟨second, other, .took later⟩ : Moment τ)] := by simp
  exact (List.pairwise_cons.mp three).1 _ taken handle rfl _ rfl

/-- What threads take is what the schedule of their additions hands out. -/
theorem Process.Runs.takings_eq_mintScheduled (runs : process.Runs history last) {supply : Supply}
    (same : supply.next = process.counter.toNat) :
    (takings history).map (fun taking => Minting.mk taking.thread taking.handle) =
      (mintScheduled ((takings history).map (·.thread)) supply).1 := by
  have consecutive : ((takings history).map fun taking =>
      Minting.mk taking.thread taking.handle).map (·.handle.index) =
        List.range' supply.next (takings history).length := by
    rw [List.map_map, same]
    exact runs.takings_index
  have equal := eq_mintScheduled (by rw [List.length_map]; exact consecutive)
  rw [List.map_map] at equal
  exact equal

end

end Unknowns
