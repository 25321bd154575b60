import Unknowns.Transcript
import Unknowns.Variable

/-! Threads that mint from one counter: each addition to it is indivisible, and all else interleaves. -/

namespace Unknowns

/-- The handle that a word of the counter stands for; zero means that the counter has wrapped. -/
def handleOfWord? (word : UInt64) : Option Handle :=
  if positive : 0 < word.toNat then some ⟨word.toNat, positive⟩ else none

/-- A word stands for the handle with its own index. -/
theorem handleOfWord?_eq_some_iff {word : UInt64} {handle : Handle} :
    handleOfWord? word = some handle ↔ handle.index = word.toNat := by
  unfold handleOfWord?
  split
  · rw [Option.some.injEq]
    constructor
    · rintro rfl
      rfl
    · intro same
      exact Handle.eq_of_index same.symm
  · have positive := handle.positive
    simp only [reduceCtorEq, false_iff]
    omega

/-- Only zero stands for no handle. -/
theorem handleOfWord?_eq_none_iff {word : UInt64} :
    handleOfWord? word = none ↔ word.toNat = 0 := by
  unfold handleOfWord?
  split
  · simp only [reduceCtorEq, false_iff]
    omega
  · simp only [true_iff]
    omega

/-- A variable as it is asked for: its type, and its name if it gets one. -/
structure Wanted (τ : Type) where
  name : Option String
  type : τ

/-- Where a thread stands: outside of mintings, before its addition to the counter, or behind it. -/
inductive Phase (τ : Type)
  | between
  | begun (wanted : Wanted τ)
  | taken (wanted : Wanted τ) (handle : Handle)

/-- A thread: where it stands, and the variables that it has yet to mint, in written order. -/
structure Worker (τ : Type) where
  phase : Phase τ
  written : List (Wanted τ)

/-- What a step of a minting comes to; its addition takes a handle, or fails on a wrapped counter. -/
inductive Stage
  | began
  | took (handle : Handle)
  | failed
  | returned (handle : Handle)

/-- A step of a minting as it is seen from outside. -/
structure Moment (τ : Type) where
  thread : Nat
  wanted : Wanted τ
  stage : Stage

/-- All threads, with the counter that they share; once the process has aborted, none goes on. -/
structure Process (τ : Type) where
  counter : UInt64
  workers : Nat → Worker τ
  aborted : Bool

namespace Process

variable {τ : Type}

/-- The process before its first step; each thread mints what its lists of variables ask for. -/
def start (counter : UInt64) (programs : Nat → List (List (Wanted τ))) : Process τ :=
  -- A list of variables is written for their mintings one after another, and nothing else.
  { counter
    workers := fun thread => ⟨.between, (programs thread).flatten⟩
    aborted := false }

/-- The process with a thread at another place. -/
def put (process : Process τ) (thread : Nat) (worker : Worker τ) : Process τ :=
  { process with
    workers := fun other => if other = thread then worker else process.workers other }

/-- The process with its counter one further, or back at zero. -/
def counted (process : Process τ) : Process τ :=
  { process with counter := process.counter + 1 }

/-- The process once it has aborted. -/
def abort (process : Process τ) : Process τ :=
  { process with aborted := true }

@[simp] theorem put_counter (process : Process τ) (thread : Nat) (worker : Worker τ) :
    (process.put thread worker).counter = process.counter := rfl

@[simp] theorem put_aborted (process : Process τ) (thread : Nat) (worker : Worker τ) :
    (process.put thread worker).aborted = process.aborted := rfl

@[simp] theorem put_workers_same (process : Process τ) (thread : Nat) (worker : Worker τ) :
    (process.put thread worker).workers thread = worker := by
  simp [put]

theorem put_workers_of_ne (process : Process τ) {thread other : Nat} (worker : Worker τ)
    (differ : other ≠ thread) :
    (process.put thread worker).workers other = process.workers other := by
  simp [put, differ]

/-- The addition of a thread to the counter, which is a single step whatever it comes to. -/
def add (process : Process τ) (thread : Nat) (wanted : Wanted τ) (later : List (Wanted τ)) :
    List (Moment τ) × Process τ :=
  match handleOfWord? process.counter with
  | some handle =>
    ([⟨thread, wanted, .took handle⟩], process.counted.put thread ⟨.taken wanted handle, later⟩)
  -- Handing out an index again would make two variables one.
  | none => ([⟨thread, wanted, .failed⟩], process.counted.abort)

/-- The next step of a thread, if it has any left. -/
def step (process : Process τ) (thread : Nat) : List (Moment τ) × Process τ :=
  if process.aborted then ([], process)
  else
    match process.workers thread with
    | ⟨.between, []⟩ => ([], process)
    | ⟨.between, wanted :: later⟩ =>
      ([⟨thread, wanted, .began⟩], process.put thread ⟨.begun wanted, later⟩)
    | ⟨.begun wanted, later⟩ => process.add thread wanted later
    | ⟨.taken wanted handle, later⟩ =>
      ([⟨thread, wanted, .returned handle⟩], process.put thread ⟨.between, later⟩)

/-- The moments of a schedule, which lists for every step the thread that takes it. -/
def interleave (process : Process τ) (schedule : List Nat) : List (Moment τ) × Process τ :=
  let (steps, last) := transcript step process schedule
  (steps.flatten, last)

end Process

end Unknowns
